import TensorTyping.Number.Single
import TensorTyping.Attribute.Spatial

/-!
# Kinds and choices

The finite choices by which one operator stands for a family, and the two attributes that carry one
of two sorts of values.

* `PoolKind`, `RoundingMode` — pooling.
* `ReduceKind`, `ArgKind` — reductions, and the reductions that answer places.
* `BinaryKind` — elementwise operators of two operands.
* `PadMode`, `Interpolation` — padding and resampling.
* `Partition`, `ResampleTarget` — how an axis is split, and how a resampled size is given.
-/

namespace TensorTyping

/-- What a pooling window computes. -/
inductive PoolKind where
  | average
  | l2
  | max
  deriving DecidableEq

namespace PoolKind

/-- The operator's name in messages. -/
def operator : PoolKind → String
  | average => "AveragePool2d"
  | l2 => "L2Pool2d"
  | max => "MaxPool2d"

def requiresFloatingPoint : PoolKind → Bool
  | average | l2 => true
  | max => false

instance : Tagged PoolKind where
  all := [average, l2, max]
  tag
    | average => "average"
    | l2 => "l2"
    | max => "max"
  title
    | average => "Average"
    | l2 => "L2"
    | max => "Max"

end PoolKind

/-- How a fractional number of positions is rounded. -/
inductive RoundingMode where
  | floor
  | ceil
  deriving DecidableEq

instance : Tagged RoundingMode where
  all := [.floor, .ceil]
  tag
    | .floor => "floor"
    | .ceil => "ceil"
  title
    | .floor => "Floor"
    | .ceil => "Ceil"

/-- What a reduction computes. -/
inductive ReduceKind where
  | l1
  | l2
  | logSum
  | logSumExp
  | max
  | mean
  | min
  | product
  | sum
  | sumSquare
  deriving DecidableEq

namespace ReduceKind

def requiresFloatingPoint : ReduceKind → Bool
  | l2 | logSum | logSumExp | mean => true
  | _ => false

instance : Tagged ReduceKind where
  all := [l1, l2, logSum, logSumExp, max, mean, min, product, sum, sumSquare]
  tag
    | l1 => "l1"
    | l2 => "l2"
    | logSum => "log_sum"
    | logSumExp => "log_sum_exp"
    | max => "max"
    | mean => "mean"
    | min => "min"
    | product => "product"
    | sum => "sum"
    | sumSquare => "sum_square"
  title
    | l1 => "L1"
    | l2 => "L2"
    | logSum => "LogSum"
    | logSumExp => "LogSumExp"
    | max => "Max"
    | mean => "Mean"
    | min => "Min"
    | product => "Product"
    | sum => "Sum"
    | sumSquare => "SumSquare"

/-- The operator's name in messages. -/
def operator (kind : ReduceKind) : String :=
  "Reduce" ++ describe kind

end ReduceKind

/-- Which extreme element a reduction answers the place of. -/
inductive ArgKind where
  | argMin
  | argMax
  deriving DecidableEq

instance : Tagged ArgKind where
  all := [.argMin, .argMax]
  tag
    | .argMin => "arg_min"
    | .argMax => "arg_max"
  title
    | .argMin => "ArgMin"
    | .argMax => "ArgMax"

/-- Elementwise operators of two operands: arithmetic, comparisons and logic. -/
inductive BinaryKind where
  | add
  | sub
  | mul
  | div
  | max
  | min
  | pow
  | equal
  | greater
  | greaterOrEqual
  | lesser
  | lesserOrEqual
  | logicalAnd
  | logicalOr
  | logicalXor
  deriving DecidableEq

namespace BinaryKind

def isComparison : BinaryKind → Bool
  | equal | greater | greaterOrEqual | lesser | lesserOrEqual => true
  | _ => false

def isLogical : BinaryKind → Bool
  | logicalAnd | logicalOr | logicalXor => true
  | _ => false

instance : Tagged BinaryKind where
  all := [add, sub, mul, div, max, min, pow, equal, greater, greaterOrEqual, lesser, lesserOrEqual,
    logicalAnd, logicalOr, logicalXor]
  tag
    | add => "add"
    | sub => "sub"
    | mul => "mul"
    | div => "div"
    | max => "max"
    | min => "min"
    | pow => "pow"
    | equal => "equal"
    | greater => "greater"
    | greaterOrEqual => "greater_or_equal"
    | lesser => "lesser"
    | lesserOrEqual => "lesser_or_equal"
    | logicalAnd => "logical_and"
    | logicalOr => "logical_or"
    | logicalXor => "logical_xor"
  title
    | add => "Add"
    | sub => "Sub"
    | mul => "Mul"
    | div => "Div"
    | max => "Max"
    | min => "Min"
    | pow => "Pow"
    | equal => "Equal"
    | greater => "Greater"
    | greaterOrEqual => "GreaterOrEqual"
    | lesser => "Lesser"
    | lesserOrEqual => "LesserOrEqual"
    | logicalAnd => "LogicalAnd"
    | logicalOr => "LogicalOr"
    | logicalXor => "LogicalXor"

end BinaryKind

/-- What the cells added by padding hold. -/
inductive PadMode where
  | constant
  | edge
  /-- The cells beyond the edge, in reverse, without the edge itself. -/
  | reflection
  /-- The cells beyond the edge, in reverse, with the edge itself. -/
  | symmetric
  deriving DecidableEq

instance : Tagged PadMode where
  all := [.constant, .edge, .reflection, .symmetric]
  tag
    | .constant => "constant"
    | .edge => "edge"
    | .reflection => "reflection"
    | .symmetric => "symmetric"
  title
    | .constant => "Constant"
    | .edge => "Edge"
    | .reflection => "Reflection"
    | .symmetric => "Symmetric"

/-- How a resampled element is computed. -/
inductive Interpolation where
  | nearestNeighbor
  | linear
  deriving DecidableEq

instance : Tagged Interpolation where
  all := [.nearestNeighbor, .linear]
  tag
    | .nearestNeighbor => "nearest_neighbor"
    | .linear => "linear"
  title
    | .nearestNeighbor => "NearestNeighbor"
    | .linear => "Linear"

/-- How an axis is split. -/
inductive Partition where
  /-- Into a number of equal parts. -/
  | count (parts : Dim)
  /-- Into parts of the given sizes. -/
  | sizes (sizes : List Dim)
  deriving DecidableEq

instance : Describe Partition where
  describe
    | .count parts => describeVariant "Count" (describe parts)
    | .sizes sizes => describeVariant "Sizes" (describe sizes)

/-- How the new sizes of two resampled axes are given. -/
inductive ResampleTarget where
  /-- By a factor for each axis. -/
  | scales (scales : Size2d Single)
  /-- By the sizes themselves. -/
  | sizes (sizes : Size2d Dim)
  deriving DecidableEq

instance : Describe ResampleTarget where
  describe
    | .scales scales => describeVariant "Scales" (describe scales)
    | .sizes sizes => describeVariant "Sizes" (describe sizes)

end TensorTyping
