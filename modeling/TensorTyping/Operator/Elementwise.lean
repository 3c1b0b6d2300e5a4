import TensorTyping.Broadcast
import TensorTyping.Rule

/-!
# Elementwise operators

* `BinaryKind.infer` — arithmetic, comparisons and logic of two operands.
* `select` — one of two values, by a condition.
* `prelu` — a slope for the negative elements.
* `softmax` — normalized exponentials of the rows of a matrix.
-/

namespace TensorTyping

/-- The type of the elements that an operator gives for operands of the given type. -/
def BinaryKind.outputType (kind : BinaryKind) (dataType : DataType) : DataType :=
  if kind.isComparison || kind.isLogical then .uint8 else dataType

/-- The output of an elementwise operator of two operands. Logic takes truth values only. -/
def BinaryKind.infer (kind : BinaryKind) (a b : Operand) : Infer Operand := do
  b.requireType a.dataType (describe kind ++ " second input")
  if kind.isLogical then
    a.requireType .uint8 (describe kind ++ " input")
  let shape ← broadcast .plain .bidirectional a.shape b.shape
  Operand.create (kind.outputType a.dataType) shape

/-- The values broadcast together, and the condition with the result. -/
def select (condition trueValue falseValue : Operand) : Infer Operand := do
  condition.requireType .uint8 "Where condition"
  falseValue.requireType trueValue.dataType "Where false value"
  let values ← broadcast .plain .bidirectional trueValue.shape falseValue.shape
  let shape ← broadcast .plain .bidirectional condition.shape values
  Operand.create trueValue.dataType shape

/-- The slope stretches onto the input, which is also the output. -/
def prelu (input slope : Operand) : Infer Operand := do
  input.requireFloatingPoint "PReLU input"
  slope.requireType input.dataType "PReLU slope"
  let _ ← broadcast .preluSlope .unidirectional slope.shape input.shape
  return input

/-- The output of softmax is its input. -/
def softmax (input : Operand) : Infer Operand := do
  input.requireRank 2 "Softmax input"
  input.requireFloatingPoint "Softmax input"
  return input

end TensorTyping
