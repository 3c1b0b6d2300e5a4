import TensorTyping.Layout
import TensorTyping.SamePadding
import TensorTyping.Rule

/-!
# Convolution

A filter moves over the two spatial axes of an activation. The channels of the input are shared out
among groups, each of which sees the filter's input channels.

* `Convolution` — the attributes; `Convolution.infer` is the output.
-/

namespace TensorTyping

/-- The attributes of a convolution. -/
structure Convolution where
  padding : Padding
  strides : Size2d Dim
  dilations : Size2d Dim
  groups : Dim
  layout : ActivationLayout
  filterLayout : FilterLayout
  bias : Option Operand
  deriving DecidableEq

/-- Steps, dilations and groups are positive. -/
def requireSteps (operator : String) (strides dilations : Size2d Dim) (groups : Dim) :
    Infer Unit := do
  strides.requirePositive (operator ++ " strides")
  dilations.requirePositive (operator ++ " dilations")
  require (groups ≠ 0) (.zeroGroups operator)

/-- A bias, if there is one, has an entry for each output channel. -/
def requireBias (operator : String) (bias : Option Operand) (dataType : DataType)
    (channels : Dim) : Infer Unit := do
  match bias with
  | none => return
  | some bias =>
    bias.requireType dataType (operator ++ " bias")
    bias.requireRank 1 (operator ++ " bias")
    let length ← bias.shape.dim 0
    require (length = channels) (.biasLength operator length channels)

/-- The ranks and types of the input and the filter of a convolution of either direction. -/
def requireConvolved (operator : String) (input filter : Operand) : Infer Unit := do
  input.requireRank 4 (operator ++ " input")
  input.requireFloatingPoint (operator ++ " input")
  filter.requireRank 4 (operator ++ " filter")
  filter.requireType input.dataType (operator ++ " filter")

namespace Convolution

/-- The input and the filter by name, once they are known to fit each other. -/
def operands (c : Convolution) (input filter : Operand) : Infer (Activation × Filter) := do
  requireConvolved "Conv2d" input filter
  requireSteps "Conv2d" c.strides c.dilations c.groups
  let x ← c.layout.split input.shape
  let f ← c.filterLayout.split filter.shape
  let rest ← Dim.remainder x.channels c.groups
  require (rest = 0) (.indivisibleChannels "Conv2d" x.channels c.groups)
  let share ← Dim.quotient x.channels c.groups
  require (f.inputChannels = share) (.filterChannels f.inputChannels x.channels c.groups)
  return (x, f)

/-- The window with which the filter moves over the input. -/
def window (c : Convolution) (x : Activation) (f : Filter) : Window2d :=
  ⟨x.size, f.size, c.strides, c.dilations⟩

/-- The output of a convolution. -/
def infer (c : Convolution) (input filter : Operand) : Traced Operand := do
  let (x, f) ← c.operands input filter
  let window := c.window x f
  let padding ← c.padding.resolve window
  let height ← window.height.positions "Conv2d" padding.height
  let width ← window.width.positions "Conv2d" padding.width
  Traced.emit (.convolutionSizes ⟨height, width⟩ padding)
  requireBias "Conv2d" c.bias input.dataType f.outputChannels
  let height ← Dim.ofInt height.floor
  let width ← Dim.ofInt width.floor
  Operand.create input.dataType (c.layout.join ⟨x.batches, f.outputChannels, height, width⟩)

end Convolution

end TensorTyping
