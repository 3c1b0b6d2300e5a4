import TensorTyping.Operator.Convolution

/-!
# Transposed convolution

The direction of a convolution is turned around: each cell of the input spreads over a window of the
output. Several sizes of the output belong to one size of the input, so a request may name one of
them.

* `TransposedConvolution` — the attributes; `TransposedConvolution.infer` is the output.
-/

namespace TensorTyping

/-- The attributes of a transposed convolution. -/
structure TransposedConvolution where
  padding : Padding
  strides : Size2d Dim
  dilations : Size2d Dim
  outputPadding : Size2d Dim
  /-- The sizes of the output, in place of the computed ones. -/
  outputSizes : Option (Size2d Dim)
  groups : Dim
  layout : ActivationLayout
  filterLayout : TransposedFilterLayout
  bias : Option Operand
  deriving DecidableEq

namespace TransposedConvolution

/-- The input and the filter by name, once they are known to fit each other. -/
def operands (c : TransposedConvolution) (input filter : Operand) :
    Infer (Activation × Filter) := do
  requireConvolved "ConvTranspose2d" input filter
  requireSteps "ConvTranspose2d" c.strides c.dilations c.groups
  let x ← c.layout.split input.shape
  let f ← c.filterLayout.split filter.shape
  let rest ← Dim.remainder x.channels c.groups
  require (rest = 0) (.indivisibleChannels "ConvTranspose2d" x.channels c.groups)
  require (f.inputChannels = x.channels) (.transposedFilterChannels f.inputChannels x.channels)
  require (c.outputPadding.height < c.strides.height ∧ c.outputPadding.width < c.strides.width)
    (.outputPadding c.outputPadding c.strides)
  return (x, f)

/-- The window with which the filter moves over the output. -/
def window (c : TransposedConvolution) (x : Activation) (f : Filter) : Window2d :=
  ⟨x.size, f.size, c.strides, c.dilations⟩

/-- A requested size is one of the `stride` sizes from the computed one on. -/
def requireRequested (axis : String) (requested computed stride : Dim) : Traced Unit := do
  require (requested ≠ 0) (.zeroOutput axis)
  let bound ← (Magnitude.ofDim computed + .ofDim stride).dimOrOverflow
    (.transposedBound axis computed stride)
  if computed ≤ requested ∧ requested < bound then
    return
  else
    let cause := .outputOutOfRange axis requested computed bound
    Traced.emit (.sizesRejected "ConvTranspose2d" cause)
    reject cause

/-- The sizes of the output: as requested, or computed. -/
def outputSize (c : TransposedConvolution) (window : Window2d) (padding : Padding2d) :
    Traced (Size2d Dim) := do
  match c.outputSizes with
  | some requested =>
    let height ← window.height.transposedSize padding.height 0
    let width ← window.width.transposedSize padding.width 0
    requireRequested "height" requested.height height c.strides.height
    requireRequested "width" requested.width width c.strides.width
    return requested
  | none =>
    let height ← window.height.transposedSize padding.height c.outputPadding.height
    let width ← window.width.transposedSize padding.width c.outputPadding.width
    return ⟨height, width⟩

/-- The output of a transposed convolution. -/
def infer (c : TransposedConvolution) (input filter : Operand) : Traced Operand := do
  let (x, f) ← c.operands input filter
  let window := c.window x f
  let padding ← c.padding.resolveTransposed window c.outputPadding
  let size ← c.outputSize window padding
  let channels ← (Magnitude.ofDim f.outputChannels * .ofDim c.groups).dimOrOverflow
    (.transposedChannels f.outputChannels c.groups)
  requireBias "ConvTranspose2d" c.bias input.dataType channels
  Operand.create input.dataType (c.layout.join ⟨x.batches, channels, size.height, size.width⟩)

end TransposedConvolution

end TensorTyping
