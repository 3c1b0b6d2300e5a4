import TensorTyping.Layout
import TensorTyping.SamePadding
import TensorTyping.Rule

/-!
# Pooling

A window without weights moves over the two spatial axes of an activation and keeps the channels.
The positions may come out fractional; they are rounded as the attributes say, or as the requested
sizes show.

* `Pooling` — the attributes; `Pooling.infer` is the output.
* `globalPooling` — one position that covers the whole of both axes.
-/

namespace TensorTyping

/-- The attributes of a pooling. -/
structure Pooling where
  kind : PoolKind
  window : Size2d Dim
  padding : Padding
  strides : Size2d Dim
  dilations : Size2d Dim
  layout : ActivationLayout
  rounding : RoundingMode
  /-- The sizes of the output, which are those of one of the two roundings. -/
  outputSizes : Option (Size2d Dim)
  deriving DecidableEq

/-- The input of a pooling. -/
def PoolKind.requireInput (kind : PoolKind) (input : Operand) : Infer Unit := do
  input.requireRank 4 (kind.operator ++ " input")
  if kind.requiresFloatingPoint then
    input.requireFloatingPoint (kind.operator ++ " input")

namespace Pooling

/-- The input by name, once it is known to fit the attributes. -/
def operand (p : Pooling) (input : Operand) : Infer Activation := do
  p.kind.requireInput input
  p.window.requirePositive (p.kind.operator ++ " window dimensions")
  p.strides.requirePositive (p.kind.operator ++ " strides")
  p.dilations.requirePositive (p.kind.operator ++ " dilations")
  p.layout.split input.shape

/-- The window as it moves over the input. -/
def slidingWindow (p : Pooling) (x : Activation) : Window2d :=
  ⟨x.size, p.window, p.strides, p.dilations⟩

/-- The sizes of the output, given those of the two roundings. -/
def choose (p : Pooling) (floor ceil : Size2d Dim) : Traced (Size2d Dim) := do
  match p.outputSizes with
  | some requested =>
    if requested = floor ∨ requested = ceil then
      return requested
    else
      let cause := .poolSizes p.kind requested floor ceil
      Traced.emit (.sizesRejected p.kind.operator cause)
      reject cause
  | none =>
    match p.rounding with
    | .floor => return floor
    | .ceil => return ceil

/-- The output of a pooling. -/
def infer (p : Pooling) (input : Operand) : Traced Operand := do
  let x ← p.operand input
  let window := p.slidingWindow x
  let padding ← p.padding.resolve window
  let height ← window.height.positions p.kind.operator padding.height
  let width ← window.width.positions p.kind.operator padding.width
  Traced.emit (.poolingSizes p.kind ⟨height, width⟩ padding)
  let floor : Size2d Dim := ⟨← Dim.ofInt height.floor, ← Dim.ofInt width.floor⟩
  let ceil : Size2d Dim := ⟨← Dim.ofInt height.ceil, ← Dim.ofInt width.ceil⟩
  let size ← p.choose floor ceil
  Operand.create input.dataType (p.layout.join ⟨x.batches, x.channels, size.height, size.width⟩)

end Pooling

/-- The output of a pooling whose window covers both axes. -/
def globalPooling (kind : PoolKind) (layout : ActivationLayout) (input : Operand) :
    Infer Operand := do
  kind.requireInput input
  let x ← layout.split input.shape
  Operand.create input.dataType (layout.join ⟨x.batches, x.channels, 1, 1⟩)

end TensorTyping
