import TensorTyping.Event
import TensorTyping.Window

/-!
# Automatic padding

An automatic padding of a convolution gives one position for each stride that the input begins.
That of a transposed convolution gives `stride` cells for each cell of the input.

* `AutoPad.distribute` — shares a total between the two ends of an axis.
* `Window.samePadding`, `Window.transposedSamePadding` — the padding of one axis.
* `Padding.resolve`, `Padding.resolveTransposed` — the padding of both axes.
-/

namespace TensorTyping

/-- Shares a total between the two ends of an axis; the policy says where the odd cell goes. -/
def AutoPad.distribute (policy : AutoPad) (total : Dim) : Infer AxisPadding := do
  let smaller ← Dim.quotient total 2
  let larger ← Dim.minus total smaller
  match policy with
  | .sameUpper => return ⟨smaller, larger⟩
  | .sameLower => return ⟨larger, smaller⟩

namespace Window

/-- The cells that the window needs for one position per stride that the input begins. -/
def neededInput (w : Window) : Magnitude .dimension :=
  (Magnitude.divCeil (.ofDim w.input) (.ofDim w.stride) - 1) * .ofDim w.stride + w.effective

/-- The least padding that gives one position for each stride that the input begins. -/
def samePadding (w : Window) (policy : AutoPad) : Traced AxisPadding := do
  let needed ← w.neededInput.dimOrOverflow (.samePadding w.input w.size w.stride w.dilation)
  let total : Dim := .ofNat (needed.toNat - w.input.toNat)
  let padding ← policy.distribute total
  Traced.emit (.paddingResolved .convolution policy w.input total padding)
  return padding

/-- The cells by which a transposed window exceeds `stride` cells for each cell of the input. -/
def transposedExcess (w : Window) (outputPadding : Dim) : Magnitude .dimension :=
  .ofDim w.stride * (.ofDim w.input - 1) + w.effective + .ofDim outputPadding
    - .ofDim w.input * .ofDim w.stride

/-- The padding that leaves `stride` cells for each cell of the input. -/
def transposedSamePadding (w : Window) (policy : AutoPad) (outputPadding : Dim) :
    Traced AxisPadding := do
  let total ← (w.transposedExcess outputPadding).dimOrOverflow
    (.transposedPadding w.input w.size w.stride w.dilation outputPadding)
  let padding ← policy.distribute total
  Traced.emit (.paddingResolved .transposedConvolution policy w.input total padding)
  return padding

end Window

namespace Padding

/-- The padding of a convolution: as given, or computed for height and then for width. -/
def resolve (padding : Padding) (w : Window2d) : Traced Padding2d :=
  match padding with
  | explicit given => return given
  | auto policy => do
    let height ← w.height.samePadding policy
    let width ← w.width.samePadding policy
    return .ofAxes height width

/-- The padding of a transposed convolution: as given, or computed for height and then for width. -/
def resolveTransposed (padding : Padding) (w : Window2d) (outputPadding : Size2d Dim) :
    Traced Padding2d :=
  match padding with
  | explicit given => return given
  | auto policy => do
    let height ← w.height.transposedSamePadding policy outputPadding.height
    let width ← w.width.transposedSamePadding policy outputPadding.width
    return .ofAxes height width

end Padding

end TensorTyping
