import TensorTyping.Infer

/-!
# Sliding windows

A window of `size` cells, `dilation` apart, moves over an axis in steps of `stride`. This module
counts its positions on a padded axis, and the size of the axis from which a transposed window
would come.

* `Window`, `Window2d` — a window along one axis and along both.
* `Window.effective` — the cells from the first to the last one of a window.
* `Window.positions` — how often the window fits, before rounding.
* `Window.transposedSize` — the size that a transposed window gives.
-/

namespace TensorTyping

/-- A window over one axis of `input` cells. -/
structure Window where
  input : Dim
  size : Dim
  stride : Dim
  dilation : Dim
  deriving DecidableEq

/-- A window over both spatial axes. -/
structure Window2d where
  input : Size2d Dim
  size : Size2d Dim
  strides : Size2d Dim
  dilations : Size2d Dim
  deriving DecidableEq

namespace Window2d

def height (w : Window2d) : Window :=
  ⟨w.input.height, w.size.height, w.strides.height, w.dilations.height⟩

def width (w : Window2d) : Window :=
  ⟨w.input.width, w.size.width, w.strides.width, w.dilations.width⟩

end Window2d

namespace Window

/-- The cells from the first to the last one of a window: `(size - 1) * dilation + 1`. -/
def effective (w : Window) : Magnitude .dimension :=
  (.ofDim w.size - 1) * .ofDim w.dilation + 1

/-- The positions of the window on the padded axis: `(padded - effective) / stride + 1`, as a double
that is still to be rounded. The padded axis has room for the window. The stride is positive at
every call: convolutions and poolings reject a stride of 0 before they come here. -/
def positions (w : Window) (operator : String) (padding : AxisPadding) : Infer Rat := do
  let effective ← w.effective.dimOrOverflow (.effectiveWindow operator w.size w.dilation)
  let padded :=
    Double.add (Double.add w.input.toNat padding.beginning.toNat) padding.ending.toNat
  require ((effective.toNat : Rat) ≤ padded) (.windowTooLarge operator padded effective)
  let positions :=
    Double.add (Double.div (Double.sub padded effective.toNat) w.stride.toNat) 1
  require (positions ≤ Dim.largest.toNat) (.overflow (.positions operator positions))
  return positions

/-- The size of the axis on which the window has `input` positions, less the padding, plus the
padding of the output: `(input - 1) * stride + effective - beginning - ending + outputPadding`. -/
def transposedSize (w : Window) (padding : AxisPadding) (outputPadding : Dim) : Infer Dim :=
  let size : Magnitude .dimension :=
    (.ofDim w.input - 1) * .ofDim w.stride + w.effective - .ofDim padding.beginning
      - .ofDim padding.ending + .ofDim outputPadding
  size.dimOrOverflow (.transposedSize w.input w.size w.stride w.dilation padding)

end Window

end TensorTyping
