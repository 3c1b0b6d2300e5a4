import TensorTyping.Event
import TensorTyping.Rule

/-!
# Resampling

Two neighbouring axes of a rank-4 tensor get new sizes, which are given as such or by a factor for
each axis.

* `scaledSize` — the size of an axis times a factor, rounded down.
* `Resampling` — the attributes; `Resampling.infer` is the output.
-/

namespace TensorTyping

/-- The attributes of a resampling. -/
structure Resampling where
  mode : Interpolation
  target : ResampleTarget
  /-- The two axes that get new sizes. -/
  axes : Dim × Dim
  deriving DecidableEq

/-- The size of an axis times a factor, computed as a double and rounded down. -/
def scaledSize (axis size : Dim) (scale : Single) : Traced Dim := do
  require (scale.isFinite ∧ 0 < scale.value) (.scale scale axis)
  let output := (Double.mul size.toNat scale.value).floor
  Traced.emit (.scaledSize axis size scale output)
  if output < 1 then
    let cause := .emptyScaled axis size scale
    Traced.emit (.scalesRejected "Resample2d" cause)
    reject cause
  else
    require (output ≤ Dim.largest.toNat) (.overflow (.scaledSize axis size scale))
    Dim.ofInt output

namespace Resampling

/-- The pairs of axes that may be resampled. -/
def allowedAxes : List (Dim × Dim) :=
  [(0, 1), (1, 2), (2, 3)]

/-- The new sizes of the two axes. -/
def sizes (r : Resampling) (shape : Shape) : Traced (Dim × Dim) := do
  match r.target with
  | .sizes sizes =>
    sizes.requirePositive "Resample2d sizes"
    return (sizes.height, sizes.width)
  | .scales scales =>
    let first ← scaledSize r.axes.1 (← shape.dim r.axes.1.toNat) scales.height
    let second ← scaledSize r.axes.2 (← shape.dim r.axes.2.toNat) scales.width
    return (first, second)

/-- The output of a resampling: only the two axes change. -/
def infer (r : Resampling) (input : Operand) : Traced Operand := do
  input.requireRank 4 "Resample2d input"
  input.requireFloatingPoint "Resample2d input"
  require (r.axes ∈ allowedAxes) (.resampleAxes [r.axes.1, r.axes.2])
  let (first, second) ← r.sizes input.shape
  let shape ← input.shape.set r.axes.1.toNat first
  let shape ← shape.set r.axes.2.toNat second
  Operand.create input.dataType shape

end Resampling

end TensorTyping
