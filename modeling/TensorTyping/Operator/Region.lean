import TensorTyping.Rule

/-!
# Regions of a tensor

* `slice` — a box of the input.
* `Pad` — the input with cells added at both ends of each axis.
* `tile` — copies of the input side by side.
-/

namespace TensorTyping

/-- The box lies inside the input. Goes through the axes from `place` on; an axis on which the box
is empty is not looked at. -/
def requireBox (place : Nat) : List Dim → List Dim → List Dim → Infer Unit
  | start :: starts, size :: sizes, dim :: dims => do
    if size ≠ 0 then
      require (start < dim) (.sliceStart start place dim)
      let stop ← (Magnitude.ofDim start + .ofDim size).dimOrOverflow (.sliceEnd start size place)
      require (stop ≤ dim) (.sliceEnd stop start size place dim)
    requireBox (place + 1) starts sizes dims
  | _, _, _ => .ok ()

/-- The box of the given sizes whose first cell is given by `starts`. -/
def slice (starts sizes : List Dim) (input : Operand) : Infer Operand := do
  input.requireLength "Slice" "starts" starts.length
  input.requireLength "Slice" "sizes" sizes.length
  requireBox 0 starts sizes input.shape
  Operand.create input.dataType sizes

/-- The attributes of a padding of every axis. -/
structure Pad where
  beginning : List Dim
  ending : List Dim
  mode : PadMode
  deriving DecidableEq

/-- Whether an axis has the cells from which the mode takes those of the padding. -/
def PadMode.admits (mode : PadMode) (dim beginning ending : Dim) : Bool :=
  match mode with
  | constant | edge => true
  | reflection => (beginning == 0 || beginning < dim) && (ending == 0 || ending < dim)
  | symmetric => beginning ≤ dim && ending ≤ dim

/-- The sizes of the padded axes from `place` on. -/
def PadMode.pad (mode : PadMode) (place : Nat) : List Dim → List Dim → List Dim → Infer Shape
  | dim :: dims, beginning :: beginnings, ending :: endings => do
    require (mode.admits dim beginning ending) (.padTooLarge mode beginning ending place dim)
    let padded ← (Magnitude.ofDim dim + .ofDim beginning + .ofDim ending).dimOrOverflow
      (.paddedSize place dim beginning ending)
    return padded :: (← mode.pad (place + 1) dims beginnings endings)
  | _, _, _ => return []

/-- The input with the given cells added. -/
def Pad.infer (p : Pad) (input : Operand) : Infer Operand := do
  input.requireLength "Pad" "beginning padding" p.beginning.length
  input.requireLength "Pad" "ending padding" p.ending.length
  let shape ← p.mode.pad 0 input.shape p.beginning p.ending
  Operand.create input.dataType shape

/-- As many copies of the input along each axis as `repetitions` says. -/
def tile (repetitions : List Dim) (input : Operand) : Infer Operand := do
  input.requireLength "Tile" "repetitions" repetitions.length
  require (0 ∉ repetitions) (.zeroRepetition repetitions)
  let shape ← (input.shape.zip repetitions).mapM fun (dim, copies) =>
    (Magnitude.ofDim dim * .ofDim copies).dimOrOverflow (.tiledSize dim copies)
  Operand.create input.dataType shape

end TensorTyping
