import TensorTyping.Rule

/-!
# Joining and splitting

* `concat` — several operands one after the other along an axis.
* `split` — one operand cut along an axis.
-/

namespace TensorTyping

/-- Input `index` has the dimensions of the first one, apart from `axis`. Goes through the
dimensions from `place` on. -/
def requireDims (index : Nat) (axis : Dim) (place : Nat) : List Dim → List Dim → Infer Unit
  | dim :: dims, expected :: rest => do
    require (place = axis.toNat ∨ dim = expected) (.concatDim index place dim expected)
    requireDims index axis (place + 1) dims rest
  | _, _ => .ok ()

/-- The inputs from `index` on can be joined to the first one. -/
def requireJoinable (first : Operand) (axis : Dim) (index : Nat) : List Operand → Infer Unit
  | [] => .ok ()
  | input :: inputs => do
    input.requireType first.dataType s!"Concat input {index}"
    require (input.rank = first.rank) (.concatRank index input.rank first.rank)
    requireDims index axis 0 input.shape first.shape
    requireJoinable first axis (index + 1) inputs

/-- The inputs one after the other along the axis. -/
def concat (inputs : List Operand) (axis : Dim) : Infer Operand := do
  match inputs with
  | [] => reject .noInputs
  | first :: rest =>
    requireAxis "Concat" axis first.rank
    requireJoinable first axis 1 rest
    let sizes ← inputs.mapM fun x => x.shape.dim axis.toNat
    let size ← (Magnitude.sum sizes).dimOrOverflow (.concatAxis axis)
    Operand.create first.dataType (← first.shape.set axis.toNat size)

/-- The sizes of the parts of an axis of the given size. An empty axis is its own only part. -/
def Partition.parts (partition : Partition) (size : Dim) (shape : Shape) : Infer (List Dim) := do
  match partition with
  | count parts =>
    require (parts ≠ 0) .splitZeroCount
    require (parts ≤ max size 1) (.splitCount parts size shape)
    let rest ← Dim.remainder size parts
    require (rest = 0) (.splitUneven parts size shape)
    return List.replicate parts.toNat (← Dim.quotient size parts)
  | sizes given =>
    require (given ≠ [] ∧ 0 ∉ given) (.splitEmptyPart given)
    let total ← (Magnitude.sum given).dimOrOverflow (.splitSizes given)
    require (total = size) (.splitSum given total size shape)
    return given

/-- The parts of the input along the axis. -/
def split (partition : Partition) (axis : Dim) (input : Operand) : Infer (List Operand) := do
  requireAxis "Split" axis input.rank
  let size ← input.shape.dim axis.toNat
  let parts ← partition.parts size input.shape
  parts.mapM fun part => do
    Operand.create input.dataType (← input.shape.set axis.toNat part)

end TensorTyping
