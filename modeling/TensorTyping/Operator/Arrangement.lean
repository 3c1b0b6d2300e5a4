import TensorTyping.Broadcast
import TensorTyping.Rule

/-!
# Arrangement of elements

* `transpose` — the axes in another order.
* `gather` — the entries of one axis that an operand of places names.
* `reshape` — the same elements under another shape.
* `expand` — axes of size 1 stretched onto a shape.
-/

namespace TensorTyping

/-- The axes in the order of the permutation. -/
def transpose (permutation : List Dim) (input : Operand) : Infer Operand := do
  input.requireLength "Transpose" "permutation" permutation.length
  requireAxes "Transpose" permutation input.rank
  let shape ← permutation.mapM fun axis => input.shape.dim axis.toNat
  Operand.create input.dataType shape

/-- The axis gives way to the axes of the indices. -/
def gather (axis : Dim) (input indices : Operand) : Infer Operand := do
  require indices.dataType.isIndex (.indexType indices.dataType)
  requireAxis "Gather" axis input.rank
  -- room is made for the axes that stay before they are read
  let _ ← difference input.rank 1
  let outer ← input.shape.before axis.toNat
  let inner ← input.shape.onward (axis.toNat + 1)
  Operand.create input.dataType (outer ++ indices.shape ++ inner)

/-- The new shape has as many elements as the input. -/
def reshape (target : Shape) (input : Operand) : Infer Operand := do
  let count ← (Magnitude.product input.shape).orOverflow (.reshapeInput input.shape)
  let targetCount ← (Magnitude.product target).orOverflow (.reshapeTarget target)
  require (count = targetCount) (.elementCounts input.shape count target targetCount)
  Operand.create input.dataType target

/-- The input stretches onto the target. -/
def expand (target : Shape) (input : Operand) : Infer Operand := do
  let shape ← broadcast (.expansion input.shape target) .unidirectional input.shape target
  Operand.create input.dataType shape

end TensorTyping
