import TensorTyping.Broadcast
import TensorTyping.Rule

/-!
# Matrix products

* `matmul` — the product of two stacks of matrices, whose outer axes broadcast.
* `Gemm` — the product of two matrices, each transposed or not, plus an addend.
-/

namespace TensorTyping

/-- The product of the matrices in the last two axes; the axes before them broadcast. -/
def matmul (a b : Operand) : Infer Operand := do
  b.requireType a.dataType "Matmul second input"
  require (2 ≤ a.rank ∧ 2 ≤ b.rank) (.matmulRank a.shape b.shape)
  let aRows ← a.shape.dimFromEnd 2
  let aColumns ← a.shape.dimFromEnd 1
  let bRows ← b.shape.dimFromEnd 2
  let bColumns ← b.shape.dimFromEnd 1
  require (aColumns = bRows) (.matmulInner aColumns bRows a.shape b.shape)
  let aBatch ← a.shape.before (← difference a.rank 2)
  let bBatch ← b.shape.before (← difference b.rank 2)
  let batch ← broadcast .matmulBatch .bidirectional aBatch bBatch
  Operand.create a.dataType (batch ++ [aRows, bColumns])

/-- The attributes of a product of two matrices with an addend. -/
structure Gemm where
  /-- Stretched onto the product and added to it. -/
  addend : Option Operand
  aTranspose : Bool
  bTranspose : Bool
  deriving DecidableEq

/-- The rows and columns of a matrix, exchanged when it is transposed. -/
def Operand.matrix (x : Operand) (transposed : Bool) : Infer (Dim × Dim) := do
  if transposed then
    return (← x.shape.dim 1, ← x.shape.dim 0)
  else
    return (← x.shape.dim 0, ← x.shape.dim 1)

namespace Gemm

/-- An addend, if there is one, stretches onto the product. -/
def requireAddend (g : Gemm) (dataType : DataType) (product : Shape) : Infer Unit := do
  match g.addend with
  | none => return
  | some c =>
    c.requireType dataType "Gemm C operand"
    let _ ← broadcast .gemmAddend .unidirectional c.shape product

/-- The output of a product of two matrices with an addend. -/
def infer (g : Gemm) (a b : Operand) : Infer Operand := do
  b.requireType a.dataType "Gemm second input"
  a.requireRank 2 "Gemm first input"
  b.requireRank 2 "Gemm second input"
  let (m, kA) ← a.matrix g.aTranspose
  let (kB, n) ← b.matrix g.bTranspose
  require (kA = kB) (.gemmInner g.aTranspose m kA g.bTranspose kB n)
  g.requireAddend a.dataType [m, n]
  Operand.create a.dataType [m, n]

end Gemm

end TensorTyping
