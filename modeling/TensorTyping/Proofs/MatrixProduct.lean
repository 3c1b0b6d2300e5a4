import Mathlib
import TensorTyping.Proofs.Agreement
import TensorTyping.Proofs.FaultlessCalls

/-!
# Products of stacks of matrices

An operand with at least two axes is a stack of matrices: the last two axes are those of a matrix,
and those before them say how the matrices are stacked. A product multiplies the matrices and
broadcasts the stacks, so it inherits its laws from both.

* `Operand.stack` — a stack of matrices as an operand.
* `matmul_stack`, `exists_stack_of_matmul` — products, in terms of stacks.
* `matmul_agrees_assoc` — a product of three can be grouped either way.
-/

namespace TensorTyping

open Infer (Agrees)

/-! ## Stacks of matrices -/

/-- Matrices of some rows and columns, stacked in the shape of `batch`. -/
def Operand.stack (dataType : DataType) (batch : Shape) (rows columns : Dim) : Operand :=
  ⟨dataType, batch ++ [rows, columns]⟩

section

variable {dataType dataType' : DataType} {batch batch' : Shape}
  {rows columns rows' columns' : Dim}

theorem Operand.stack_inj
    (h : stack dataType batch rows columns = stack dataType' batch' rows' columns') :
    dataType = dataType' ∧ batch = batch' ∧ rows = rows' ∧ columns = columns' := by
  obtain ⟨htype, hshape⟩ := Operand.mk.inj h
  obtain ⟨hbatch, hmatrix⟩ := List.append_inj' hshape rfl
  obtain ⟨hrows, hrest⟩ := List.cons.inj hmatrix
  exact ⟨htype, hbatch, hrows, (List.cons.inj hrest).1⟩

/-- An operand with at least two axes is a stack of matrices. -/
theorem Operand.exists_stack {x : Operand} (h : 2 ≤ x.rank) :
    ∃ batch rows columns, x = stack x.dataType batch rows columns := by
  obtain ⟨dataType, shape⟩ := x
  have hlast : (shape.drop (shape.length - 2)).length = 2 := by
    rw [List.length_drop]
    exact Nat.sub_sub_self h
  obtain ⟨rows, columns, hmatrix⟩ := List.length_eq_two.mp hlast
  refine ⟨shape.take (shape.length - 2), rows, columns, ?_⟩
  unfold stack
  rw [← hmatrix, List.take_append_drop]

theorem Operand.rank_stack : (stack dataType batch rows columns).rank = batch.length + 2 :=
  List.length_append

theorem Operand.before_stack :
    (stack dataType batch rows columns).shape.before batch.length = .ok batch := by
  unfold Shape.before stack
  rw [if_pos (List.length_append ▸ Nat.le_add_right _ _), List.take_left]

/-- The last two axes are those of a matrix. -/
theorem Operand.matrix_stack :
    (stack dataType batch rows columns).shape.dimFromEnd 2 = .ok rows ∧
      (stack dataType batch rows columns).shape.dimFromEnd 1 = .ok columns := by
  have hlength : (stack dataType batch rows columns).shape.length = batch.length + 2 :=
    rank_stack
  rw [Shape.dimFromEnd_succ (by omega), Shape.dimFromEnd_succ (by omega)]
  unfold stack Shape.fromEnd
  rw [List.reverse_append]
  exact ⟨rfl, rfl⟩

/-! ## Products -/

/-- Stacks of one type are multiplied when the matrices can be, and when their batches broadcast. -/
theorem matmul_stack :
    matmul (.stack dataType batch rows columns) (.stack dataType batch' rows' columns') = (do
      require (columns = rows') (.matmulInner columns rows'
        (batch ++ [rows, columns]) (batch' ++ [rows', columns']))
      let joined ← broadcast .matmulBatch .bidirectional batch batch'
      Operand.create dataType (joined ++ [rows, columns'])) := by
  have htype : (Operand.stack dataType batch' rows' columns').requireType dataType
      "Matmul second input" = .ok () := require_eq_ok.mpr rfl
  have hrank : ∀ m n cause, require (2 ≤ m + 2 ∧ 2 ≤ n + 2) cause = .ok () := fun m n _ =>
    require_eq_ok.mpr ⟨Nat.le_add_left 2 m, Nat.le_add_left 2 n⟩
  have hdifference : ∀ n, difference (n + 2) 2 = .ok n := fun n =>
    difference_eq_ok.mpr ⟨Nat.le_add_left 2 n, rfl⟩
  unfold matmul
  rw [show (Operand.stack dataType batch rows columns).dataType = dataType from rfl, htype]
  simp only [Operand.rank_stack, Operand.matrix_stack, hrank, hdifference, Operand.before_stack,
    Infer.ok_bind]
  rfl

/-- A product has a value only for stacks of one type whose matrices can be multiplied. -/
theorem exists_stack_of_matmul {a b y : Operand} (h : matmul a b = .ok y) :
    ∃ dataType left right joined rows inner columns,
      a = .stack dataType left rows inner ∧ b = .stack dataType right inner columns ∧
      broadcast .matmulBatch .bidirectional left right = .ok joined ∧
      y = .stack dataType joined rows columns := by
  obtain ⟨_, htype, hrest⟩ := Infer.bind_eq_ok.mp h
  obtain ⟨_, hranks, -⟩ := Infer.bind_eq_ok.mp hrest
  obtain ⟨ha, hb⟩ := require_eq_ok.mp hranks
  obtain ⟨left, rows, inner, hleft⟩ := Operand.exists_stack ha
  obtain ⟨right, inner', columns, hright⟩ := Operand.exists_stack hb
  rw [require_eq_ok.mp htype] at hright
  rw [hleft, hright, matmul_stack] at h
  obtain ⟨_, hinner, h⟩ := Infer.bind_eq_ok.mp h
  obtain ⟨joined, hjoined, hcreate⟩ := Infer.bind_eq_ok.mp h
  rw [← require_eq_ok.mp hinner] at hright
  exact ⟨_, left, right, joined, rows, inner, columns, hleft, hright, hjoined,
    (Operand.create_eq_ok.mp hcreate).1⟩

end

/-! ## Three stacks -/

/-- **Products of matrices can be grouped either way.** Once the two inner products are known, both
groupings give the same operand or are rejected in the same category. -/
theorem matmul_agrees_assoc {a b c ab bc : Operand} (hab : matmul a b = .ok ab)
    (hbc : matmul b c = .ok bc) : Agrees Eq (matmul ab c) (matmul a bc) := by
  obtain ⟨t, left, middle, leftJoin, m, k, n, rfl, rfl, hleft, rfl⟩ := exists_stack_of_matmul hab
  obtain ⟨_, _, right, rightJoin, _, _, p, hb, rfl, hright, rfl⟩ := exists_stack_of_matmul hbc
  obtain ⟨rfl, rfl, rfl, rfl⟩ := Operand.stack_inj hb
  have hinner : ∀ (d : Dim) cause, require (d = d) cause = .ok () := fun _ _ =>
    require_eq_ok.mpr rfl
  rw [matmul_stack, matmul_stack, hinner, hinner, Infer.ok_bind, Infer.ok_bind]
  have hbatch : ∀ batch, broadcast .matmulBatch .bidirectional leftJoin right = .ok batch ↔
      broadcast .matmulBatch .bidirectional left rightJoin = .ok batch := by
    intro batch
    -- in both groupings the batch is the join of all three
    rw [(Shape.IsJoin.pair_iff.mpr hleft).broadcast_iff (.singleton _ right),
      (Shape.IsJoin.singleton _ left).broadcast_iff (Shape.IsJoin.pair_iff.mpr hright)]
    rfl
  exact .bind (.of_eq_ok_iff broadcast_rejectsAs broadcast_rejectsAs hbatch) fun batch =>
    .refl (Operand.create_faultless _ _)

/-- Three stacks of different ranks that broadcast; and two stacks that both broadcast with the
matrices between them, but not with each other. -/
theorem matmul_agrees_assoc_ranks :
    (matmul ⟨.float32, [2, 1, 3, 4]⟩ ⟨.float32, [4, 5]⟩ = .ok ⟨.float32, [2, 1, 3, 5]⟩ ∧
      matmul ⟨.float32, [4, 5]⟩ ⟨.float32, [7, 5, 6]⟩ = .ok ⟨.float32, [7, 4, 6]⟩ ∧
      matmul ⟨.float32, [2, 1, 3, 5]⟩ ⟨.float32, [7, 5, 6]⟩ = .ok ⟨.float32, [2, 7, 3, 6]⟩ ∧
      Agrees Eq (matmul ⟨.float32, [2, 1, 3, 5]⟩ ⟨.float32, [7, 5, 6]⟩)
        (matmul ⟨.float32, [2, 1, 3, 4]⟩ ⟨.float32, [7, 4, 6]⟩)) ∧
    matmul ⟨.float32, [2, 3, 4]⟩ ⟨.float32, [4, 5]⟩ = .ok ⟨.float32, [2, 3, 5]⟩ ∧
      matmul ⟨.float32, [4, 5]⟩ ⟨.float32, [3, 5, 6]⟩ = .ok ⟨.float32, [3, 4, 6]⟩ ∧
      (∀ y, matmul ⟨.float32, [2, 3, 5]⟩ ⟨.float32, [3, 5, 6]⟩ ≠ .ok y) ∧
      Agrees Eq (matmul ⟨.float32, [2, 3, 5]⟩ ⟨.float32, [3, 5, 6]⟩)
        (matmul ⟨.float32, [2, 3, 4]⟩ ⟨.float32, [3, 4, 6]⟩) :=
  ⟨⟨rfl, rfl, rfl, matmul_agrees_assoc (b := ⟨.float32, [4, 5]⟩) rfl rfl⟩,
    rfl, rfl, nofun, matmul_agrees_assoc (b := ⟨.float32, [4, 5]⟩) rfl rfl⟩

end TensorTyping
