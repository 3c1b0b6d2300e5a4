import Mathlib
import TensorTyping.Operator.Arrangement
import TensorTyping.Proofs.MatrixProduct
import TensorTyping.Proofs.OperandSize

/-!
# General products of matrices

A general product reads each of its two matrices as it stands, or with rows and columns exchanged.
From there on it sees only what it read. So a flag does what transposing the operand would do,
without flags and addend the product is the one of stacks, and exchanging the two operands
transposes the output.

* `Operand.SameMatrix` — two operands that are read as the same matrix.
* `Gemm.infer_agrees` — a product depends only on the matrices that it reads.
* `Gemm.infer_eq_ok` — when a product has a value.
* `Operand.sized_iff_of_perm_of_length_le` — a matrix can be counted when its transpose can.
* `Gemm.infer_agrees_transposed` — flags, transposition, products of stacks and exchanged operands.
-/

namespace TensorTyping

open Infer (Agrees)

/-! ## Matrices and their transposes -/

/-- At most two dimensions can always be counted together. -/
theorem Shape.elements_lt_of_length_le {s : Shape} (h : s.length ≤ 2) :
    s.elements < Width.count.limit := by
  match s, h with
  | [], _ => decide
  | [d], _ =>
    rw [elements_cons, elements_nil, Nat.mul_one]
    exact lt_trans d.toNat_lt (by decide)
  | [d, e], _ =>
    rw [elements_cons, elements_cons, elements_nil, Nat.mul_one]
    exact Nat.mul_lt_mul'' d.toNat_lt e.toNat_lt

theorem Shape.dims_eq_ok {s : Shape} {p q : ℕ} {d e : Dim} :
    (do return (← s.dim p, ← s.dim q) : Infer (Dim × Dim)) = .ok (d, e) ↔
      s[p]? = some d ∧ s[q]? = some e := by
  simp only [Infer.bind_eq_ok, Infer.pure_eq_ok, dim_eq_ok, Prod.mk.injEq]
  constructor
  · rintro ⟨_, hd, _, he, rfl, rfl⟩
    exact ⟨hd, he⟩
  · rintro ⟨hd, he⟩
    exact ⟨d, hd, e, he, rfl, rfl⟩

namespace Operand

variable {x : Operand} {dataType : DataType} {rows columns : Dim}

/-- With at most two axes, empty or not, their order does not matter. -/
theorem sized_iff_of_perm_of_length_le {s t : Shape} (h : s.length ≤ 2) (hperm : s.Perm t) :
    (⟨dataType, s⟩ : Operand).Sized ↔ (⟨dataType, t⟩ : Operand).Sized := by
  have hnonzero : s.nonzero.length ≤ 2 := le_trans (List.length_filter_le _ s) h
  exact forall_perm_sized_iff.mpr (.inr (Shape.elements_lt_of_length_le hnonzero)) t hperm

theorem sized_transposed_iff :
    (⟨dataType, [rows, columns]⟩ : Operand).Sized ↔
      (⟨dataType, [columns, rows]⟩ : Operand).Sized :=
  sized_iff_of_perm_of_length_le le_rfl (List.Perm.swap columns rows [])

theorem exists_matrix (h : x.rank = 2) : ∃ rows columns, x = ⟨x.dataType, [rows, columns]⟩ := by
  obtain ⟨dataType, shape⟩ := x
  obtain ⟨rows, columns, rfl⟩ := List.length_eq_two.mp h
  exact ⟨rows, columns, rfl⟩

theorem matrix_eq_ok {transposed : Bool} :
    x.matrix transposed = .ok (rows, columns) ↔
      x.shape[cond transposed 1 0]? = some rows ∧ x.shape[cond transposed 0 1]? = some columns := by
  cases transposed with
  | false => exact Shape.dims_eq_ok
  | true => exact Shape.dims_eq_ok

/-- The other flag exchanges rows and columns. -/
theorem matrix_not {transposed : Bool} :
    x.matrix (!transposed) = .ok (rows, columns) ↔ x.matrix transposed = .ok (columns, rows) := by
  rw [matrix_eq_ok, matrix_eq_ok, and_comm]
  cases transposed <;> rfl

/-- A matrix that can be counted has a transpose. -/
theorem transpose_matrix (h : (⟨dataType, [rows, columns]⟩ : Operand).Sized) :
    transpose [1, 0] ⟨dataType, [rows, columns]⟩ = .ok ⟨dataType, [columns, rows]⟩ :=
  create_eq_ok.mpr ⟨rfl, sized_transposed_iff.mp h⟩

/-- Two operands of one type and rank that are read as the same matrix, each under its flag. -/
structure SameMatrix (x : Operand) (transposed : Bool) (x' : Operand) (transposed' : Bool) :
    Prop where
  dataType : x.dataType = x'.dataType
  rank : x.rank = x'.rank
  matrix : x.matrix transposed = x'.matrix transposed'

theorem SameMatrix.refl (x : Operand) (transposed : Bool) :
    x.SameMatrix transposed x transposed :=
  ⟨rfl, rfl, rfl⟩

/-- What the flag reads of a matrix is what stands in its transpose. -/
theorem exists_transpose_sameMatrix (hx : x.Sized) (hrank : x.rank = 2) :
    ∃ x', transpose [1, 0] x = .ok x' ∧ x.SameMatrix true x' false := by
  obtain ⟨rows, columns, hmatrix⟩ := exists_matrix hrank
  rw [hmatrix] at hx ⊢
  exact ⟨_, transpose_matrix hx, rfl, rfl, rfl⟩

end Operand

/-- Two matrices are stacks of their own, whose empty batches broadcast to the empty one. -/
theorem matmul_of_matrix {dataType : DataType} {m kA kB n : Dim} :
    matmul ⟨dataType, [m, kA]⟩ ⟨dataType, [kB, n]⟩ = (do
      require (kA = kB) (.matmulInner kA kB [m, kA] [kB, n])
      Operand.create dataType [m, n]) :=
  @matmul_stack dataType [] [] m kA kB n

namespace Gemm

variable {g g' : Gemm} {a a' b b' y : Operand}

/-! ## What a product depends on -/

theorem requireAddend_congr (h : g.addend = g'.addend) : g.requireAddend = g'.requireAddend := by
  unfold requireAddend
  rw [h]

/-- Products that read the same matrices, with the same addend, end the same way. Their flags show
only in the words with which matrices that do not fit are rejected. -/
theorem infer_agrees (haddend : g.addend = g'.addend)
    (ha : a.SameMatrix g.aTranspose a' g'.aTranspose)
    (hb : b.SameMatrix g.bTranspose b' g'.bTranspose) :
    Agrees Eq (g.infer a b) (g'.infer a' b') := by
  unfold infer
  refine .bind (.require (by rw [ha.dataType, hb.dataType]) rfl) fun _ => ?_
  refine .bind_of_ok (.require (by rw [ha.rank]) rfl) fun _ harank => ?_
  refine .bind_of_ok (.require (by rw [hb.rank]) rfl) fun _ hbrank => ?_
  rw [← ha.matrix, ← hb.matrix, ← ha.dataType, ← requireAddend_congr haddend]
  refine .bind (.refl (Operand.matrix_faultless (require_eq_ok.mp harank) _)) fun ⟨m, kA⟩ => ?_
  refine .bind (.refl (Operand.matrix_faultless (require_eq_ok.mp hbrank) _)) fun ⟨kB, n⟩ => ?_
  refine .bind (.require Iff.rfl rfl) fun _ => ?_
  exact .bind (.refl (g.requireAddend_faultless _ _)) fun _ =>
    .refl (Operand.create_faultless _ _)

/-- Matrices of one type are multiplied when they fit and the addend stretches onto the product. -/
theorem infer_of_matrix {m kA kB n : Dim} (htype : b.dataType = a.dataType) (ha : a.rank = 2)
    (hb : b.rank = 2) (hA : a.matrix g.aTranspose = .ok (m, kA))
    (hB : b.matrix g.bTranspose = .ok (kB, n)) :
    g.infer a b = (do
      require (kA = kB) (.gemmInner g.aTranspose m kA g.bTranspose kB n)
      g.requireAddend a.dataType [m, n]
      Operand.create a.dataType [m, n]) := by
  have htype' : b.requireType a.dataType "Gemm second input" = .ok () := require_eq_ok.mpr htype
  have ha' : a.requireRank 2 "Gemm first input" = .ok () := require_eq_ok.mpr ha
  have hb' : b.requireRank 2 "Gemm second input" = .ok () := require_eq_ok.mpr hb
  unfold infer
  rw [htype', ha', hb', hA, hB]
  rfl

/-- Without flags and addend the product is that of two stacks of a single matrix. -/
theorem infer_agrees_matmul (ha : a.rank = 2) (hb : b.rank = 2) :
    Agrees Eq ((⟨none, false, false⟩ : Gemm).infer a b) (matmul a b) := by
  by_cases htype : b.dataType = a.dataType
  · obtain ⟨m, kA, hA⟩ := Operand.exists_matrix ha
    obtain ⟨kB, n, hB⟩ := Operand.exists_matrix hb
    rw [htype] at hB
    rw [infer_of_matrix htype ha hb (by rw [hA]; rfl) (by rw [hB]; rfl), hA, hB, matmul_of_matrix]
    exact .bind (.require Iff.rfl rfl) fun _ => .refl (Operand.create_faultless _ [m, n])
  · have hgemm : (⟨none, false, false⟩ : Gemm).infer a b = _ :=
      Infer.bind_eq_error.mpr (.inl (require_eq_error.mpr ⟨htype, rfl⟩))
    have hmatmul : matmul a b = _ :=
      Infer.bind_eq_error.mpr (.inl (require_eq_error.mpr ⟨htype, rfl⟩))
    rw [hgemm, hmatmul]
    exact .rejected rfl

/-! ## Exchanged operands -/

theorem infer_eq_ok :
    g.infer a b = .ok y ↔
      b.dataType = a.dataType ∧ a.rank = 2 ∧ b.rank = 2 ∧
        ∃ m k n, a.matrix g.aTranspose = .ok (m, k) ∧ b.matrix g.bTranspose = .ok (k, n) ∧
          g.requireAddend a.dataType [m, n] = .ok () ∧
          Operand.create a.dataType [m, n] = .ok y := by
  unfold infer Operand.requireType Operand.requireRank
  simp only [Infer.bind_eq_ok, require_eq_ok]
  constructor
  · rintro ⟨_, htype, _, ha, _, hb, ⟨m, k⟩, hA, ⟨_, n⟩, hB, _, rfl, _, haddend, hy⟩
    exact ⟨htype, ha, hb, m, k, n, hA, hB, haddend, hy⟩
  · rintro ⟨htype, ha, hb, m, k, n, hA, hB, haddend, hy⟩
    exact ⟨(), htype, (), ha, (), hb, (m, k), hA, (k, n), hB, (), rfl, (), haddend, hy⟩

/-- The product of the operands in the other order, each read the other way, is the transpose. -/
theorem infer_exchanged {aTranspose bTranspose : Bool} {dataType : DataType} {m n : Dim}
    (h : (⟨none, aTranspose, bTranspose⟩ : Gemm).infer a b = .ok ⟨dataType, [m, n]⟩) :
    (⟨none, !bTranspose, !aTranspose⟩ : Gemm).infer b a = .ok ⟨dataType, [n, m]⟩ := by
  obtain ⟨htype, ha, hb, m', k, n', hA, hB, -, hy⟩ := infer_eq_ok.mp h
  obtain ⟨heq, hsized⟩ := Operand.create_eq_ok.mp hy
  obtain ⟨rfl, hshape⟩ := Operand.mk.inj heq
  obtain ⟨rfl, rfl⟩ : m = m' ∧ n = n' := by simpa using hshape
  refine infer_eq_ok.mpr ⟨htype.symm, hb, ha, n, k, m, Operand.matrix_not.mpr hB,
    Operand.matrix_not.mpr hA, rfl, ?_⟩
  rw [htype]
  exact Operand.create_eq_ok.mpr ⟨rfl, Operand.sized_transposed_iff.mp hsized⟩

/-- **Flags, transposition and exchanged operands mean the same.** For operands that can be counted:
without flags and addend a product of two matrices ends as the product of stacks does; a flag ends
as the transposed operand without it does, for every addend and every other operand; and a product
has the output `[m, n]` exactly when the exchanged operands under the other flags have `[n, m]`. -/
theorem infer_agrees_transposed {a b : Operand} (ha : a.Sized) (hb : b.Sized)
    (addend : Option Operand) (aTranspose bTranspose : Bool) :
    (a.rank = 2 → b.rank = 2 →
      Agrees Eq ((⟨none, false, false⟩ : Gemm).infer a b) (matmul a b)) ∧
    (a.rank = 2 → ∃ a', transpose [1, 0] a = .ok a' ∧
      Agrees Eq ((⟨addend, true, bTranspose⟩ : Gemm).infer a b)
        ((⟨addend, false, bTranspose⟩ : Gemm).infer a' b)) ∧
    (b.rank = 2 → ∃ b', transpose [1, 0] b = .ok b' ∧
      Agrees Eq ((⟨addend, aTranspose, true⟩ : Gemm).infer a b)
        ((⟨addend, aTranspose, false⟩ : Gemm).infer a b')) ∧
    ∀ dataType m n,
      (⟨none, aTranspose, bTranspose⟩ : Gemm).infer a b = .ok ⟨dataType, [m, n]⟩ ↔
        (⟨none, !bTranspose, !aTranspose⟩ : Gemm).infer b a = .ok ⟨dataType, [n, m]⟩ := by
  refine ⟨infer_agrees_matmul, fun hrank => ?_, fun hrank => ?_, fun dataType m n => ⟨?_, ?_⟩⟩
  · obtain ⟨a', htranspose, hsame⟩ := Operand.exists_transpose_sameMatrix ha hrank
    exact ⟨a', htranspose, infer_agrees rfl hsame (.refl b bTranspose)⟩
  · obtain ⟨b', htranspose, hsame⟩ := Operand.exists_transpose_sameMatrix hb hrank
    exact ⟨b', htranspose, infer_agrees rfl (.refl a aTranspose) hsame⟩
  · exact infer_exchanged
  · intro h
    have hback := infer_exchanged h
    rwa [Bool.not_not, Bool.not_not] at hback

/-- Two matrices that fit only when both are transposed: under the flags they are multiplied, with a
row added to each row of the product; as they stand they are rejected, as stacks too; and in the
other order they fit without flags. -/
theorem infer_agrees_transposed_rectangular :
    (⟨.float32, [3, 2]⟩ : Operand).Sized ∧ (⟨.float32, [5, 3]⟩ : Operand).Sized ∧
      (⟨some ⟨.float32, [5]⟩, true, true⟩ : Gemm).infer ⟨.float32, [3, 2]⟩ ⟨.float32, [5, 3]⟩ =
        .ok ⟨.float32, [2, 5]⟩ ∧
      (∃ a', transpose [1, 0] ⟨.float32, [3, 2]⟩ = .ok a' ∧
        Agrees Eq
          ((⟨some ⟨.float32, [5]⟩, true, true⟩ : Gemm).infer ⟨.float32, [3, 2]⟩
            ⟨.float32, [5, 3]⟩)
          ((⟨some ⟨.float32, [5]⟩, false, true⟩ : Gemm).infer a' ⟨.float32, [5, 3]⟩)) ∧
      (∀ y, (⟨none, false, false⟩ : Gemm).infer ⟨.float32, [3, 2]⟩ ⟨.float32, [5, 3]⟩ ≠ .ok y) ∧
      Agrees Eq ((⟨none, false, false⟩ : Gemm).infer ⟨.float32, [3, 2]⟩ ⟨.float32, [5, 3]⟩)
        (matmul ⟨.float32, [3, 2]⟩ ⟨.float32, [5, 3]⟩) ∧
      (⟨none, false, false⟩ : Gemm).infer ⟨.float32, [5, 3]⟩ ⟨.float32, [3, 2]⟩ =
        .ok ⟨.float32, [5, 2]⟩ := by
  have ha : (⟨.float32, [3, 2]⟩ : Operand).Sized := by decide
  have hb : (⟨.float32, [5, 3]⟩ : Operand).Sized := by decide
  obtain ⟨hstacks, hflag, -, hexchanged⟩ :=
    infer_agrees_transposed ha hb (some ⟨.float32, [5]⟩) true true
  exact ⟨ha, hb, rfl, hflag rfl, nofun, hstacks rfl rfl, (hexchanged .float32 2 5).mp rfl⟩

end Gemm

end TensorTyping
