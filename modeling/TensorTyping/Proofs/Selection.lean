import Mathlib
import TensorTyping.Operator.Elementwise
import TensorTyping.Proofs.Agreement
import TensorTyping.Proofs.FaultlessCalls

/-!
# Selection from three shapes

A selection broadcasts its two values first and the condition with the result. Which operand has
which shape does not matter, because the nested broadcasts amount to the join of the three shapes,
and a join has no order. A family of shapes has a join when no axis has two sizes other than 1; the
join then has the largest rank and on each axis the size that is not 1.

* `Shape.Compatible`, `Shape.common` — when shapes fit together, and to which shape they stretch.
* `Shape.isJoin_iff` — the join of a family is its common shape.
* `broadcast_nested_eq_ok` — nested broadcasts give the join of three shapes.
* `select_symmetric` — a selection treats the shapes of its operands alike, and has the common one.
-/

namespace TensorTyping

open Infer (Agrees)

namespace Shape

variable {use : BroadcastUse} {shapes left right : List Shape} {s r r' : Shape} {place : ℕ}

/-! ## The common shape of a family -/

/-- No axis has two different sizes other than 1, when the shapes are aligned at their last axes and
missing axes count as 1. -/
def Compatible (shapes : List Shape) : Prop :=
  ∀ place, ∀ s ∈ shapes, ∀ t ∈ shapes,
    s.fromEnd place = t.fromEnd place ∨ s.fromEnd place = 1 ∨ t.fromEnd place = 1

/-- The largest of the ranks. -/
def maxRank (shapes : List Shape) : ℕ :=
  (shapes.map List.length).foldr max 0

/-- The size other than 1 that some shape has at a place, or 1 when none has. -/
def commonDim (shapes : List Shape) (place : ℕ) : Dim :=
  ((shapes.map (·.fromEnd place)).find? (· ≠ 1)).getD 1

/-- The shape with these sizes. -/
def common (shapes : List Shape) : Shape :=
  ((List.range (maxRank shapes)).map (commonDim shapes)).reverse

theorem length_le_maxRank (hs : s ∈ shapes) : s.length ≤ maxRank shapes :=
  List.le_max_of_le (List.mem_map_of_mem hs) le_rfl

theorem maxRank_le {n : ℕ} (h : ∀ s ∈ shapes, s.length ≤ n) : maxRank shapes ≤ n :=
  List.max_le_of_forall_le _ _ (List.forall_mem_map.mpr h)

/-- A common size is 1 or the size of one of the shapes. -/
theorem commonDim_eq (shapes : List Shape) (place : ℕ) :
    commonDim shapes place = 1 ∨ ∃ s ∈ shapes, s.fromEnd place = commonDim shapes place := by
  unfold commonDim
  cases hfind : (shapes.map (·.fromEnd place)).find? (· ≠ 1) with
  | none => exact .inl rfl
  | some d => exact .inr (List.mem_map.mp (List.mem_of_find?_eq_some hfind))

/-- The sizes of compatible shapes stretch into the common one. -/
theorem Compatible.stretchesTo_commonDim (h : Compatible shapes) (hs : s ∈ shapes) (place : ℕ) :
    (s.fromEnd place).StretchesTo (commonDim shapes place) := by
  unfold commonDim
  cases hfind : (shapes.map (·.fromEnd place)).find? (· ≠ 1) with
  | none =>
    have hone := List.find?_eq_none.mp hfind _ (List.mem_map_of_mem hs)
    exact .inl (by simpa using hone)
  | some d =>
    -- the size that was found belongs to a shape, which agrees with `s` as far as `s` has a size
    obtain ⟨t, ht, rfl⟩ := List.mem_map.mp (List.mem_of_find?_eq_some hfind)
    have hne : t.fromEnd place ≠ 1 := by simpa using List.find?_some hfind
    rcases h place s hs t ht with heq | hone | hone
    · exact .inr heq
    · exact .inl hone
    · exact absurd hone hne

theorem length_common : (common shapes).length = maxRank shapes := by
  unfold common
  rw [List.length_reverse, List.length_map, List.length_range]

/-- The common shape has the common sizes, also where it has no axis. -/
theorem fromEnd_common : (common shapes).fromEnd place = commonDim shapes place := by
  by_cases hplace : place < maxRank shapes
  · unfold fromEnd common
    rw [List.reverse_reverse, List.getD_eq_getElem _ _ (by simpa using hplace), List.getElem_map,
      List.getElem_range]
  · have hle := not_lt.mp hplace
    rw [fromEnd_of_le (by rwa [length_common])]
    rcases commonDim_eq shapes place with hone | ⟨s, hs, heq⟩
    · exact hone.symm
    · rw [← heq, fromEnd_of_le (le_trans (length_le_maxRank hs) hle)]

/-! ## Joins of families -/

theorem IsJoin.unique (h : IsJoin use shapes r) (h' : IsJoin use shapes r') : r = r' :=
  (h.least r' h'.upper).antisymm (h'.least r h.upper)

/-- A join does not depend on the order of the shapes. -/
theorem IsJoin.perm (h : IsJoin use left r) (hperm : left.Perm right) : IsJoin use right r where
  upper s hs := h.upper s (hperm.mem_iff.mpr hs)
  least t ht := h.least t fun s hs => ht s (hperm.mem_iff.mp hs)

/-- Shapes that stretch into one shape are compatible. -/
theorem Compatible.of_stretchesTo (h : ∀ s ∈ shapes, s.StretchesTo use r) :
    Compatible shapes := by
  intro place s hs t ht
  rcases (stretchesTo_iff.mp (h s hs)).2 place with hone | hs'
  · exact .inr (.inl hone)
  · rcases (stretchesTo_iff.mp (h t ht)).2 place with hone | ht'
    · exact .inr (.inr hone)
    · exact .inl (hs'.trans ht'.symm)

theorem Compatible.isJoin_common (use : BroadcastUse) (h : Compatible shapes) :
    IsJoin use shapes (common shapes) where
  upper s hs := by
    refine stretchesTo_iff.mpr ⟨?_, fun place => ?_⟩
    · rw [length_common]
      exact length_le_maxRank hs
    · rw [fromEnd_common]
      exact h.stretchesTo_commonDim hs place
  least t ht := by
    refine stretchesTo_iff.mpr ⟨?_, fun place => ?_⟩
    · rw [length_common]
      exact maxRank_le fun s hs => (stretchesTo_iff.mp (ht s hs)).1
    · rw [fromEnd_common]
      rcases commonDim_eq shapes place with hone | ⟨s, hs, heq⟩
      · exact .inl hone
      · rw [← heq]
        exact (stretchesTo_iff.mp (ht s hs)).2 place

/-- The compatible families are those with a join, and it is their common shape. -/
theorem isJoin_iff : IsJoin use shapes r ↔ Compatible shapes ∧ r = common shapes := by
  constructor
  · intro h
    have hcompatible := Compatible.of_stretchesTo h.upper
    exact ⟨hcompatible, h.unique (hcompatible.isJoin_common use)⟩
  · rintro ⟨hcompatible, rfl⟩
    exact hcompatible.isJoin_common use

end Shape

/-! ## Selections -/

section

variable {use : BroadcastUse} {dataType : DataType} {c t f c' t' f' r : Shape} {y : Operand}

/-- Nested broadcasts give the join of three shapes. -/
theorem broadcast_nested_eq_ok :
    (do
      let values ← broadcast use .bidirectional t f
      broadcast use .bidirectional c values) = .ok r ↔ Shape.IsJoin use [c, t, f] r := by
  have outer : ∀ {values}, broadcast use .bidirectional t f = .ok values →
      (broadcast use .bidirectional c values = .ok r ↔ Shape.IsJoin use [c, t, f] r) :=
    fun hvalues => (Shape.IsJoin.singleton use c).broadcast_iff (Shape.IsJoin.pair_iff.mpr hvalues)
  rw [Infer.bind_eq_ok]
  constructor
  · rintro ⟨values, hvalues, hr⟩
    exact (outer hvalues).mp hr
  · intro h
    -- the two values stretch into the join, so they broadcast
    obtain ⟨values, hvalues⟩ := Shape.exists_broadcast_of_stretchesTo
      (h.upper t (by simp)) (h.upper f (by simp))
    exact ⟨values, hvalues, (outer hvalues).mpr h⟩

theorem broadcast_nested_rejectsAs :
    Infer.RejectsAs .incompatibleShape (do
      let values ← broadcast use .bidirectional t f
      broadcast use .bidirectional c values) :=
  .bind broadcast_rejectsAs fun _ _ => broadcast_rejectsAs

/-- With the types in order, a selection creates an operand of the shape that was joined. -/
theorem select_eq :
    select ⟨.uint8, c⟩ ⟨dataType, t⟩ ⟨dataType, f⟩ =
      (do
        let values ← broadcast .plain .bidirectional t f
        broadcast .plain .bidirectional c values) >>= Operand.create dataType := by
  have htype : (⟨dataType, f⟩ : Operand).requireType dataType "Where false value" = .ok () :=
    require_eq_ok.mpr rfl
  rw [bind_assoc]
  unfold select
  rw [htype]
  rfl

theorem select_eq_ok :
    select ⟨.uint8, c⟩ ⟨dataType, t⟩ ⟨dataType, f⟩ = .ok y ↔
      Shape.Compatible [c, t, f] ∧ y = ⟨dataType, Shape.common [c, t, f]⟩ ∧ y.Sized := by
  rw [select_eq, Infer.bind_eq_ok]
  simp only [broadcast_nested_eq_ok, Shape.isJoin_iff, Operand.create_eq_ok]
  constructor
  · rintro ⟨_, ⟨hcompatible, rfl⟩, hy⟩
    exact ⟨hcompatible, hy⟩
  · rintro ⟨hcompatible, hy⟩
    exact ⟨_, ⟨hcompatible, rfl⟩, hy⟩

theorem select_agrees_of_perm (h : [c, t, f].Perm [c', t', f']) :
    Agrees Eq (select ⟨.uint8, c⟩ ⟨dataType, t⟩ ⟨dataType, f⟩)
      (select ⟨.uint8, c'⟩ ⟨dataType, t'⟩ ⟨dataType, f'⟩) := by
  rw [select_eq, select_eq]
  refine .bind (.of_eq_ok_iff broadcast_nested_rejectsAs broadcast_nested_rejectsAs fun r => ?_)
    fun r => .refl (Operand.create_faultless _ _)
  rw [broadcast_nested_eq_ok, broadcast_nested_eq_ok]
  exact ⟨fun hr => hr.perm h, fun hr => hr.perm h.symm⟩

end

/-- **A selection treats the shapes of its operands alike.** However three shapes are given to the
condition and the two values, the selection has the same output or is rejected in the same category.
It has an output exactly when no axis has two sizes other than 1 and the operand of the common shape
can be counted; the output then has the largest of the three ranks, and on each axis the size that
is not 1, if there is one. -/
theorem select_symmetric (dataType : DataType) (c t f : Shape) :
    (∀ c' t' f' : Shape, [c, t, f].Perm [c', t', f'] →
      Agrees Eq (select ⟨.uint8, c⟩ ⟨dataType, t⟩ ⟨dataType, f⟩)
        (select ⟨.uint8, c'⟩ ⟨dataType, t'⟩ ⟨dataType, f'⟩)) ∧
    (∀ y, select ⟨.uint8, c⟩ ⟨dataType, t⟩ ⟨dataType, f⟩ = .ok y ↔
      Shape.Compatible [c, t, f] ∧ y = ⟨dataType, Shape.common [c, t, f]⟩ ∧ y.Sized) ∧
    ∀ y, select ⟨.uint8, c⟩ ⟨dataType, t⟩ ⟨dataType, f⟩ = .ok y →
      y.dataType = dataType ∧ y.rank = max c.length (max t.length f.length) ∧
      ∀ place,
        (∀ s ∈ [c, t, f], s.fromEnd place = 1 ∨ s.fromEnd place = y.shape.fromEnd place) ∧
        (y.shape.fromEnd place = 1 ∨ ∃ s ∈ [c, t, f], s.fromEnd place = y.shape.fromEnd place) := by
  refine ⟨fun _ _ _ => select_agrees_of_perm, fun y => select_eq_ok, fun y hy => ?_⟩
  obtain ⟨hcompatible, rfl, -⟩ := select_eq_ok.mp hy
  refine ⟨rfl, Shape.length_common.trans (by simp [Shape.maxRank]), fun place => ?_⟩
  rw [Shape.fromEnd_common]
  exact ⟨fun s hs => hcompatible.stretchesTo_commonDim hs place, Shape.commonDim_eq _ place⟩

/-- Three ranks and an empty axis, in two orders; and two shapes that clash, in the outer broadcast
or already in the inner one. -/
theorem select_symmetric_ranks :
    [[2, 1], [0], [4, 1, 1]].Perm [[4, 1, 1], [2, 1], ([0] : Shape)] ∧
      select ⟨.uint8, [2, 1]⟩ ⟨.float16, [0]⟩ ⟨.float16, [4, 1, 1]⟩ = .ok ⟨.float16, [4, 2, 0]⟩ ∧
      Agrees Eq (select ⟨.uint8, [2, 1]⟩ ⟨.float16, [0]⟩ ⟨.float16, [4, 1, 1]⟩)
        (select ⟨.uint8, [4, 1, 1]⟩ ⟨.float16, [2, 1]⟩ ⟨.float16, [0]⟩) ∧
      (∀ y, select ⟨.uint8, [2, 1]⟩ ⟨.float16, [3, 1]⟩ ⟨.float16, [5]⟩ ≠ .ok y) ∧
      Agrees Eq (select ⟨.uint8, [2, 1]⟩ ⟨.float16, [3, 1]⟩ ⟨.float16, [5]⟩)
        (select ⟨.uint8, [5]⟩ ⟨.float16, [2, 1]⟩ ⟨.float16, [3, 1]⟩) :=
  ⟨by decide, rfl, (select_symmetric .float16 [2, 1] [0] [4, 1, 1]).1 _ _ _ (by decide), nofun,
    (select_symmetric .float16 [2, 1] [3, 1] [5]).1 _ _ _ (by decide)⟩

end TensorTyping
