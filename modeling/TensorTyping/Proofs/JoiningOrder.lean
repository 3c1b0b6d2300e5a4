import Mathlib
import TensorTyping.Proofs.Agreement
import TensorTyping.Proofs.Joining

/-!
# Joining in another order and in groups

Every input of a join is compared with the first one only, and whichever rule breaks first is
reported. Still the order of inputs that join does not matter, because lying side by side is an
equivalence and a total has no order. Groups do not matter either, not even for the category of a
rejection: what is read off a group, apart from its size on the axis, can be read off any of its
inputs, so the first input that breaks a rule is the first one of its group.

* `Joins.perm` — the inputs of a join in another order.
* `Joins.flatten_iff` — groups make up what their inputs make up.
* `requireJoinable_agrees` — the rules for groups and for their inputs break in the same category.
* `concat_order_grouping` — joining depends on neither order nor grouping.
-/

namespace TensorTyping

open Infer (Agrees RejectsAs)

section

variable {axis : Dim} {xs ys group rest : List Operand} {groups : List (List Operand)}
  {first whole x y z : Operand} {index index' : ℕ}

/-! ## Order -/

theorem Joins.perm (h : Joins axis xs z) (hperm : xs.Perm ys) : Joins axis ys z where
  nonempty hnil := h.nonempty (List.perm_nil.mp (hnil ▸ hperm))
  hasAxis := h.hasAxis
  alongside x hx := h.alongside x (hperm.mem_iff.mpr hx)
  total := h.total.trans ((hperm.map _).map _).sum_eq

/-! ## What groups make up -/

/-- A group lies alongside an operand when all its inputs do. -/
theorem Joins.alongside_iff (h : Joins axis group y) :
    y.Alongside axis z ↔ ∀ x ∈ group, x.Alongside axis z := by
  constructor
  · intro hy x hx
    exact (h.alongside x hx).trans hy
  · intro hall
    obtain ⟨x, hx⟩ := List.exists_mem_of_ne_nil group h.nonempty
    exact (h.alongside x hx).symm.trans (hall x hx)

theorem forall_alongside_flatten (h : List.Forall₂ (Joins axis) groups ys) :
    (∀ y ∈ ys, y.Alongside axis z) ↔ ∀ x ∈ groups.flatten, x.Alongside axis z := by
  induction h with
  | nil => exact Iff.rfl
  | cons hgroup _ ih =>
    rw [List.forall_mem_cons, hgroup.alongside_iff, ih, List.flatten_cons, List.forall_mem_append]

theorem total_flatten (h : List.Forall₂ (Joins axis) groups ys) :
    ((sizesOn axis ys).map UInt32.toNat).sum =
      ((sizesOn axis groups.flatten).map UInt32.toNat).sum := by
  induction h with
  | nil => rfl
  | @cons group y groups ys hgroup _ ih =>
    have hsplit : sizesOn axis (group ++ groups.flatten) =
        sizesOn axis group ++ sizesOn axis groups.flatten := List.map_append
    rw [List.flatten_cons, hsplit, List.map_append, List.sum_append, ← ih, ← hgroup.total]
    rfl

theorem flatten_eq_nil_iff (h : List.Forall₂ (Joins axis) groups ys) :
    groups.flatten = [] ↔ ys = [] := by
  cases h with
  | nil => exact Iff.rfl
  | cons hgroup _ =>
    refine iff_of_false (fun hnil => hgroup.nonempty ?_) (List.cons_ne_nil _ _)
    exact (List.append_eq_nil_iff.mp hnil).1

/-- Groups make up what their inputs make up. -/
theorem Joins.flatten_iff (h : List.Forall₂ (Joins axis) groups ys) :
    Joins axis ys z ↔ Joins axis groups.flatten z := by
  constructor
  · intro hjoins
    exact ⟨fun hnil => hjoins.nonempty ((flatten_eq_nil_iff h).mp hnil), hjoins.hasAxis,
      (forall_alongside_flatten h).mp hjoins.alongside, hjoins.total.trans (total_flatten h)⟩
  · intro hjoins
    exact ⟨fun hnil => hjoins.nonempty ((flatten_eq_nil_iff h).mpr hnil), hjoins.hasAxis,
      (forall_alongside_flatten h).mpr hjoins.alongside, hjoins.total.trans (total_flatten h).symm⟩

/-! ## Which rule breaks first -/

theorem requireDims_rejectsAs {place : ℕ} {dims expected : List Dim} :
    RejectsAs .incompatibleShape (requireDims index axis place dims expected) := by
  induction dims generalizing place expected with
  | nil => exact .of_eq_ok rfl
  | cons dim dims ih =>
    cases expected with
    | nil => exact .of_eq_ok rfl
    | cons _ _ => exact .bind (.require rfl) fun _ _ => ih

/-- The dimensions off the axis are those of any operand alongside. -/
theorem requireDims_agrees (hx : x.Alongside axis y) (hfirst : first.Alongside axis whole) :
    Agrees Eq (requireDims index axis 0 y.shape whole.shape)
      (requireDims index' axis 0 x.shape first.shape) := by
  refine .of_eq_ok_iff requireDims_rejectsAs requireDims_rejectsAs fun u => ?_
  rw [requireDims_eq_ok, requireDims_eq_ok]
  refine forall_congr' fun i => ?_
  by_cases hi : 0 + i = axis.toNat
  · simp only [hi, true_or, implies_true]
  · have hoff : i ≠ axis.toNat := by omega
    rw [hx.sameDims i hoff, hfirst.sameDims i hoff]

/-- The rules for one input break alike for any operand alongside it. -/
theorem requireJoinable_singleton_agrees (hx : x.Alongside axis y)
    (hfirst : first.Alongside axis whole) :
    Agrees Eq (requireJoinable whole axis index [y]) (requireJoinable first axis index' [x]) := by
  have htype : y.dataType = whole.dataType ↔ x.dataType = first.dataType := by
    rw [hx.sameType, hfirst.sameType]
  have hrank : y.rank = whole.rank ↔ x.rank = first.rank := by
    rw [hx.sameRank, hfirst.sameRank]
  exact .bind (.require htype rfl) fun _ => .bind (.require hrank rfl) fun _ =>
    .bind (requireDims_agrees hx hfirst) fun _ => .ok rfl

theorem requireJoinable_cons :
    requireJoinable first axis index (x :: xs) = (do
      requireJoinable first axis index [x]
      requireJoinable first axis (index + 1) xs) := by
  simp only [requireJoinable, bind_assoc, Infer.ok_bind]

theorem requireJoinable_append :
    requireJoinable first axis index (xs ++ ys) = (do
      requireJoinable first axis index xs
      requireJoinable first axis (index + xs.length) ys) := by
  induction xs generalizing index with
  | nil => rfl
  | cons x xs ih =>
    have hindex : index + 1 + xs.length = index + (x :: xs).length := by
      rw [List.length_cons]
      omega
    rw [List.cons_append, requireJoinable_cons, ih, hindex, ← bind_assoc, ← requireJoinable_cons]

/-- A group breaks the rules with its first input or not at all. -/
theorem requireJoinable_group_agrees (h : Joins axis group y)
    (hfirst : first.Alongside axis whole) :
    Agrees Eq (requireJoinable whole axis index [y]) (requireJoinable first axis index' group) := by
  cases group with
  | nil => exact absurd rfl h.nonempty
  | cons x xs =>
    obtain ⟨hx, hxs⟩ := List.forall_mem_cons.mp h.alongside
    have hgroup : requireJoinable first axis index' (x :: xs) = _ := requireJoinable_cons
    have hwhole : requireJoinable whole axis index [y] = _ := requireJoinable_cons
    rw [hgroup, hwhole]
    refine .bind_of_ok (requireJoinable_singleton_agrees hx hfirst) fun _ hy => ?_
    have hall : ∀ x' ∈ xs, x'.Alongside axis first := by
      intro x' hx'
      have hjoinable := requireJoinable_eq_ok.mp hy y List.mem_cons_self
      exact (hxs x' hx').trans (hjoinable.trans hfirst.symm)
    rw [(requireJoinable_eq_ok (u := ())).mpr hall]
    exact .ok rfl

/-- The rules for groups and for their inputs break in the same category, or not at all. -/
theorem requireJoinable_agrees (h : List.Forall₂ (Joins axis) groups ys)
    (hfirst : first.Alongside axis whole) :
    Agrees Eq (requireJoinable whole axis index ys)
      (requireJoinable first axis index' groups.flatten) := by
  induction h generalizing index index' with
  | nil => exact .ok rfl
  | cons hgroup _ ih =>
    rw [List.flatten_cons, requireJoinable_append, requireJoinable_cons]
    exact .bind (requireJoinable_group_agrees hgroup hfirst) fun _ => ih

/-- Inputs that lie side by side are rejected only for a size that is too large. -/
theorem concat_rejectsAs (haxis : axis.toNat < first.rank)
    (hall : ∀ x ∈ rest, x.Alongside axis first) :
    RejectsAs .overflow (concat (first :: rest) axis) := by
  have hranks : ∀ x ∈ first :: rest, axis.toNat < x.rank :=
    List.forall_mem_cons.mpr ⟨haxis, fun x hx => lt_of_lt_of_eq haxis (hall x hx).sameRank.symm⟩
  refine .bind (.of_eq_ok (if_pos haxis)) fun _ _ => ?_
  refine .bind (.of_eq_ok ((requireJoinable_eq_ok (u := ())).mpr hall)) fun _ _ => ?_
  refine .bind (.of_eq_ok (mapM_dim_eq_ok.mpr ⟨hranks, rfl⟩)) fun _ _ => ?_
  refine .bind Magnitude.dimOrOverflow_rejectsAs fun _ _ => ?_
  exact .bind (.of_eq_ok (Shape.set_eq_ok.mpr ⟨haxis, rfl⟩)) fun _ _ => Operand.create_rejectsAs

/-- A rule that breaks for some input is what the join is rejected for. -/
theorem concat_of_not_joinable {failure : Failure} (haxis : axis.toNat < first.rank)
    (h : requireJoinable first axis 1 rest = .error failure) :
    concat (first :: rest) axis = .error failure := by
  have hfirst : requireAxis "Concat" axis first.rank = .ok () := if_pos haxis
  exact Infer.bind_eq_error.mpr (.inr ⟨(), hfirst, Infer.bind_eq_error.mpr (.inl h)⟩)

/-- Joining the results of groups ends the same way as joining all their inputs. -/
theorem concat_agrees_flatten (h : List.Forall₂ (Joins axis) groups ys) :
    Agrees Eq (concat ys axis) (concat groups.flatten axis) := by
  cases h with
  | nil => exact .rejected rfl
  | @cons group y groups ys hgroup hgroups =>
    obtain ⟨x, xs, rfl⟩ := List.exists_cons_of_ne_nil hgroup.nonempty
    obtain ⟨hx, hxs⟩ := List.forall_mem_cons.mp hgroup.alongside
    have haxis : axis.toNat < x.rank := lt_of_lt_of_eq hgroup.hasAxis hx.sameRank.symm
    have hinside : ∀ x' ∈ xs, x'.Alongside axis x := fun x' hx' => (hxs x' hx').trans hx.symm
    -- the inputs of the first group pass, so the rules break at a later group or not at all
    have hrules : Agrees Eq (requireJoinable y axis 1 ys)
        (requireJoinable x axis 1 (xs ++ groups.flatten)) := by
      rw [requireJoinable_append, (requireJoinable_eq_ok (u := ())).mpr hinside]
      exact requireJoinable_agrees hgroups hx
    generalize hleft : requireJoinable y axis 1 ys = left at hrules
    generalize hright : requireJoinable x axis 1 (xs ++ groups.flatten) = right at hrules
    cases hrules with
    | ok _ =>
      refine .of_eq_ok_iff (concat_rejectsAs hgroup.hasAxis (requireJoinable_eq_ok.mp hleft))
        (concat_rejectsAs haxis (requireJoinable_eq_ok.mp hright)) fun z => ?_
      have hall : List.Forall₂ (Joins axis) ((x :: xs) :: groups) (y :: ys) := .cons hgroup hgroups
      exact concat_eq_ok.trans ((and_congr_left' (Joins.flatten_iff hall)).trans concat_eq_ok.symm)
    | rejected hcategory =>
      have hyrejected := concat_of_not_joinable hgroup.hasAxis hleft
      have hxrejected := concat_of_not_joinable haxis hright
      rw [hyrejected, List.flatten_cons, List.cons_append, hxrejected]
      exact .rejected hcategory

end

/-- **Joining depends on neither the order nor the grouping of its inputs.** Inputs that join give
the same operand in every order. The results of groups join to the same operand as all their inputs,
or both joins are rejected in the same category. -/
theorem concat_order_grouping :
    (∀ (xs xs' : List Operand) (axis : Dim) (y : Operand), concat xs axis = .ok y →
      xs.Perm xs' → concat xs' axis = .ok y) ∧
    ∀ (groups : List (List Operand)) (axis : Dim) (ys : List Operand),
      List.Forall₂ (fun group y => concat group axis = .ok y) groups ys →
        Agrees Eq (concat ys axis) (concat groups.flatten axis) := by
  constructor
  · intro xs xs' axis y hconcat hperm
    obtain ⟨hjoins, hsized⟩ := concat_eq_ok.mp hconcat
    exact concat_eq_ok.mpr ⟨hjoins.perm hperm, hsized⟩
  · intro groups axis ys hgroups
    exact concat_agrees_flatten (hgroups.imp fun _ _ hconcat => (concat_eq_ok.mp hconcat).1)

/-- Inputs in another order; and groups that join, where a later group joins as well, has another
type, or makes the axis too long. -/
theorem concat_order_grouping_mixed :
    (concat [⟨.int8, [2, 0]⟩, ⟨.int8, [2, 3]⟩, ⟨.int8, [2, 4]⟩] 1 = .ok ⟨.int8, [2, 7]⟩ ∧
      concat [⟨.int8, [2, 4]⟩, ⟨.int8, [2, 0]⟩, ⟨.int8, [2, 3]⟩] 1 = .ok ⟨.int8, [2, 7]⟩) ∧
    (concat [⟨.int8, [2, 3]⟩, ⟨.int8, [2, 9]⟩] 1 = .ok ⟨.int8, [2, 12]⟩ ∧
      Agrees Eq (concat [⟨.int8, [2, 3]⟩, ⟨.int8, [2, 9]⟩] 1)
        (concat [⟨.int8, [2, 0]⟩, ⟨.int8, [2, 3]⟩, ⟨.int8, [2, 4]⟩, ⟨.int8, [2, 5]⟩] 1)) ∧
    Agrees Eq (concat [⟨.int8, [5]⟩, ⟨.uint8, [4]⟩] 0)
      (concat [⟨.int8, [2]⟩, ⟨.int8, [3]⟩, ⟨.uint8, [1]⟩, ⟨.uint8, [3]⟩] 0) ∧
    (∃ cause, concat [⟨.int8, [5]⟩, ⟨.uint8, [4]⟩] 0 = reject cause ∧
      cause.category = .typeMismatch) ∧
    Agrees Eq (concat [⟨.int8, [0, 4294967295]⟩, ⟨.int8, [0, 1]⟩] 1)
      (concat [⟨.int8, [0, 4294967290]⟩, ⟨.int8, [0, 5]⟩, ⟨.int8, [0, 1]⟩] 1) ∧
    ∃ cause, concat [⟨.int8, [0, 4294967295]⟩, ⟨.int8, [0, 1]⟩] 1 = reject cause ∧
      cause.category = .overflow := by
  obtain ⟨horder, hgrouping⟩ := concat_order_grouping
  have hconcat : concat [⟨.int8, [2, 0]⟩, ⟨.int8, [2, 3]⟩, ⟨.int8, [2, 4]⟩] 1 =
      .ok ⟨.int8, [2, 7]⟩ := by decide
  refine ⟨⟨hconcat, horder _ _ _ _ hconcat (by decide)⟩, ⟨by decide, ?_⟩, ?_, ⟨_, rfl, rfl⟩, ?_,
    ⟨_, rfl, rfl⟩⟩
  · exact hgrouping [[⟨.int8, [2, 0]⟩, ⟨.int8, [2, 3]⟩], [⟨.int8, [2, 4]⟩, ⟨.int8, [2, 5]⟩]] 1 _
      (.cons (by decide) (.cons (by decide) .nil))
  · exact hgrouping [[⟨.int8, [2]⟩, ⟨.int8, [3]⟩], [⟨.uint8, [1]⟩, ⟨.uint8, [3]⟩]] 0 _
      (.cons (by decide) (.cons (by decide) .nil))
  · exact hgrouping [[⟨.int8, [0, 4294967290]⟩, ⟨.int8, [0, 5]⟩], [⟨.int8, [0, 1]⟩]] 1 _
      (.cons (by decide) (.cons (by decide) .nil))

end TensorTyping
