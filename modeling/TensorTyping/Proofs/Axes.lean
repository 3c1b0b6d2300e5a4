import Mathlib
import TensorTyping.Rule
import TensorTyping.Proofs.Inference

/-!
# Axes that pass their rule

Axes are looked at in the order in which they are listed, and the flag of each of them is set when
it is met. The flags are therefore those of the axes visited, and the rule ends at the first axis
that the tensor does not have or that was visited before. Which lists pass does not depend on the
order: they are the lists of different axes.

* `DistinctAxes` — axes of a tensor, none of them listed twice.
* `AxisFlags.Marks` — the flags are those of the axes visited; `AxisFlags.Marks.read` and
  `AxisFlags.Marks.exists_set` — what they then answer, and how they change.
* `requireAxesFrom_new`, `requireAxesFrom_offence` — what the rule does with one axis;
  `requireAxesFrom_append` — with several new ones.
* `Offends` — a place whose axis is none of the tensor or is listed earlier.
* `requireAxes_of_distinct`, `requireAxes_of_first` — the rule passes different axes, and ends at
  the first place that offends.
* `requireAxes_eq_ok`, `requireAxes_rejectsAs` — which lists pass, and how any other one ends.
* `requireAxes_distinct_or_first` — different axes pass, and of any other list the first offence is
  reported.
-/

namespace TensorTyping

open Infer (RejectsAs)

/-- The axes are those of a tensor of the given rank, and none of them is listed twice. -/
structure DistinctAxes (axes : List Dim) (rank : ℕ) : Prop where
  nodup : axes.Nodup
  inRange : ∀ axis ∈ axes, axis.toNat < rank

section

variable {operator : String} {axes axes' earlier visited rest : List Dim} {axis : Dim}
  {rank place : ℕ} {flags : AxisFlags rank} {u : Unit}

theorem distinctAxes_nil : DistinctAxes [] rank :=
  ⟨List.nodup_nil, List.forall_mem_nil _⟩

theorem distinctAxes_cons :
    DistinctAxes (axis :: rest) rank ↔
      axis.toNat < rank ∧ axis ∉ rest ∧ DistinctAxes rest rank := by
  constructor
  · rintro ⟨hnodup, hrange⟩
    obtain ⟨hnew, hrest⟩ := List.nodup_cons.mp hnodup
    obtain ⟨haxis, hranges⟩ := List.forall_mem_cons.mp hrange
    exact ⟨haxis, hnew, hrest, hranges⟩
  · rintro ⟨haxis, hnew, hrest⟩
    exact ⟨List.nodup_cons.mpr ⟨hnew, hrest.nodup⟩, List.forall_mem_cons.mpr ⟨haxis, hrest.inRange⟩⟩

/-- One axis is different from every other one of its list. -/
theorem distinctAxes_singleton : DistinctAxes [axis] rank ↔ axis.toNat < rank := by
  constructor
  · intro haxis
    exact haxis.inRange axis List.mem_cons_self
  · intro haxis
    exact ⟨List.nodup_singleton axis, by simpa using haxis⟩

theorem DistinctAxes.perm (h : DistinctAxes axes rank) (hperm : axes.Perm axes') :
    DistinctAxes axes' rank :=
  ⟨hperm.nodup_iff.mp h.nodup, fun axis haxis => h.inRange axis (hperm.mem_iff.mpr haxis)⟩

theorem distinctAxes_concat :
    DistinctAxes (earlier ++ [axis]) rank ↔
      DistinctAxes earlier rank ∧ axis.toNat < rank ∧ axis ∉ earlier := by
  have hperm : (earlier ++ [axis]).Perm (axis :: earlier) := List.perm_append_singleton axis earlier
  constructor
  · intro h
    obtain ⟨haxis, hnew, hearlier⟩ := distinctAxes_cons.mp (h.perm hperm)
    exact ⟨hearlier, haxis, hnew⟩
  · rintro ⟨hearlier, haxis, hnew⟩
    exact (distinctAxes_cons.mpr ⟨haxis, hnew, hearlier⟩).perm hperm.symm

/-! ## The flags -/

namespace AxisFlags

/-- The flags that are set are those of the axes visited. -/
def Marks (flags : AxisFlags rank) (visited : List Dim) : Prop :=
  ∀ place, flags.flag place = true ↔ ∃ axis ∈ visited, axis.toNat = place.val

theorem marks_unset (rank : ℕ) : (unset rank).Marks [] := by
  intro place
  exact iff_of_false Bool.false_ne_true fun ⟨_, haxis, _⟩ => List.not_mem_nil haxis

/-- The flag of an axis tells whether it was visited. -/
theorem Marks.read (h : flags.Marks visited) (haxis : axis.toNat < rank) :
    flags.read axis = .ok (decide (axis ∈ visited)) := by
  have hflag : flags.flag ⟨axis.toNat, haxis⟩ = true ↔ axis ∈ visited := by
    rw [h ⟨axis.toNat, haxis⟩]
    constructor
    · rintro ⟨other, hother, heq⟩
      rwa [← UInt32.toNat_inj.mp heq]
    · intro hvisited
      exact ⟨axis, hvisited, rfl⟩
  rw [AxisFlags.read, dif_pos haxis]
  exact congrArg Except.ok (Bool.eq_iff_iff.mpr (hflag.trans decide_eq_true_iff.symm))

/-- Setting the flag of an axis adds it to those visited. -/
theorem Marks.exists_set (h : flags.Marks visited) (haxis : axis.toNat < rank) :
    ∃ flags', flags.set axis = .ok flags' ∧ flags'.Marks (visited ++ [axis]) := by
  refine ⟨_, if_pos haxis, fun place => ?_⟩
  show (if place.val = axis.toNat then true else flags.flag place) = true ↔ _
  split_ifs with hplace
  · exact iff_of_true rfl
      ⟨axis, List.mem_append_right _ (List.mem_singleton_self axis), hplace.symm⟩
  · rw [h place]
    constructor
    · rintro ⟨other, hother, heq⟩
      exact ⟨other, List.mem_append_left _ hother, heq⟩
    · rintro ⟨other, hother, heq⟩
      rcases List.mem_append.mp hother with hvisited | hlast
      · exact ⟨other, hvisited, heq⟩
      · rw [List.mem_singleton.mp hlast] at heq
        exact absurd heq.symm hplace

end AxisFlags

/-! ## Steps of the rule -/

/-- The cause for which an axis of `axes` is turned down. Whether the tensor has the axis is asked
before whether it was met. -/
def offence (operator : String) (axes : List Dim) (rank : ℕ) (axis : Dim) : Cause :=
  if rank ≤ axis.toNat then .axisOutOfRange operator axis rank
  else .axisRepeated operator axes axis

theorem offence_category : (offence operator axes rank axis).category = .invalidAttribute := by
  unfold offence
  split_ifs <;> rfl

/-- An axis of the tensor that was not visited is passed and has its flag set. -/
theorem requireAxesFrom_new (hflags : flags.Marks visited) (haxis : axis.toNat < rank)
    (hnew : axis ∉ visited) :
    ∃ flags' : AxisFlags rank, flags'.Marks (visited ++ [axis]) ∧
      requireAxesFrom operator axes flags (axis :: rest) =
        requireAxesFrom operator axes flags' rest := by
  obtain ⟨flags', hset, hflags'⟩ := hflags.exists_set haxis
  have hrange : requireAxis operator axis rank = .ok () := require_eq_ok.mpr haxis
  have hpass : require (decide (axis ∈ visited) = false) (.axisRepeated operator axes axis) =
      .ok () := require_eq_ok.mpr (decide_eq_false hnew)
  refine ⟨flags', hflags', ?_⟩
  rw [requireAxesFrom, hrange, Infer.ok_bind, hflags.read haxis, Infer.ok_bind, hpass,
    Infer.ok_bind, hset, Infer.ok_bind]

/-- Any other axis ends the rule. -/
theorem requireAxesFrom_offence (hflags : flags.Marks visited)
    (haxis : rank ≤ axis.toNat ∨ axis ∈ visited) :
    requireAxesFrom operator axes flags (axis :: rest) =
      reject (offence operator axes rank axis) := by
  rw [requireAxesFrom, offence]
  by_cases hlarge : rank ≤ axis.toNat
  · have hrange : requireAxis operator axis rank = reject (.axisOutOfRange operator axis rank) :=
      if_neg (Nat.not_lt.mpr hlarge)
    rw [hrange, if_pos hlarge]
    rfl
  · have hlt : axis.toNat < rank := Nat.lt_of_not_le hlarge
    have hvisited : axis ∈ visited := haxis.resolve_left hlarge
    have hrange : requireAxis operator axis rank = .ok () := require_eq_ok.mpr hlt
    have hrepeated : require (decide (axis ∈ visited) = false) (.axisRepeated operator axes axis) =
        reject (.axisRepeated operator axes axis) := if_neg (by simpa using hvisited)
    rw [hrange, Infer.ok_bind, hflags.read hlt, Infer.ok_bind, hrepeated, if_neg hlarge]
    rfl

/-- The rule goes through new axes of the tensor, and has then visited them. -/
theorem requireAxesFrom_append (operator : String) (axes rest : List Dim)
    (hflags : flags.Marks visited) (hearlier : DistinctAxes earlier rank)
    (hnew : earlier.Disjoint visited) :
    ∃ flags' : AxisFlags rank, flags'.Marks (visited ++ earlier) ∧
      requireAxesFrom operator axes flags (earlier ++ rest) =
        requireAxesFrom operator axes flags' rest := by
  induction earlier generalizing flags visited with
  | nil => exact ⟨flags, by rwa [List.append_nil], rfl⟩
  | cons axis earlier ih =>
    obtain ⟨haxis, hother, hearlier⟩ := distinctAxes_cons.mp hearlier
    obtain ⟨hunvisited, hnew⟩ := List.disjoint_cons_left.mp hnew
    obtain ⟨flags', hflags', hstep⟩ := requireAxesFrom_new hflags haxis hunvisited
    have hnew' : earlier.Disjoint (visited ++ [axis]) :=
      List.disjoint_append_right.mpr ⟨hnew, List.disjoint_singleton.mpr hother⟩
    obtain ⟨flags'', hflags'', hrun⟩ := ih hflags' hearlier hnew'
    rw [List.append_assoc, List.singleton_append] at hflags''
    exact ⟨flags'', hflags'', hstep.trans hrun⟩

/-! ## The first offence -/

/-- The axis at a place of the list is none of the tensor, or is listed earlier. -/
def Offends (axes : List Dim) (rank place : ℕ) : Prop :=
  ∃ h : place < axes.length, rank ≤ axes[place].toNat ∨ axes[place] ∈ axes.take place

instance (axes : List Dim) (rank place : ℕ) : Decidable (Offends axes rank place) :=
  inferInstanceAs (Decidable (∃ _ : place < axes.length, _))

/-- The axes before a place are different ones of the tensor when no place before it offends. -/
theorem distinctAxes_take :
    DistinctAxes (axes.take place) rank ↔ ∀ j < place, ¬ Offends axes rank j := by
  induction place with
  | zero => exact iff_of_true distinctAxes_nil fun _ hj => nomatch hj
  | succ place ih =>
    rw [Nat.forall_lt_succ_right, ← ih]
    by_cases hplace : place < axes.length
    · have hlast : ¬ Offends axes rank place ↔
          axes[place].toNat < rank ∧ axes[place] ∉ axes.take place := by
        rw [Offends, exists_prop_of_true hplace, not_or, Nat.not_le]
      rw [List.take_succ_eq_append_getElem hplace, distinctAxes_concat, hlast]
    · -- behind the end nothing is added and nothing offends
      have hend : axes.length ≤ place := Nat.le_of_not_lt hplace
      rw [List.take_of_length_le hend, List.take_of_length_le (Nat.le_succ_of_le hend)]
      exact (and_iff_left fun h => hplace h.1).symm

/-- Some place of any other list is the first that offends. -/
theorem exists_isLeast_offends (h : ¬ DistinctAxes axes rank) :
    ∃ k, IsLeast {j | Offends axes rank j} k := by
  have hsome : ∃ j, Offends axes rank j := by
    rw [← List.take_length (l := axes), distinctAxes_take] at h
    push Not at h
    obtain ⟨j, -, hj⟩ := h
    exact ⟨j, hj⟩
  exact ⟨Nat.find hsome, Nat.find_spec hsome, fun j hj => Nat.find_min' hsome hj⟩

/-- The rule passes different axes of the tensor. -/
theorem requireAxes_of_distinct (h : DistinctAxes axes rank) :
    requireAxes operator axes rank = .ok () := by
  obtain ⟨flags, -, hrun⟩ := requireAxesFrom_append operator axes []
    (AxisFlags.marks_unset rank) h (List.disjoint_nil_right axes)
  rwa [List.append_nil] at hrun

/-- The rule ends at the first place that offends. -/
theorem requireAxes_of_first (hplace : place < axes.length)
    (hfirst : IsLeast {j | Offends axes rank j} place) :
    requireAxes operator axes rank = reject (offence operator axes rank axes[place]) := by
  obtain ⟨⟨_, hoffends⟩, hleast⟩ := hfirst
  have hearlier : DistinctAxes (axes.take place) rank :=
    distinctAxes_take.mpr fun j hj h => Nat.not_le.mpr hj (hleast h)
  have hcut : axes.take place ++ axes[place] :: axes.drop (place + 1) = axes := by
    rw [List.cons_getElem_drop_succ, List.take_append_drop]
  obtain ⟨flags, hflags, hrun⟩ := requireAxesFrom_append operator axes
    (axes[place] :: axes.drop (place + 1)) (AxisFlags.marks_unset rank) hearlier
    (List.disjoint_nil_right _)
  rw [List.nil_append] at hflags
  calc requireAxes operator axes rank
    _ = requireAxesFrom operator axes (.unset rank)
          (axes.take place ++ axes[place] :: axes.drop (place + 1)) := by rw [hcut, requireAxes]
    _ = requireAxesFrom operator axes flags (axes[place] :: axes.drop (place + 1)) := hrun
    _ = reject (offence operator axes rank axes[place]) := requireAxesFrom_offence hflags hoffends

theorem requireAxes_of_not_distinct (operator : String) (h : ¬ DistinctAxes axes rank) :
    ∃ axis, requireAxes operator axes rank = reject (offence operator axes rank axis) := by
  obtain ⟨place, hfirst⟩ := exists_isLeast_offends h
  exact ⟨_, requireAxes_of_first hfirst.1.1 hfirst⟩

/-- The rule passes different axes of the tensor, and no other ones. -/
@[simp] theorem requireAxes_eq_ok :
    requireAxes operator axes rank = .ok u ↔ DistinctAxes axes rank := by
  by_cases h : DistinctAxes axes rank
  · exact iff_of_true (requireAxes_of_distinct h) h
  · obtain ⟨axis, hrejected⟩ := requireAxes_of_not_distinct operator h
    rw [hrejected]
    exact iff_of_false Infer.reject_eq_ok.mp h

/-- Other axes are an invalid attribute. -/
theorem requireAxes_rejectsAs : RejectsAs .invalidAttribute (requireAxes operator axes rank) := by
  by_cases h : DistinctAxes axes rank
  · exact .of_eq_ok (requireAxes_of_distinct h)
  · obtain ⟨axis, hrejected⟩ := requireAxes_of_not_distinct operator h
    rw [hrejected]
    exact .reject offence_category

end

/-- **Different axes of the tensor pass, and of any other list the first offence is reported.** An
axis that the tensor does not have is named with the rank, and one that is listed earlier with the
whole list. -/
theorem requireAxes_distinct_or_first (operator : String) (axes : List Dim) (rank : ℕ) :
    (requireAxes operator axes rank = .ok () ↔ (∀ axis ∈ axes, axis.toNat < rank) ∧ axes.Nodup) ∧
    (requireAxes operator axes rank ≠ .ok () → ∃ k, IsLeast {j | Offends axes rank j} k) ∧
    ∀ k, IsLeast {j | Offends axes rank j} k →
      ∃ axis cause, axes[k]? = some axis ∧ requireAxes operator axes rank = reject cause ∧
        cause.category = .invalidAttribute ∧
        (rank ≤ axis.toNat → cause = .axisOutOfRange operator axis rank ∧
          cause.reason = s!"{operator} axis {axis} out of bounds for rank {rank}") ∧
        (axis.toNat < rank → cause = .axisRepeated operator axes axis ∧
          cause.reason = s!"{operator} axes {describe axes} contain duplicate axis {axis}") := by
  refine ⟨?_, ?_, ?_⟩
  · rw [requireAxes_eq_ok]
    exact ⟨fun h => ⟨h.inRange, h.nodup⟩, fun h => ⟨h.2, h.1⟩⟩
  · intro h
    exact exists_isLeast_offends fun hdistinct => h (requireAxes_of_distinct hdistinct)
  · intro k hfirst
    have hk : k < axes.length := hfirst.1.1
    refine ⟨axes[k], offence operator axes rank axes[k], List.getElem?_eq_getElem hk,
      requireAxes_of_first hk hfirst, offence_category, ?_, ?_⟩
    · intro hrange
      rw [offence, if_pos hrange]
      exact ⟨rfl, rfl⟩
    · intro hrange
      rw [offence, if_neg (Nat.not_le.mpr hrange)]
      exact ⟨rfl, rfl⟩

/-- Lists in which both offences occur: the earlier one is reported, and an axis that the tensor
does not have is never reported as repeated. -/
theorem requireAxes_distinct_or_first_mixed :
    requireAxes "Reduce" [2, 0, 1] 3 = .ok () ∧
      (∃ cause, requireAxes "Transpose" [1, 0, 1, 7] 3 = reject cause ∧
        cause.reason = "Transpose axes [1, 0, 1, 7] contain duplicate axis 1") ∧
      ∃ cause, requireAxes "Reduce" [0, 7, 7, 0] 3 = reject cause ∧
        cause.reason = "Reduce axis 7 out of bounds for rank 3" := by
  obtain ⟨haccepts, -⟩ := requireAxes_distinct_or_first "Reduce" [2, 0, 1] 3
  obtain ⟨-, -, hrepeated⟩ := requireAxes_distinct_or_first "Transpose" [1, 0, 1, 7] 3
  obtain ⟨haccepts', hexists, hmissing⟩ := requireAxes_distinct_or_first "Reduce" [0, 7, 7, 0] 3
  have hleast : IsLeast {j | Offends [1, 0, 1, 7] 3 j} 2 := by
    refine ⟨by decide, fun j hj => Nat.le_of_not_lt fun hlt => ?_⟩
    match j, hlt with
    | 0, _ | 1, _ => exact absurd hj (by decide)
  have hleast' : IsLeast {j | Offends [0, 7, 7, 0] 3 j} 1 := by
    refine ⟨by decide, fun j hj => Nat.one_le_iff_ne_zero.mpr ?_⟩
    rintro rfl
    exact absurd hj (by decide)
  have hfails : requireAxes "Reduce" [0, 7, 7, 0] 3 ≠ .ok () := fun h =>
    absurd (haccepts'.mp h).2 (by simp)
  obtain ⟨k, hk⟩ := hexists hfails
  obtain rfl := hk.unique hleast'
  obtain ⟨_, cause, ⟨⟩, hcause, -, -, hreason⟩ := hrepeated 2 hleast
  obtain ⟨_, cause', ⟨⟩, hcause', -, hreason', -⟩ := hmissing 1 hk
  refine ⟨haccepts.mpr (by simp), ⟨cause, hcause, ?_⟩, cause', hcause', ?_⟩
  · exact (hreason (by decide)).2.trans (by decide +kernel)
  · exact (hreason' (by decide)).2.trans (by decide +kernel)

end TensorTyping
