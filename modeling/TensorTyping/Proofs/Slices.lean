import Mathlib
import TensorTyping.Operator.Region
import TensorTyping.Proofs.OperandSize

/-!
# Which slices lie inside a tensor

A slice is checked axis by axis, and an axis on which it is empty is not looked at. The sizes of a
slice that passes are therefore no larger than those of its input, empty axes included, so that the
slice of an operand that can be counted can be counted too.

* `entry` — the numbers of an attribute list or of a shape, place by place.
* `InRange` — an axis on which a slice is empty or ends inside the input.
* `rangeCause` — the cause for which any other axis is rejected.
* `requireBox_cons` — what the check does on one axis; `requireBox_eq_ok` and
  `requireBox_of_first` — on all of them.
* `IsBox`, `slice_eq_ok` — the result of a slice, and when there is one.
* `slice_inRange_or_first` — slices inside the input are accepted, and of any other one the first
  axis outside is reported.
-/

namespace TensorTyping

/-! ## Numbers along the axes -/

/-- The number that a list has at a place, or 0 from its end on. -/
def entry (l : List Dim) (i : ℕ) : ℕ :=
  (l.getD i 0).toNat

section Entries

variable {l : List Dim} {i : ℕ}

theorem entry_le_largest (l : List Dim) (i : ℕ) : entry l i ≤ Dim.largest.toNat :=
  Dim.le_largest _

theorem entry_of_length_le (h : l.length ≤ i) : entry l i = 0 := by
  unfold entry
  rw [List.getD_eq_default _ _ h]
  rfl

theorem entry_of_lt (h : i < l.length) : entry l i = l[i].toNat := by
  unfold entry
  rw [List.getD_eq_getElem _ _ h]

/-- Numbers below those of a list are themselves those of a list. -/
theorem exists_entry_of_le {f : ℕ → ℕ} (hle : ∀ i, f i ≤ entry l i) :
    ∃ k : List Dim, k.length = l.length ∧ ∀ i, entry k i = f i := by
  choose g hg using fun i => Dim.exists_toNat_eq (le_trans (hle i) (entry_le_largest l i))
  have hlength : ((List.range l.length).map g).length = l.length := by simp
  refine ⟨(List.range l.length).map g, hlength, fun i => ?_⟩
  by_cases hi : i < l.length
  · rw [entry_of_lt (lt_of_lt_of_eq hi hlength.symm), List.getElem_map, List.getElem_range, hg]
  · have hend : l.length ≤ i := Nat.le_of_not_lt hi
    have hzero := hle i
    rw [entry_of_length_le hend] at hzero
    rw [entry_of_length_le (le_of_eq_of_le hlength hend), Nat.le_zero.mp hzero]

theorem Operand.Sized.of_entry_le {x y : Operand} (hy : y.Sized) (htype : x.dataType = y.dataType)
    (hrank : x.rank = y.rank) (hle : ∀ i, entry x.shape i ≤ entry y.shape i) : x.Sized := by
  refine hy.of_le htype (List.forall₂_iff_get.mpr ⟨hrank, fun i hx hy => ?_⟩)
  have hi := hle i
  rwa [entry_of_lt hx, entry_of_lt hy] at hi

end Entries

/-! ## One axis -/

/-- On the axis at a place the slice is empty or ends inside the input. Places behind the last axis
are in range. -/
def InRange (starts sizes dims : List Dim) (i : ℕ) : Prop :=
  entry sizes i = 0 ∨ entry starts i + entry sizes i ≤ entry dims i

instance (starts sizes dims : List Dim) (i : ℕ) : Decidable (InRange starts sizes dims i) :=
  inferInstanceAs (Decidable (_ ∨ _))

/-- The cause for which a range that does not end inside its axis is rejected: it starts behind the
axis, its end is not a dimension, or its end is behind the axis. -/
def rangeCause (place : ℕ) (start size dim : Dim) : Cause :=
  if dim.toNat ≤ start.toNat then .sliceStart start place dim
  else if 2 ^ 32 ≤ start.toNat + size.toNat then .overflow (.sliceEnd start size place)
  else .sliceEnd (start + size) start size place dim

theorem Dim.toNat_add_of_lt {a b : Dim} (h : a.toNat + b.toNat < 2 ^ 32) :
    (a + b).toNat = a.toNat + b.toNat := by
  rw [UInt32.toNat_add, Nat.mod_eq_of_lt h]

theorem Magnitude.dimOrOverflow_add_of_lt {a b : Dim} {name : Overflow}
    (h : a.toNat + b.toNat < 2 ^ 32) :
    (ofDim a + ofDim b).dimOrOverflow name = .ok (a + b) := by
  have hsum := (Dim.toNat_add_of_lt h).symm
  exact dimOrOverflow_eq_ok.mpr (value_add_ofDim.mpr ⟨_, rfl, hsum, Dim.le_largest _⟩)

theorem Magnitude.dimOrOverflow_add_of_le {a b : Dim} {name : Overflow}
    (h : 2 ^ 32 ≤ a.toNat + b.toNat) :
    (ofDim a + ofDim b).dimOrOverflow name = reject (.overflow name) := by
  refine dimOrOverflow_eq_error.mpr ⟨Option.eq_none_iff_forall_ne_some.mpr fun n hn => ?_, rfl⟩
  obtain ⟨m, hm, rfl, hle⟩ := value_add_ofDim.mp hn
  cases hm
  have hlargest : Dim.largest.toNat = 2 ^ 32 - 1 := rfl
  omega

section

variable {starts sizes dims : List Dim} {start size dim : Dim} {place i : ℕ} {u : Unit}
  {x y : Operand}

theorem rangeCause_category :
    (rangeCause place start size dim).category =
      if start.toNat < dim.toNat ∧ 2 ^ 32 ≤ start.toNat + size.toNat then .overflow
      else .outOfBounds := by
  unfold rangeCause
  by_cases hstart : dim.toNat ≤ start.toNat
  · rw [if_pos hstart, if_neg fun h => Nat.not_lt.mpr hstart h.1]
    rfl
  · rw [if_neg hstart]
    by_cases hend : 2 ^ 32 ≤ start.toNat + size.toNat
    · rw [if_pos hend, if_pos ⟨Nat.lt_of_not_le hstart, hend⟩]
      rfl
    · rw [if_neg hend, if_neg fun h => hend h.2]
      rfl

/-- The check goes on behind an axis that is in range, and ends at any other one. -/
theorem requireBox_cons :
    requireBox place (start :: starts) (size :: sizes) (dim :: dims) =
      if InRange (start :: starts) (size :: sizes) (dim :: dims) 0 then
        requireBox (place + 1) starts sizes dims
      else reject (rangeCause place start size dim) := by
  have hrange : InRange (start :: starts) (size :: sizes) (dim :: dims) 0 ↔
      size.toNat = 0 ∨ start.toNat + size.toNat ≤ dim.toNat := Iff.rfl
  rw [requireBox]
  simp only [hrange]
  -- an empty range is skipped
  by_cases hsize : size = 0
  · rw [if_neg (not_not.mpr hsize), if_pos (.inl (congrArg UInt32.toNat hsize))]
  have hpos := Dim.ne_zero_iff.mp hsize
  rw [if_pos hsize]
  unfold rangeCause
  -- it starts behind the axis
  by_cases hstart : dim.toNat ≤ start.toNat
  · have hrejected : require (start < dim) (.sliceStart start place dim) =
        reject (.sliceStart start place dim) :=
      if_neg fun h => Nat.not_lt.mpr hstart (UInt32.lt_iff_toNat_lt.mp h)
    rw [hrejected, if_neg (by omega), if_pos hstart]
    rfl
  have haccepted : require (start < dim) (.sliceStart start place dim) = .ok () :=
    if_pos (UInt32.lt_iff_toNat_lt.mpr (Nat.lt_of_not_le hstart))
  rw [haccepted, if_neg hstart, Infer.ok_bind]
  -- its end is not a dimension, so it is not inside the axis either
  by_cases hend : 2 ^ 32 ≤ start.toNat + size.toNat
  · have hdim := dim.toNat_lt
    rw [Magnitude.dimOrOverflow_add_of_le hend, if_neg (by omega), if_pos hend]
    rfl
  have hsum : (start + size).toNat = start.toNat + size.toNat :=
    Dim.toNat_add_of_lt (Nat.lt_of_not_le hend)
  rw [Magnitude.dimOrOverflow_add_of_lt (Nat.lt_of_not_le hend), if_neg hend, Infer.ok_bind]
  simp only [require, UInt32.le_iff_toNat_le, hsum]
  -- its end is a dimension, and is compared with the axis
  by_cases hstop : start.toNat + size.toNat ≤ dim.toNat
  · rw [if_pos hstop, if_pos (.inr hstop)]
    rfl
  · rw [if_neg hstop, if_neg (by omega)]
    rfl

/-! ## All axes -/

/-- The check passes when every axis is in range. -/
theorem requireBox_eq_ok (hstarts : starts.length = dims.length)
    (hsizes : sizes.length = dims.length) :
    requireBox place starts sizes dims = .ok u ↔ ∀ i, InRange starts sizes dims i := by
  induction dims generalizing place starts sizes with
  | nil =>
    obtain rfl := List.length_eq_zero_iff.mp hstarts
    obtain rfl := List.length_eq_zero_iff.mp hsizes
    exact iff_of_true rfl fun _ => .inl rfl
  | cons dim dims ih =>
    obtain ⟨start, starts, rfl⟩ := List.exists_cons_of_length_eq_add_one hstarts
    obtain ⟨size, sizes, rfl⟩ := List.exists_cons_of_length_eq_add_one hsizes
    rw [requireBox_cons, ← Nat.and_forall_add_one]
    split_ifs with h
    · rw [ih (Nat.succ.inj hstarts) (Nat.succ.inj hsizes)]
      exact (and_iff_right h).symm
    · exact iff_of_false Infer.reject_eq_ok.mp fun hall => h hall.1

/-- The check ends at the first axis that is not in range, for the cause of that axis. -/
theorem requireBox_of_first (hstarts : starts.length = dims.length)
    (hsizes : sizes.length = dims.length) (hi : ¬ InRange starts sizes dims i)
    (hbefore : ∀ j < i, InRange starts sizes dims j) :
    requireBox place starts sizes dims =
      reject (rangeCause (place + i) (starts.getD i 0) (sizes.getD i 0) (dims.getD i 0)) := by
  induction dims generalizing place starts sizes i with
  | nil =>
    obtain rfl := List.length_eq_zero_iff.mp hsizes
    exact absurd (.inl rfl) hi
  | cons dim dims ih =>
    obtain ⟨start, starts, rfl⟩ := List.exists_cons_of_length_eq_add_one hstarts
    obtain ⟨size, sizes, rfl⟩ := List.exists_cons_of_length_eq_add_one hsizes
    rw [requireBox_cons]
    cases i with
    | zero =>
      rw [if_neg hi]
      rfl
    | succ i =>
      have hfirst := hbefore 0 (Nat.succ_pos i)
      have hrest : ∀ j < i, InRange starts sizes dims j := fun j hj =>
        hbefore (j + 1) (Nat.succ_lt_succ hj)
      have hplace : place + 1 + i = place + (i + 1) := by omega
      rw [if_pos hfirst, ih (Nat.succ.inj hstarts) (Nat.succ.inj hsizes) hi hrest, hplace]
      rfl

/-- `y` is the box of `x` that has the given sizes and begins at the cell given by `starts`. -/
structure IsBox (starts sizes : List Dim) (x y : Operand) : Prop where
  starts_length : starts.length = x.rank
  sizes_length : sizes.length = x.rank
  inRange : ∀ i, InRange starts sizes x.shape i
  eq_mk : y = ⟨x.dataType, sizes⟩

/-- The boxes of a tensor that can be counted can be counted. -/
theorem IsBox.sized (h : IsBox starts sizes x y) (hx : x.Sized) : y.Sized := by
  obtain rfl := h.eq_mk
  refine hx.of_entry_le rfl h.sizes_length fun i => ?_
  rcases h.inRange i with hempty | hinside
  · exact le_of_eq_of_le hempty (Nat.zero_le _)
  · exact le_trans (Nat.le_add_left _ _) hinside

theorem Operand.requireLength_eq_ok {operator list : String} {length : ℕ} (h : length = x.rank) :
    x.requireLength operator list length = .ok () :=
  if_pos h

/-- A slice gives the box that it asks for, if that can be counted. -/
theorem slice_eq_ok : slice starts sizes x = .ok y ↔ IsBox starts sizes x y ∧ y.Sized := by
  simp only [slice, Operand.requireLength, Infer.bind_eq_ok, require_eq_ok, Operand.create_eq_ok,
    exists_const]
  constructor
  · rintro ⟨hstarts, hsizes, _, hbox, rfl, hsized⟩
    exact ⟨⟨hstarts, hsizes, (requireBox_eq_ok hstarts hsizes).mp hbox, rfl⟩, hsized⟩
  · rintro ⟨h, hsized⟩
    exact ⟨h.starts_length, h.sizes_length, (),
      (requireBox_eq_ok h.starts_length h.sizes_length).mpr h.inRange, h.eq_mk, hsized⟩

/-- Lists with a number for each axis are rejected at the first axis that is not in range. -/
theorem slice_of_first (hstarts : starts.length = x.rank) (hsizes : sizes.length = x.rank)
    (hi : ¬ InRange starts sizes x.shape i) (hbefore : ∀ j < i, InRange starts sizes x.shape j) :
    slice starts sizes x =
      reject (rangeCause i (starts.getD i 0) (sizes.getD i 0) (x.shape.getD i 0)) := by
  have hchecked : requireBox 0 starts sizes x.shape = _ :=
    requireBox_of_first hstarts hsizes hi hbefore
  rw [Nat.zero_add] at hchecked
  unfold slice
  rw [Operand.requireLength_eq_ok hstarts, Operand.requireLength_eq_ok hsizes, Infer.ok_bind,
    Infer.ok_bind, hchecked]
  rfl

/-- Lists that do not have a number for each axis are rejected before any axis is looked at. -/
theorem slice_of_length_ne (h : starts.length ≠ x.rank ∨ sizes.length ≠ x.rank) :
    ∃ list length,
      slice starts sizes x = reject (.attributeLength "Slice" list length x.shape) := by
  by_cases hstarts : starts.length = x.rank
  · have hsecond : x.requireLength "Slice" "sizes" sizes.length =
        reject (.attributeLength "Slice" "sizes" sizes.length x.shape) :=
      if_neg (h.resolve_left (not_not.mpr hstarts))
    refine ⟨"sizes", sizes.length, ?_⟩
    unfold slice
    rw [Operand.requireLength_eq_ok hstarts, hsecond]
    rfl
  · have hfirst : x.requireLength "Slice" "starts" starts.length =
        reject (.attributeLength "Slice" "starts" starts.length x.shape) := if_neg hstarts
    refine ⟨"starts", starts.length, ?_⟩
    unfold slice
    rw [hfirst]
    rfl

end

/-- **Slices inside the input are accepted, and of any other one the first axis outside is
reported.** The slice of an operand that can be counted is never too large. -/
theorem slice_inRange_or_first (starts sizes : List Dim) (x : Operand) :
    (starts.length = x.rank → sizes.length = x.rank →
      (x.Sized → ∀ y, slice starts sizes x = .ok y ↔
        (∀ i, InRange starts sizes x.shape i) ∧ y = ⟨x.dataType, sizes⟩) ∧
      ∀ i, IsLeast {j | ¬ InRange starts sizes x.shape j} i →
        ∃ cause, slice starts sizes x = reject cause ∧
          cause = rangeCause i (starts.getD i 0) (sizes.getD i 0) (x.shape.getD i 0) ∧
          cause.category =
            if entry starts i < entry x.shape i ∧ 2 ^ 32 ≤ entry starts i + entry sizes i then
              .overflow
            else .outOfBounds) ∧
    (starts.length ≠ x.rank ∨ sizes.length ≠ x.rank →
      ∃ cause, slice starts sizes x = reject cause ∧ cause.category = .invalidAttribute) := by
  refine ⟨fun hstarts hsizes => ⟨?_, ?_⟩, ?_⟩
  · intro hx y
    rw [slice_eq_ok]
    constructor
    · rintro ⟨hbox, -⟩
      exact ⟨hbox.inRange, hbox.eq_mk⟩
    · rintro ⟨hall, hy⟩
      have hbox : IsBox starts sizes x y := ⟨hstarts, hsizes, hall, hy⟩
      exact ⟨hbox, hbox.sized hx⟩
  · intro i hleast
    have hbefore : ∀ j < i, InRange starts sizes x.shape j := fun j hj =>
      not_not.mp fun hout => Nat.not_le.mpr hj (hleast.2 hout)
    exact ⟨_, slice_of_first hstarts hsizes hleast.1 hbefore, rfl, rangeCause_category⟩
  · intro h
    obtain ⟨list, length, hslice⟩ := slice_of_length_ne h
    exact ⟨_, hslice, rfl⟩

/-- Slices of an empty tensor: its empty axis is skipped, and then a slice reaches the end of the
largest axis, or runs out of its range before an axis behind it that is outside as well. -/
theorem slice_inRange_or_first_skipping :
    (⟨.uint8, [0, 4294967295, 3]⟩ : Operand).Sized ∧
      slice [7, 4294967294, 0] [0, 1, 3] ⟨.uint8, [0, 4294967295, 3]⟩ = .ok ⟨.uint8, [0, 1, 3]⟩ ∧
      (∃ cause, slice [7, 4294967294, 5] [0, 2, 1] ⟨.uint8, [0, 4294967295, 3]⟩ = reject cause ∧
        cause.category = .overflow) ∧
      ∃ cause, slice [7, 4294967294] [0, 2, 1] ⟨.uint8, [0, 4294967295, 3]⟩ = reject cause ∧
        cause.category = .invalidAttribute := by
  have hsized : (⟨.uint8, [0, 4294967295, 3]⟩ : Operand).Sized := by decide
  have hall : ∀ i, InRange [7, 4294967294, 0] [0, 1, 3] [0, 4294967295, 3] i := by
    intro i
    match i with
    | 0 | 1 | 2 => decide
    | _ + 3 => exact .inl rfl
  have hleast : IsLeast {j | ¬ InRange [7, 4294967294, 5] [0, 2, 1] [0, 4294967295, 3] j} 1 := by
    refine ⟨by decide, fun j hj => Nat.one_le_iff_ne_zero.mpr ?_⟩
    rintro rfl
    exact hj (by decide)
  obtain ⟨haccepts, -⟩ := (slice_inRange_or_first [7, 4294967294, 0] [0, 1, 3]
    ⟨.uint8, [0, 4294967295, 3]⟩).1 rfl rfl
  obtain ⟨-, hfirst⟩ := (slice_inRange_or_first [7, 4294967294, 5] [0, 2, 1]
    ⟨.uint8, [0, 4294967295, 3]⟩).1 rfl rfl
  obtain ⟨cause, hslice, -, hcategory⟩ := hfirst 1 hleast
  exact ⟨hsized, (haccepts hsized _).mpr ⟨hall, rfl⟩, ⟨cause, hslice, hcategory⟩,
    (slice_inRange_or_first [7, 4294967294] [0, 2, 1] _).2 (.inl (by decide))⟩

end TensorTyping
