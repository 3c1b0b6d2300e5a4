import Mathlib
import TensorTyping.Operator.Arrangement
import TensorTyping.Proofs.Axes
import TensorTyping.Proofs.Joining

/-!
# Transposition acts by permutations

A transposition asks for as many axes as its input has, all in range and none of them twice. There
is no room left for an axis to be missing, so these are the permutations. Reading a list in the
order of a permutation, and the result in the order of another one, is reading it once in the order
of both; this makes transposition an action. Without empty axes every order of a shape can be
counted when one of them can, so that nothing stands in the way of the action.

* `Permutes` — lists of all axes, each once; `permutes_iff` is what the rules ask for.
* `arranged`, `inversePermutation` — lists in the order of a permutation, and the way back.
* `arranged_arranged`, `arranged_inversePermutation` — the laws of an action.
* `transpose_of_permutes`, `transpose_of_not_permutes` — what a transposition does.
* `transposition_acts` — all of it for transposition.
-/

namespace TensorTyping

/-! ## Permutations -/

/-- Every axis of a tensor of the given rank is listed once, and nothing else is. -/
def Permutes (p : List Dim) (rank : ℕ) : Prop :=
  (p.map UInt32.toNat).Perm (List.range rank)

instance (p : List Dim) (rank : ℕ) : Decidable (Permutes p rank) :=
  inferInstanceAs (Decidable (List.Perm _ _))

/-- The entries of a list in the order of a permutation of its places. -/
def arranged (l p : List Dim) : List Dim :=
  p.map fun axis => l.getD axis.toNat 0

/-- At the place that each axis is, the place where the permutation lists it. -/
def inversePermutation (p : List Dim) : List Dim :=
  (List.range p.length).map fun i => .ofNat ((p.map UInt32.toNat).idxOf i)

section

variable {l p q : List Dim} {axis : Dim} {rank i : ℕ}

/-- The rules ask for as many axes as there are, in range and none of them twice. None can be
missing then. -/
theorem permutes_iff : Permutes p rank ↔ p.length = rank ∧ DistinctAxes p rank := by
  constructor
  · intro h
    have hlength := h.length_eq
    rw [List.length_map, List.length_range] at hlength
    refine ⟨hlength, (h.nodup_iff.mpr List.nodup_range).of_map _, fun axis haxis => ?_⟩
    exact List.mem_range.mp (h.mem_iff.mp (List.mem_map_of_mem haxis))
  · rintro ⟨hlength, haxes⟩
    have hnodup : (p.map UInt32.toNat).Nodup := haxes.nodup.map fun _ _ => UInt32.toNat_inj.mp
    have hsubset : p.map UInt32.toNat ⊆ List.range rank := by
      intro i hi
      obtain ⟨axis, haxis, rfl⟩ := List.mem_map.mp hi
      exact List.mem_range.mpr (haxes.inRange axis haxis)
    refine (List.subperm_of_subset hnodup hsubset).perm_of_length_le ?_
    rw [List.length_map, List.length_range, hlength]

namespace Permutes

theorem length (h : Permutes p rank) : p.length = rank :=
  (permutes_iff.mp h).1

theorem inRange (h : Permutes p rank) (haxis : axis ∈ p) : axis.toNat < rank :=
  (permutes_iff.mp h).2.inRange axis haxis

/-- A tensor whose axes can be listed has no more of them than there are numbers. -/
theorem rank_le (h : Permutes p rank) : rank ≤ 2 ^ 32 := by
  by_contra hlarge
  have hmem : 2 ^ 32 ∈ p.map UInt32.toNat :=
    h.mem_iff.mpr (List.mem_range.mpr (Nat.lt_of_not_le hlarge))
  obtain ⟨axis, -, haxis⟩ := List.mem_map.mp hmem
  exact absurd haxis (Nat.ne_of_lt axis.toNat_lt)

/-- So its places can be written as axes. -/
theorem toNat_ofNat (h : Permutes p rank) (hi : i < rank) : (UInt32.ofNat i).toNat = i :=
  UInt32.toNat_ofNat_of_lt' (lt_of_lt_of_le hi h.rank_le)

theorem idxOf_toNat (h : Permutes p rank) (hi : i < p.length) :
    (p.map UInt32.toNat).idxOf p[i].toNat = i := by
  have hnodup : (p.map UInt32.toNat).Nodup := h.nodup_iff.mpr List.nodup_range
  have hindex := hnodup.idxOf_getElem i (lt_of_lt_of_eq hi (List.length_map _).symm)
  rwa [List.getElem_map] at hindex

/-- Every axis is listed somewhere. -/
theorem exists_getElem (h : Permutes p rank) (hi : i < rank) :
    ∃ j, ∃ hj : j < p.length, p[j].toNat = i := by
  obtain ⟨axis, haxis, rfl⟩ := List.mem_map.mp (h.mem_iff.mpr (List.mem_range.mpr hi))
  obtain ⟨j, hj, rfl⟩ := List.getElem_of_mem haxis
  exact ⟨j, hj, rfl⟩

end Permutes

/-! ## Lists in the order of a permutation -/

theorem length_arranged : (arranged l p).length = p.length :=
  List.length_map _

theorem getElem?_arranged (h : Permutes p l.length) (hi : p[i]? = some axis) :
    (arranged l p)[i]? = l[axis.toNat]? := by
  have hlt : axis.toNat < l.length := h.inRange (List.mem_of_getElem? hi)
  unfold arranged
  rw [List.getElem?_map, hi, Option.map_some, List.getD_eq_getElem _ _ hlt,
    List.getElem?_eq_getElem hlt]

/-- Two orders after each other are one order. -/
theorem arranged_arranged (h : ∀ axis ∈ q, axis.toNat < p.length) :
    arranged (arranged l p) q = arranged l (arranged p q) := by
  unfold arranged
  rw [List.map_map]
  refine List.map_congr_left fun axis haxis => ?_
  have hlt := h axis haxis
  rw [List.getD_eq_getElem _ _ (lt_of_lt_of_eq hlt (List.length_map _).symm), List.getElem_map,
    Function.comp_apply, List.getD_eq_getElem _ _ hlt]

theorem map_getD_range (l : List Dim) : (List.range l.length).map (fun i => l.getD i 0) = l := by
  refine List.ext_getElem (by simp) fun i _ hi => ?_
  rw [List.getElem_map, List.getElem_range, List.getD_eq_getElem _ _ hi]

/-- The entries stay the same, whatever the order. -/
theorem arranged_perm (h : Permutes p l.length) : (arranged l p).Perm l := by
  have hperm := h.map fun i => l.getD i 0
  rwa [List.map_map, map_getD_range] at hperm

theorem Permutes.arranged (hp : Permutes p rank) (hq : Permutes q rank) :
    Permutes (arranged p q) rank :=
  ((arranged_perm (hp.length ▸ hq)).map _).trans hp

/-- In the order of its places a list is as it was. -/
theorem arranged_range (h : l.length ≤ 2 ^ 32) :
    arranged l ((List.range l.length).map .ofNat) = l := by
  unfold arranged
  rw [List.map_map]
  refine (List.map_congr_left fun i hi => ?_).trans (map_getD_range l)
  have hnumber : i < 2 ^ 32 := lt_of_lt_of_le (List.mem_range.mp hi) h
  rw [Function.comp_apply, UInt32.toNat_ofNat_of_lt' hnumber]

/-! ## The way back -/

theorem getElem?_inversePermutation (h : Permutes p rank) (hi : p[i]? = some axis) :
    (inversePermutation p)[axis.toNat]? = some (.ofNat i) := by
  obtain ⟨hlt, rfl⟩ := List.getElem?_eq_some_iff.mp hi
  have haxis : p[i].toNat < p.length :=
    lt_of_lt_of_eq (h.inRange (List.getElem_mem hlt)) h.length.symm
  unfold inversePermutation
  rw [List.getElem?_map, List.getElem?_range haxis, Option.map_some, h.idxOf_toNat hlt]

/-- A permutation in the order of its inverse lists the axes as they are. -/
theorem arranged_inversePermutation (h : Permutes p rank) :
    arranged p (inversePermutation p) = (List.range rank).map .ofNat := by
  unfold arranged inversePermutation
  rw [List.map_map, h.length]
  refine List.map_congr_left fun i hi => ?_
  obtain ⟨j, hj, rfl⟩ := h.exists_getElem (List.mem_range.mp hi)
  rw [Function.comp_apply, h.idxOf_toNat hj, h.toNat_ofNat (lt_of_lt_of_eq hj h.length),
    List.getD_eq_getElem _ _ hj, UInt32.ofNat_toNat]

theorem Permutes.inversePermutation (h : Permutes p rank) :
    Permutes (inversePermutation p) rank := by
  refine permutes_iff.mpr ⟨?_, ⟨?_, fun axis haxis => ?_⟩⟩
  · rw [TensorTyping.inversePermutation, List.length_map, List.length_range, h.length]
  · -- reading the permutation in its order, nothing is listed twice
    refine List.Nodup.of_map (fun axis => p.getD axis.toNat 0) ?_
    show (TensorTyping.arranged p _).Nodup
    rw [arranged_inversePermutation h]
    refine List.Nodup.map_on (fun i hi j hj hij => ?_) List.nodup_range
    rw [← h.toNat_ofNat (List.mem_range.mp hi), hij, h.toNat_ofNat (List.mem_range.mp hj)]
  · obtain ⟨i, hi, rfl⟩ := List.mem_map.mp haxis
    obtain ⟨j, hj, rfl⟩ := h.exists_getElem (lt_of_lt_of_eq (List.mem_range.mp hi) h.length)
    have hplace : j < rank := lt_of_lt_of_eq hj h.length
    rwa [h.idxOf_toNat hj, h.toNat_ofNat hplace]

/-! ## Transposition -/

variable {x : Operand}

/-- The axes of a permutation are read off the shape. -/
theorem mapM_dim_of_permutes (h : Permutes p x.rank) :
    (p.mapM fun axis => x.shape.dim axis.toNat) = .ok (arranged x.shape p) := by
  have hread : ∀ axis ∈ p, ∀ d, x.shape.dim axis.toNat = .ok d ↔
      axis.toNat < x.rank ∧ d = x.sizeOn axis := fun _ _ _ =>
    Shape.dim_eq_ok.trans Operand.getElem?_axis
  exact (Infer.mapM_eq_ok_map hread).mpr ⟨fun _ haxis => h.inRange haxis, rfl⟩

theorem transpose_of_permutes (h : Permutes p x.rank) :
    transpose p x = Operand.create x.dataType (arranged x.shape p) := by
  obtain ⟨hlength, haxes⟩ := permutes_iff.mp h
  have hlength' : x.requireLength "Transpose" "permutation" p.length = .ok () :=
    require_eq_ok.mpr hlength
  have haxes' : requireAxes "Transpose" p x.rank = .ok () := requireAxes_eq_ok.mpr haxes
  unfold transpose
  rw [hlength', haxes', mapM_dim_of_permutes h]
  rfl

theorem transpose_of_not_permutes (h : ¬ Permutes p x.rank) :
    ∃ cause, transpose p x = reject cause ∧ cause.category = .invalidAttribute := by
  by_cases hlength : p.length = x.rank
  · have haxes : ∀ u, requireAxes "Transpose" p x.rank ≠ .ok u := fun u hu =>
      h (permutes_iff.mpr ⟨hlength, requireAxes_eq_ok.mp hu⟩)
    have hlength' : x.requireLength "Transpose" "permutation" p.length = .ok () :=
      require_eq_ok.mpr hlength
    cases hrejected : requireAxes "Transpose" p x.rank with
    | ok u => exact absurd hrejected (haxes u)
    | error failure =>
      obtain ⟨cause, rfl, hcategory⟩ := requireAxes_rejectsAs failure hrejected
      refine ⟨cause, ?_, hcategory⟩
      unfold transpose
      rw [hlength', hrejected]
      rfl
  · have hlength' : x.requireLength "Transpose" "permutation" p.length =
        reject (.attributeLength "Transpose" "permutation" p.length x.shape) := if_neg hlength
    refine ⟨.attributeLength "Transpose" "permutation" p.length x.shape, ?_, rfl⟩
    unfold transpose
    rw [hlength']
    rfl

/-- Without empty axes, every order of the axes of a counted tensor can be counted. -/
theorem transpose_eq_ok (h : Permutes p x.rank) (hx : x.Sized) (hzero : 0 ∉ x.shape) :
    transpose p x = .ok ⟨x.dataType, arranged x.shape p⟩ := by
  have hsized := Operand.sized_iff_of_perm (x := x) (y := ⟨x.dataType, arranged x.shape p⟩) rfl
    (arranged_perm h).symm hzero
  rw [transpose_of_permutes h]
  exact Operand.create_eq_ok.mpr ⟨rfl, hsized.mp hx⟩

/-- Two transpositions after each other are one. -/
theorem transpose_arranged (hp : Permutes p x.rank) (hq : Permutes q x.rank) :
    transpose q ⟨x.dataType, arranged x.shape p⟩ = transpose (arranged p q) x := by
  have hrank : (⟨x.dataType, arranged x.shape p⟩ : Operand).rank = x.rank :=
    length_arranged.trans hp.length
  have hlt : ∀ axis ∈ q, axis.toNat < p.length := fun axis haxis =>
    lt_of_lt_of_eq (hq.inRange haxis) hp.length.symm
  rw [transpose_of_permutes (hrank ▸ hq), transpose_of_permutes (hp.arranged hq),
    arranged_arranged hlt]

end

/-- **Transposition is the action of the permutations of the axes.** Its rules pass exactly the
permutations, and anything else is an invalid attribute. On tensors that can be counted and have no
empty axis it always succeeds; the dimensions are then those of the input in the order of the
permutation, two transpositions after each other are the one by the composition, and the inverse
permutation leads back. -/
theorem transposition_acts :
    (∀ (p : List Dim) (x : Operand),
      (x.requireLength "Transpose" "permutation" p.length = .ok () ∧
        requireAxes "Transpose" p x.rank = .ok () ↔ Permutes p x.rank) ∧
      (Permutes p x.rank → transpose p x = Operand.create x.dataType (arranged x.shape p)) ∧
      (¬ Permutes p x.rank →
        ∃ cause, transpose p x = reject cause ∧ cause.category = .invalidAttribute)) ∧
    ∀ (p q : List Dim) (x : Operand), x.Sized → 0 ∉ x.shape →
      Permutes p x.rank → Permutes q x.rank →
      ∃ y, transpose p x = .ok y ∧ y.rank = x.rank ∧
        (∀ (i : ℕ) (axis : Dim), p[i]? = some axis → y.shape[i]? = x.shape[axis.toNat]?) ∧
        transpose q y = transpose (arranged p q) x ∧
        Permutes (inversePermutation p) x.rank ∧
        (∀ (i : ℕ) (axis : Dim), p[i]? = some axis →
          (inversePermutation p)[axis.toNat]? = some (.ofNat i)) ∧
        transpose (inversePermutation p) y = .ok x := by
  refine ⟨fun p x => ⟨?_, transpose_of_permutes, transpose_of_not_permutes⟩, ?_⟩
  · rw [Operand.requireLength, require_eq_ok, requireAxes_eq_ok, permutes_iff]
  · intro p q x hx hzero hp hq
    refine ⟨_, transpose_eq_ok hp hx hzero, length_arranged.trans hp.length,
      fun i axis hi => getElem?_arranged hp hi, transpose_arranged hp hq, hp.inversePermutation,
      fun i axis hi => getElem?_inversePermutation hp hi, ?_⟩
    have hself : arranged x.shape (arranged p (inversePermutation p)) = x.shape := by
      rw [arranged_inversePermutation hp]
      exact arranged_range hp.rank_le
    have hback := hp.arranged hp.inversePermutation
    rw [transpose_arranged hp hp.inversePermutation, transpose_eq_ok hback hx hzero, hself]

/-- Four axes in another order, in a second order after it, and back again. -/
theorem transposition_acts_rank_four :
    (⟨.int8, [2, 3, 5, 7]⟩ : Operand).Sized ∧ 0 ∉ ([2, 3, 5, 7] : Shape) ∧
      Permutes [2, 0, 3, 1] 4 ∧ Permutes [3, 2, 0, 1] 4 ∧
      transpose [2, 0, 3, 1] ⟨.int8, [2, 3, 5, 7]⟩ = .ok ⟨.int8, [5, 2, 7, 3]⟩ ∧
      transpose [3, 2, 0, 1] ⟨.int8, [5, 2, 7, 3]⟩ =
        transpose [1, 3, 2, 0] ⟨.int8, [2, 3, 5, 7]⟩ ∧
      transpose [1, 3, 0, 2] ⟨.int8, [5, 2, 7, 3]⟩ = .ok ⟨.int8, [2, 3, 5, 7]⟩ ∧
      ∃ cause, transpose [2, 0, 3, 2] ⟨.int8, [2, 3, 5, 7]⟩ = reject cause ∧
        cause.category = .invalidAttribute := by
  have hx : (⟨.int8, [2, 3, 5, 7]⟩ : Operand).Sized := by decide
  have hzero : 0 ∉ ([2, 3, 5, 7] : Shape) := by decide
  have hp : Permutes [2, 0, 3, 1] 4 := by decide
  have hq : Permutes [3, 2, 0, 1] 4 := by decide
  obtain ⟨hrules, haction⟩ := transposition_acts
  obtain ⟨y, hy, -, -, hsteps, -, -, hback⟩ := haction _ _ _ hx hzero hp hq
  obtain rfl : ⟨.int8, [5, 2, 7, 3]⟩ = y := Except.ok.inj hy
  exact ⟨hx, hzero, hp, hq, hy, hsteps, hback,
    (hrules [2, 0, 3, 2] ⟨.int8, [2, 3, 5, 7]⟩).2.2 (by decide)⟩

end TensorTyping
