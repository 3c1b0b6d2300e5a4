import Mathlib
import TensorTyping.Operator.Joining
import TensorTyping.Proofs.OperandSize

/-!
# Joining and splitting are inverse

Joining and splitting are two readings of one relation: several operands lie side by side along an
axis and make up another one. Joining asks for the whole, splitting for the parts. The relation says
nothing about sizes in bytes, and there the two differ: joining checks the whole and splitting checks
the parts, but the parts of a whole that can be counted can be counted too.

* `Operand.Alongside` — two operands that may differ on one axis only.
* `Joins` — operands that make up another one along an axis.
* `concat_eq_ok`, `split_eq_ok` — both operators in terms of the relation.
* `Joins.sized` — the parts of a counted whole are counted.
* `split_concat_inverse` — each operator undoes the other.
-/

namespace TensorTyping

/-! ## One axis of an operand -/

namespace Operand

variable {x y z : Operand} {axis size : Dim}

/-- The size on an axis, or 0 when there is no such axis. -/
def sizeOn (x : Operand) (axis : Dim) : Dim :=
  x.shape.getD axis.toNat 0

/-- The operand with another size on an axis. -/
def resize (x : Operand) (axis size : Dim) : Operand :=
  ⟨x.dataType, List.set x.shape axis.toNat size⟩

/-- Two operands that may differ in their sizes on one axis, and in nothing else. -/
structure Alongside (axis : Dim) (x y : Operand) : Prop where
  sameType : x.dataType = y.dataType
  sameRank : x.rank = y.rank
  sameDims : ∀ i, i ≠ axis.toNat → x.shape[i]? = y.shape[i]?

theorem getElem?_axis :
    x.shape[axis.toNat]? = some size ↔ axis.toNat < x.rank ∧ size = x.sizeOn axis := by
  unfold sizeOn rank
  rw [List.getD_eq_getElem?_getD]
  constructor
  · intro h
    have hlt : axis.toNat < x.shape.length := (List.getElem?_eq_some_iff.mp h).1
    rw [h]
    exact ⟨hlt, rfl⟩
  · rintro ⟨hlt, rfl⟩
    rw [List.getElem?_eq_getElem hlt]
    rfl

theorem sizeOn_resize (haxis : axis.toNat < x.rank) : (x.resize axis size).sizeOn axis = size := by
  have hlt : axis.toNat < x.shape.length := haxis
  unfold sizeOn resize
  rw [List.getD_eq_getElem?_getD, List.getElem?_set_self hlt]
  rfl

theorem alongside_resize : (x.resize axis size).Alongside axis x where
  sameType := rfl
  sameRank := List.length_set
  sameDims _ hi := List.getElem?_set_ne (Ne.symm hi)

namespace Alongside

theorem symm (h : x.Alongside axis y) : y.Alongside axis x :=
  ⟨h.sameType.symm, h.sameRank.symm, fun i hi => (h.sameDims i hi).symm⟩

theorem trans (h : x.Alongside axis y) (h' : y.Alongside axis z) : x.Alongside axis z :=
  ⟨h.sameType.trans h'.sameType, h.sameRank.trans h'.sameRank,
    fun i hi => (h.sameDims i hi).trans (h'.sameDims i hi)⟩

/-- Either operand is the other one with its own size on the axis. -/
theorem eq_resize (h : x.Alongside axis y) (haxis : axis.toNat < y.rank) :
    x = y.resize axis (x.sizeOn axis) := by
  obtain ⟨type, shape⟩ := x
  obtain rfl : type = y.dataType := h.sameType
  refine congrArg (Operand.mk y.dataType) (List.ext_getElem? fun i => ?_)
  by_cases hi : i = axis.toNat
  · subst hi
    rw [List.getElem?_set_self haxis]
    exact getElem?_axis.mpr ⟨lt_of_lt_of_eq haxis h.sameRank.symm, rfl⟩
  · rw [List.getElem?_set_ne (Ne.symm hi)]
    exact h.sameDims i hi

/-- An operand that is shorter on the axis is counted when the longer one is. -/
theorem sized (h : x.Alongside axis y) (hy : y.Sized)
    (hle : (x.sizeOn axis).toNat ≤ (y.sizeOn axis).toNat) : x.Sized := by
  refine hy.of_le h.sameType (List.forall₂_iff_get.mpr ⟨h.sameRank, fun i hx hy => ?_⟩)
  rw [List.get_eq_getElem, List.get_eq_getElem]
  by_cases hi : i = axis.toNat
  · subst hi
    unfold sizeOn at hle
    rwa [List.getD_eq_getElem _ _ hx, List.getD_eq_getElem _ _ hy] at hle
  · have hsame := h.sameDims i hi
    rw [List.getElem?_eq_getElem hx, List.getElem?_eq_getElem hy, Option.some.injEq] at hsame
    rw [hsame]

end Alongside

end Operand

/-- The sizes of operands on an axis. -/
def sizesOn (axis : Dim) (xs : List Operand) : List Dim :=
  xs.map fun x => x.sizeOn axis

/-- The operands `xs` lie side by side along the axis and make up `y`. -/
structure Joins (axis : Dim) (xs : List Operand) (y : Operand) : Prop where
  nonempty : xs ≠ []
  hasAxis : axis.toNat < y.rank
  alongside : ∀ x ∈ xs, x.Alongside axis y
  total : (y.sizeOn axis).toNat = ((sizesOn axis xs).map UInt32.toNat).sum

/-- The parts of a whole that can be counted can be counted. -/
theorem Joins.sized {axis : Dim} {xs : List Operand} {y : Operand} (h : Joins axis xs y)
    (hy : y.Sized) : ∀ x ∈ xs, x.Sized := by
  intro x hx
  refine (h.alongside x hx).sized hy ?_
  have hmem : x.sizeOn axis ∈ sizesOn axis xs := List.mem_map.mpr ⟨x, hx, rfl⟩
  rw [h.total]
  exact List.single_le_sum (fun _ _ => Nat.zero_le _) _ (List.mem_map.mpr ⟨_, hmem, rfl⟩)

/-! ## Joining -/

section Concat

variable {axis : Dim} {first y : Operand} {xs : List Operand} {u : Unit}

theorem requireDims_eq_ok {index place : ℕ} {dims expected : List Dim} :
    requireDims index axis place dims expected = .ok u ↔
      ∀ i d e, dims[i]? = some d → expected[i]? = some e → place + i = axis.toNat ∨ d = e := by
  induction dims generalizing place expected with
  | nil => simp [requireDims]
  | cons d dims ih =>
    cases expected with
    | nil => simp [requireDims]
    | cons e expected =>
      simp only [requireDims, Infer.bind_eq_ok, require_eq_ok, ih, exists_const]
      constructor
      · rintro ⟨hhead, htail⟩ i d' e' hd he
        cases i with
        | zero =>
          cases hd
          cases he
          exact hhead
        | succ i =>
          have hplace : place + (i + 1) = place + 1 + i := by omega
          rw [hplace]
          exact htail i d' e' hd he
      · intro h
        refine ⟨h 0 d e rfl rfl, fun i d' e' hd he => ?_⟩
        have hplace : place + 1 + i = place + (i + 1) := by omega
        rw [hplace]
        exact h (i + 1) d' e' hd he

/-- The rules for an input say that it lies alongside the first one. -/
theorem alongside_iff {x : Operand} :
    x.Alongside axis first ↔
      x.dataType = first.dataType ∧ x.rank = first.rank ∧
        ∀ i d e, x.shape[i]? = some d → first.shape[i]? = some e → 0 + i = axis.toNat ∨ d = e := by
  constructor
  · intro h
    refine ⟨h.sameType, h.sameRank, fun i d e hd he => ?_⟩
    rw [Nat.zero_add]
    refine or_iff_not_imp_left.mpr fun hi => ?_
    exact Option.some.inj (hd.symm.trans ((h.sameDims i hi).trans he))
  · rintro ⟨htype, hrank, hdims⟩
    refine ⟨htype, hrank, fun i hi => ?_⟩
    by_cases hlt : i < x.shape.length
    · have hlt' : i < first.shape.length := lt_of_lt_of_eq hlt hrank
      have hd := List.getElem?_eq_getElem hlt
      have he := List.getElem?_eq_getElem hlt'
      have hsame := (hdims i _ _ hd he).resolve_left (by rwa [Nat.zero_add])
      rw [hd, he, hsame]
    · have hle : x.shape.length ≤ i := Nat.le_of_not_lt hlt
      rw [List.getElem?_eq_none hle, List.getElem?_eq_none (le_of_eq_of_le hrank.symm hle)]

theorem requireJoinable_eq_ok {index : ℕ} :
    requireJoinable first axis index xs = .ok u ↔ ∀ x ∈ xs, x.Alongside axis first := by
  induction xs generalizing index with
  | nil => simp [requireJoinable]
  | cons x xs ih =>
    simp only [requireJoinable, Operand.requireType, Infer.bind_eq_ok, require_eq_ok,
      requireDims_eq_ok, ih, exists_const, List.forall_mem_cons, alongside_iff, and_assoc]

/-- The sizes on the axis are read off where every input has it. -/
theorem mapM_dim_eq_ok {sizes : List Dim} :
    (xs.mapM fun x => x.shape.dim axis.toNat) = .ok sizes ↔
      (∀ x ∈ xs, axis.toNat < x.rank) ∧ sizes = sizesOn axis xs :=
  Infer.mapM_eq_ok_map fun _ _ _ => Shape.dim_eq_ok.trans Operand.getElem?_axis

/-- Joining gives the operand that the inputs make up, if it can be counted. -/
theorem concat_eq_ok : concat xs axis = .ok y ↔ Joins axis xs y ∧ y.Sized := by
  cases xs with
  | nil =>
    simp only [concat, Infer.reject_eq_ok, false_iff]
    exact fun h => h.1.nonempty rfl
  | cons first xs =>
    simp only [concat, requireAxis, Infer.bind_eq_ok, require_eq_ok, requireJoinable_eq_ok,
      mapM_dim_eq_ok, Magnitude.dimOrOverflow_eq_ok, Magnitude.value_sum, Shape.set_eq_ok,
      Operand.create_eq_ok, exists_const]
    constructor
    · rintro ⟨haxis, hxs, _, ⟨-, rfl⟩, size, ⟨hsize, -⟩, _, ⟨-, rfl⟩, hy, hsized⟩
      obtain rfl : y = first.resize axis size := hy
      have hfirst : first.Alongside axis (first.resize axis size) :=
        Operand.alongside_resize.symm
      refine ⟨⟨List.cons_ne_nil _ _, lt_of_lt_of_eq haxis hfirst.sameRank, ?_, ?_⟩, hsized⟩
      · exact List.forall_mem_cons.mpr ⟨hfirst, fun x hx => (hxs x hx).trans hfirst⟩
      · rw [Operand.sizeOn_resize haxis, hsize]
    · rintro ⟨h, hsized⟩
      obtain ⟨hfirst, hxs⟩ := List.forall_mem_cons.mp h.alongside
      have haxis : axis.toNat < first.rank := lt_of_lt_of_eq h.hasAxis hfirst.sameRank.symm
      have hrank : ∀ x ∈ first :: xs, axis.toNat < x.rank := fun x hx =>
        lt_of_lt_of_eq h.hasAxis (h.alongside x hx).sameRank.symm
      refine ⟨haxis, fun x hx => (hxs x hx).trans hfirst.symm, _, ⟨hrank, rfl⟩, y.sizeOn axis,
        ⟨h.total, Dim.le_largest _⟩, _, ⟨haxis, rfl⟩, hfirst.symm.eq_resize haxis, hsized⟩

end Concat

/-! ## Splitting -/

namespace Partition

variable {p : Partition} {sizes : List Dim}

/-- The number of parts that a partition asks for. -/
def number : Partition → ℕ
  | .count parts => parts.toNat
  | .sizes given => given.length

/-- The sizes that a partition asks for: equal ones, or those that it lists. None is zero, unless it
is the only one of a count. -/
def Asks (p : Partition) (sizes : List Dim) : Prop :=
  match p with
  | .count parts => parts ≠ 0 ∧ ∃ size, sizes = List.replicate parts.toNat size ∧
      (size ≠ 0 ∨ parts = 1)
  | .sizes given => sizes = given ∧ given ≠ [] ∧ 0 ∉ given

theorem Asks.length (h : p.Asks sizes) : sizes.length = p.number := by
  cases p with
  | count parts =>
    obtain ⟨-, size, rfl, -⟩ := h
    exact List.length_replicate
  | sizes given =>
    obtain ⟨rfl, -⟩ := h
    rfl

theorem Asks.ne_nil (h : p.Asks sizes) : sizes ≠ [] := by
  cases p with
  | count parts =>
    obtain ⟨hparts, size, rfl, -⟩ := h
    rw [ne_eq, List.replicate_eq_nil_iff]
    exact (Dim.ne_zero_iff.mp hparts).ne'
  | sizes given =>
    obtain ⟨rfl, hne, -⟩ := h
    exact hne

theorem count_le_max_iff {parts size : Dim} :
    parts ≤ max size 1 ↔ parts.toNat ≤ max size.toNat 1 := by
  have hmax : (max size 1 : Dim) = if size ≤ 1 then 1 else size := rfl
  have hone : (1 : Dim).toNat = 1 := rfl
  rw [UInt32.le_iff_toNat_le, hmax]
  split_ifs with h
  · rw [UInt32.le_iff_toNat_le, hone] at h
    rw [hone]
    omega
  · rw [UInt32.le_iff_toNat_le, hone] at h
    omega

/-- A partition of an axis has the sizes that it asks for, if these add up to the axis. -/
theorem parts_eq_ok {size : Dim} {shape : Shape} :
    p.parts size shape = .ok sizes ↔ p.Asks sizes ∧ size.toNat = (sizes.map UInt32.toNat).sum := by
  cases p with
  | count parts =>
    simp only [Partition.parts, Asks, Infer.bind_eq_ok, require_eq_ok, count_le_max_iff,
      Dim.remainder_eq_ok, Dim.quotient_eq_ok, Infer.pure_eq_ok, exists_const]
    constructor
    · rintro ⟨hparts, hle, _, ⟨-, hrest⟩, rfl, part, ⟨-, hpart⟩, rfl⟩
      have hdvd : parts.toNat ∣ size.toNat := Nat.dvd_of_mod_eq_zero hrest.symm
      have hsize : size.toNat = parts.toNat * part.toNat := by
        rw [hpart, Nat.mul_div_cancel' hdvd]
      refine ⟨⟨hparts, part, rfl, or_iff_not_imp_left.mpr fun hzero => ?_⟩, ?_⟩
      · -- parts of size 0 make up an empty axis, and that is its own only part
        have hempty : size.toNat = 0 := by
          rw [hsize, not_not.mp hzero]
          rfl
        have hpos := Dim.ne_zero_iff.mp hparts
        exact UInt32.toNat_inj.mp (show parts.toNat = 1 by omega)
      · rw [List.map_replicate, List.sum_replicate, smul_eq_mul, hsize]
    · rintro ⟨⟨hparts, part, rfl, hpart⟩, hsize⟩
      rw [List.map_replicate, List.sum_replicate, smul_eq_mul] at hsize
      have hpos := Dim.ne_zero_iff.mp hparts
      refine ⟨hparts, ?_, 0, ⟨hparts, ?_⟩, rfl, part, ⟨hparts, ?_⟩, rfl⟩
      · rcases hpart with hpart | rfl
        · rw [hsize]
          exact le_max_of_le_left (Nat.le_mul_of_pos_right _ (Dim.ne_zero_iff.mp hpart))
        · exact le_max_right _ _
      · rw [hsize, Nat.mul_mod_right]
        rfl
      · rw [hsize, Nat.mul_div_cancel_left _ hpos]
  | sizes given =>
    simp only [parts, Asks, Infer.bind_eq_ok, require_eq_ok, Magnitude.dimOrOverflow_eq_ok,
      Magnitude.value_sum, Infer.pure_eq_ok, exists_const]
    constructor
    · rintro ⟨hgiven, total, ⟨htotal, -⟩, rfl, rfl⟩
      exact ⟨⟨rfl, hgiven⟩, htotal⟩
    · rintro ⟨⟨rfl, hgiven⟩, htotal⟩
      exact ⟨hgiven, size, ⟨htotal, size.le_largest⟩, rfl, rfl⟩

end Partition

/-- Splitting gives the operands that make up the input and have the sizes that the partition asks
for, if each of them can be counted. -/
theorem split_eq_ok {p : Partition} {axis : Dim} {x : Operand} {parts : List Operand} :
    split p axis x = .ok parts ↔
      Joins axis parts x ∧ p.Asks (sizesOn axis parts) ∧ ∀ y ∈ parts, y.Sized := by
  have hpart : axis.toNat < x.rank → ∀ size y,
      (do Operand.create x.dataType (← x.shape.set axis.toNat size)) = .ok y ↔
        (x.resize axis size).Sized ∧ y = x.resize axis size := by
    intro haxis size y
    simp only [Infer.bind_eq_ok, Shape.set_eq_ok, Operand.create_eq_ok]
    constructor
    · rintro ⟨_, ⟨-, rfl⟩, rfl, hsized⟩
      exact ⟨hsized, rfl⟩
    · rintro ⟨hsized, rfl⟩
      exact ⟨_, ⟨haxis, rfl⟩, rfl, hsized⟩
  simp only [split, requireAxis, Infer.bind_eq_ok, require_eq_ok, Shape.dim_eq_ok,
    Operand.getElem?_axis, Partition.parts_eq_ok, exists_const]
  constructor
  · rintro ⟨haxis, _, ⟨-, rfl⟩, sizes, ⟨hasks, htotal⟩, h⟩
    obtain ⟨hsized, rfl⟩ := (Infer.mapM_eq_ok_map fun size _ => hpart haxis size).mp h
    have hsizes : sizesOn axis (sizes.map (x.resize axis)) = sizes := by
      unfold sizesOn
      rw [List.map_map]
      exact List.map_id'' (fun size => Operand.sizeOn_resize haxis) sizes
    refine ⟨⟨?_, haxis, ?_, ?_⟩, by rwa [hsizes], List.forall_mem_map.mpr hsized⟩
    · rw [ne_eq, List.map_eq_nil_iff]
      exact hasks.ne_nil
    · exact List.forall_mem_map.mpr fun size _ => Operand.alongside_resize
    · rw [htotal, hsizes]
  · rintro ⟨h, hasks, hsized⟩
    have hparts : (sizesOn axis parts).map (x.resize axis) = parts := by
      unfold sizesOn
      rw [List.map_map]
      refine (List.map_congr_left fun y hy => ?_).trans (List.map_id parts)
      exact ((h.alongside y hy).eq_resize h.hasAxis).symm
    rw [← hparts] at hsized
    exact ⟨h.hasAxis, _, ⟨h.hasAxis, rfl⟩, _, ⟨hasks, h.total⟩,
      (Infer.mapM_eq_ok_map fun size _ => hpart h.hasAxis size).mpr
        ⟨List.forall_mem_map.mp hsized, hparts.symm⟩⟩

/-! ## Each undoes the other -/

/-- **Splitting and joining are inverse.** The parts of a counted operand are as many as the
partition asks for, agree with it off the axis, and join to it again. Operands that are not empty
on the axis are the parts of what they join to. -/
theorem split_concat_inverse :
    (∀ (p : Partition) (axis : Dim) (x : Operand) (parts : List Operand), x.Sized →
      split p axis x = .ok parts →
        parts ≠ [] ∧ parts.length = p.number ∧
        (∀ y ∈ parts, y.dataType = x.dataType ∧ y.rank = x.rank ∧
          ∀ i, i ≠ axis.toNat → y.shape[i]? = x.shape[i]?) ∧
        concat parts axis = .ok x) ∧
    ∀ (xs : List Operand) (axis : Dim) (y : Operand), (∀ x ∈ xs, x.sizeOn axis ≠ 0) →
      concat xs axis = .ok y →
        split (.sizes (sizesOn axis xs)) axis y = .ok xs := by
  constructor
  · intro p axis x parts hsized hsplit
    obtain ⟨hjoins, hasks, -⟩ := split_eq_ok.mp hsplit
    refine ⟨hjoins.nonempty, ?_, fun y hy => ?_, concat_eq_ok.mpr ⟨hjoins, hsized⟩⟩
    · exact (List.length_map _).symm.trans hasks.length
    · have halong := hjoins.alongside y hy
      exact ⟨halong.sameType, halong.sameRank, halong.sameDims⟩
  · intro xs axis y hne hconcat
    obtain ⟨hjoins, hsized⟩ := concat_eq_ok.mp hconcat
    refine split_eq_ok.mpr ⟨hjoins, ⟨rfl, ?_, ?_⟩, hjoins.sized hsized⟩
    · intro hnil
      exact hjoins.nonempty (List.map_eq_nil_iff.mp hnil)
    · intro hzero
      obtain ⟨x, hx, hsize⟩ := List.mem_map.mp hzero
      exact hne x hx hsize

/-- An empty tensor cut into uneven parts, and parts that make up an axis behind an empty one. -/
theorem split_concat_inverse_empty :
    (⟨.int8, [0, 5]⟩ : Operand).Sized ∧
      split (.sizes [2, 3]) 1 ⟨.int8, [0, 5]⟩ = .ok [⟨.int8, [0, 2]⟩, ⟨.int8, [0, 3]⟩] ∧
      concat [⟨.int8, [0, 2]⟩, ⟨.int8, [0, 3]⟩] 1 = .ok ⟨.int8, [0, 5]⟩ ∧
      split (.sizes (sizesOn 1 [⟨.int8, [0, 2]⟩, ⟨.int8, [0, 3]⟩])) 1 ⟨.int8, [0, 5]⟩ =
        .ok [⟨.int8, [0, 2]⟩, ⟨.int8, [0, 3]⟩] := by
  have hsized : (⟨.int8, [0, 5]⟩ : Operand).Sized := by decide
  have hsplit : split (.sizes [2, 3]) 1 ⟨.int8, [0, 5]⟩ =
      .ok [⟨.int8, [0, 2]⟩, ⟨.int8, [0, 3]⟩] := by decide
  obtain ⟨-, -, -, hconcat⟩ := split_concat_inverse.1 _ _ _ _ hsized hsplit
  exact ⟨hsized, hsplit, hconcat, split_concat_inverse.2 _ _ _ (by decide) hconcat⟩

end TensorTyping
