import Mathlib
import TensorTyping.Proofs.Inference
import TensorTyping.Proofs.Magnitude

/-!
# Which operands can be counted

The elements of a tensor are counted from the outermost axis in, and a count that has left its range
stays invalid. A zero therefore settles the count of the axes behind it, but it cannot rescue
the axes before it: the same dimensions may be countable in one order and not in another. Without
a zero the order does not matter.

* `Shape.elements` — the number of elements, without a limit.
* `Shape.leading` — the dimensions before the first zero.
* `Operand.sized_iff` — an operand can be counted when its bytes and its leading dimensions can.
* `Operand.Sized.of_le`, `Operand.sized_iff_of_perm` — smaller dimensions, and dimensions in another
  order.
* `Operand.create_iff_elements_bounded` — when an operand is created, and with which sizes.
-/

namespace TensorTyping

namespace Shape

variable {s t : Shape} {d : Dim}

/-- The number of elements of a tensor, without a limit. -/
def elements (s : Shape) : ℕ :=
  (s.map UInt32.toNat).prod

/-- The dimensions before the first one that is zero. -/
def leading (s : Shape) : Shape :=
  s.takeWhile (· ≠ 0)

/-- The dimensions other than zero. -/
def nonzero (s : Shape) : Shape :=
  s.filter (· ≠ 0)

@[simp] theorem elements_nil : elements [] = 1 := rfl

@[simp] theorem elements_cons : elements (d :: s) = d.toNat * s.elements := rfl

@[simp] theorem leading_nil : leading [] = [] := rfl

@[simp] theorem leading_cons_zero : leading (0 :: s) = [] := rfl

theorem leading_cons_of_ne (hd : d ≠ 0) : leading (d :: s) = d :: s.leading :=
  List.takeWhile_cons_of_pos (by simpa using hd)

theorem leading_eq_self (h : 0 ∉ s) : s.leading = s := by
  refine List.takeWhile_eq_self_iff.mpr fun d hd => ?_
  have hne : d ≠ 0 := fun hzero => h (hzero ▸ hd)
  simpa using hne

theorem elements_leading_pos (s : Shape) : 0 < s.leading.elements := by
  induction s with
  | nil => exact Nat.one_pos
  | cons d s ih =>
    by_cases hd : d = 0
    · rw [hd, leading_cons_zero]
      exact Nat.one_pos
    · rw [leading_cons_of_ne hd, elements_cons]
      exact Nat.mul_pos (Dim.ne_zero_iff.mp hd) ih

theorem leading_append_of_not_mem (h : 0 ∉ s) : leading (s ++ t) = s ++ t.leading := by
  refine List.takeWhile_append_of_pos fun d hd => ?_
  have hne : d ≠ 0 := fun hzero => h (hzero ▸ hd)
  simpa using hne

@[simp] theorem nonzero_cons_zero : nonzero (0 :: s) = s.nonzero := rfl

theorem nonzero_cons_of_ne (hd : d ≠ 0) : nonzero (d :: s) = d :: s.nonzero :=
  List.filter_cons_of_pos (by simpa using hd)

theorem zero_not_mem_nonzero (s : Shape) : 0 ∉ s.nonzero := by
  unfold nonzero
  simp

theorem nonzero_perm (h : s.Perm t) : s.nonzero.Perm t.nonzero :=
  h.filter _

/-- The leading dimensions are among those other than zero. -/
theorem elements_leading_le_nonzero (s : Shape) : s.leading.elements ≤ s.nonzero.elements := by
  induction s with
  | nil => exact le_rfl
  | cons d s ih =>
    by_cases hd : d = 0
    · rw [hd, leading_cons_zero, nonzero_cons_zero]
      exact le_trans (elements_leading_pos s) ih
    · rw [leading_cons_of_ne hd, nonzero_cons_of_ne hd]
      exact Nat.mul_le_mul_left _ ih

theorem elements_eq_zero (h : 0 ∈ s) : s.elements = 0 :=
  List.prod_eq_zero (List.mem_map.mpr ⟨0, h, rfl⟩)

theorem elements_append (s t : Shape) : elements (s ++ t) = s.elements * t.elements := by
  unfold elements
  rw [List.map_append, List.prod_append]

theorem elements_perm (h : s.Perm t) : s.elements = t.elements :=
  (h.map _).prod_eq

theorem elements_le (h : List.Forall₂ (fun d e : Dim => d.toNat ≤ e.toNat) s t) :
    s.elements ≤ t.elements := by
  induction h with
  | nil => exact le_rfl
  | cons hle _ ih => exact Nat.mul_le_mul hle ih

/-- Where dimensions shrink, the first zero comes no later. -/
theorem elements_leading_le (h : List.Forall₂ (fun d e : Dim => d.toNat ≤ e.toNat) s t) :
    s.leading.elements ≤ t.leading.elements := by
  induction h with
  | nil => exact le_rfl
  | @cons d e s t hle _ ih =>
    by_cases hd : d = 0
    · rw [hd, leading_cons_zero]
      exact elements_leading_pos (e :: t)
    · have he : e ≠ 0 := Dim.ne_zero_iff.mpr (lt_of_lt_of_le (Dim.ne_zero_iff.mp hd) hle)
      rw [leading_cons_of_ne hd, leading_cons_of_ne he]
      exact Nat.mul_le_mul hle ih

end Shape

/-! ## Products -/

namespace Magnitude

variable {a : Magnitude .count} {s : Shape} {d : Dim} {n : ℕ}

theorem value_mul_dim :
    (a * ofNat d.toNat).value = some n ↔
      ∃ m, a.value = some m ∧ m * d.toNat = n ∧ n < Width.count.limit := by
  have hd : (ofNat d.toNat : Magnitude .count).value = some d.toNat := by
    have hlt : d.toNat < Width.count.limit := lt_trans d.toNat_lt (by decide)
    rw [value_ofNat, if_pos hlt]
  rw [value_mul_eq_some]
  constructor
  · rintro ⟨m, k, ha, hk, hn, hlt⟩
    rw [hd] at hk
    cases hk
    exact ⟨m, ha, hn, hlt⟩
  · rintro ⟨m, ha, hn, hlt⟩
    exact ⟨m, d.toNat, ha, hd, hn, hlt⟩

/-- A running product stays valid up to the first zero when that part fits, and from there on it
is zero. -/
theorem value_foldl_mul :
    (s.foldl (fun acc d => acc * ofNat d.toNat) a).value = some n ↔
      ∃ m, a.value = some m ∧ n = m * s.elements ∧
        m * s.leading.elements < Width.count.limit := by
  induction s generalizing a with
  | nil =>
    simp only [List.foldl_nil, Shape.elements_nil, Shape.leading_nil, Nat.mul_one]
    constructor
    · intro ha
      exact ⟨n, ha, rfl, a.fits n ha⟩
    · rintro ⟨m, ha, rfl, -⟩
      exact ha
  | cons d s ih =>
    rw [List.foldl_cons, ih]
    simp only [value_mul_dim, Shape.elements_cons]
    by_cases hd : d = 0
    · subst hd
      rw [Shape.leading_cons_zero]
      constructor
      · rintro ⟨_, ⟨m, ha, rfl, -⟩, rfl, -⟩
        exact ⟨m, ha, by simp, by simpa using a.fits m ha⟩
      · rintro ⟨m, ha, rfl, -⟩
        exact ⟨0, ⟨m, ha, by simp, by decide⟩, by simp, by rw [Nat.zero_mul]; decide⟩
    · rw [Shape.leading_cons_of_ne hd, Shape.elements_cons]
      constructor
      · rintro ⟨_, ⟨m, ha, rfl, -⟩, rfl, hlt⟩
        exact ⟨m, ha, Nat.mul_assoc _ _ _, by rwa [← Nat.mul_assoc]⟩
      · rintro ⟨m, ha, rfl, hlt⟩
        rw [← Nat.mul_assoc] at hlt
        -- the dimensions that follow multiply to at least 1, so this product fits as well
        have hle : m * d.toNat ≤ m * d.toNat * (Shape.leading s).elements :=
          Nat.le_mul_of_pos_right _ (Shape.elements_leading_pos s)
        exact ⟨_, ⟨m, ha, rfl, lt_of_le_of_lt hle hlt⟩, (Nat.mul_assoc _ _ _).symm, hlt⟩

theorem value_product :
    (product s).value = some n ↔
      n = s.elements ∧ s.leading.elements < Width.count.limit := by
  unfold product
  rw [value_foldl_mul]
  simp

end Magnitude

/-! ## Operands -/

theorem DataType.bytes_pos (dataType : DataType) : 0 < dataType.bytes := by
  cases dataType <;> decide

namespace Operand

variable {x y : Operand} {n : ℕ}

theorem elementCount_eq_some :
    x.elementCount = some n ↔
      n = x.shape.elements ∧ x.shape.leading.elements < Width.count.limit :=
  Magnitude.value_product

theorem byteLength_eq_some :
    x.byteLength = some n ↔
      n = x.shape.elements * x.dataType.bytes ∧ n < Width.count.limit ∧
        x.shape.leading.elements < Width.count.limit := by
  have hbytes : (Magnitude.ofNat x.dataType.bytes : Magnitude .count).value =
      some x.dataType.bytes := by
    cases x.dataType <;> rfl
  unfold byteLength
  simp only [Magnitude.value_mul_eq_some, Magnitude.value_product, hbytes, Option.some.injEq]
  constructor
  · rintro ⟨_, _, ⟨rfl, hleading⟩, rfl, rfl, hlt⟩
    exact ⟨rfl, hlt, hleading⟩
  · rintro ⟨rfl, hlt, hleading⟩
    exact ⟨_, _, ⟨rfl, hleading⟩, rfl, rfl, hlt⟩

theorem sized_iff :
    x.Sized ↔ x.shape.elements * x.dataType.bytes < Width.count.limit ∧
      x.shape.leading.elements < Width.count.limit := by
  unfold Sized
  rw [Option.isSome_iff_exists]
  simp only [byteLength_eq_some, exists_eq_left]

/-- An operand without empty axes can be counted when its bytes can. -/
theorem sized_iff_of_not_mem (h : 0 ∉ x.shape) :
    x.Sized ↔ x.shape.elements * x.dataType.bytes < Width.count.limit := by
  rw [sized_iff, Shape.leading_eq_self h]
  refine and_iff_left_of_imp fun hlt => lt_of_le_of_lt ?_ hlt
  exact Nat.le_mul_of_pos_right _ x.dataType.bytes_pos

/-- An operand whose dimensions are no larger than those of a counted one can be counted. -/
theorem Sized.of_le (hy : y.Sized) (htype : x.dataType = y.dataType)
    (hle : List.Forall₂ (fun d e : Dim => d.toNat ≤ e.toNat) x.shape y.shape) : x.Sized := by
  obtain ⟨hbytes, hleading⟩ := sized_iff.mp hy
  rw [sized_iff, htype]
  exact ⟨lt_of_le_of_lt (Nat.mul_le_mul_right _ (Shape.elements_le hle)) hbytes,
    lt_of_le_of_lt (Shape.elements_leading_le hle) hleading⟩

/-- Without empty axes the order of the axes does not matter. -/
theorem sized_iff_of_perm (htype : x.dataType = y.dataType) (hperm : x.shape.Perm y.shape)
    (h : 0 ∉ x.shape) : x.Sized ↔ y.Sized := by
  rw [sized_iff_of_not_mem h, sized_iff_of_not_mem (fun hy => h (hperm.mem_iff.mpr hy)), htype,
    Shape.elements_perm hperm]

/-- An operand with an empty axis can be counted when its leading dimensions can. -/
theorem sized_iff_of_mem (h : 0 ∈ x.shape) :
    x.Sized ↔ x.shape.leading.elements < Width.count.limit := by
  rw [sized_iff, Shape.elements_eq_zero h, Nat.zero_mul]
  exact and_iff_right (by decide)

/-- The order of the axes does not matter exactly when no axis is empty or the dimensions other than
zero can be counted together. -/
theorem forall_perm_sized_iff {dataType : DataType} {s : Shape} :
    (∀ t : Shape, s.Perm t →
      ((⟨dataType, s⟩ : Operand).Sized ↔ (⟨dataType, t⟩ : Operand).Sized)) ↔
      0 ∉ s ∨ s.nonzero.elements < Width.count.limit := by
  constructor
  · intro h
    by_contra hcon
    obtain ⟨hzero, hlarge⟩ := not_or.mp hcon
    rw [not_not] at hzero
    -- with a zero in front the tensor can be counted
    have hfirst : s.Perm (0 :: s.erase 0) := List.perm_cons_erase hzero
    have hsized : (⟨dataType, 0 :: s.erase 0⟩ : Operand).Sized :=
      (sized_iff_of_mem List.mem_cons_self).mpr (by rw [Shape.leading_cons_zero]; decide)
    -- with all zeros at the end it cannot
    have hlast : s.Perm (s.nonzero ++ s.filter fun d => !decide (d ≠ 0)) :=
      (List.filter_append_perm _ s).symm
    have hsized' := (h _ hlast).mp ((h _ hfirst).mpr hsized)
    have hleading := (sized_iff.mp hsized').2
    rw [Shape.leading_append_of_not_mem s.zero_not_mem_nonzero, Shape.elements_append] at hleading
    have hle := Nat.le_mul_of_pos_right s.nonzero.elements
      (Shape.elements_leading_pos (s.filter fun d => !decide (d ≠ 0)))
    exact hlarge (lt_of_le_of_lt hle hleading)
  · rintro (h | h) t hperm
    · exact sized_iff_of_perm rfl hperm h
    · by_cases hzero : 0 ∈ s
      · have hnonzero : t.nonzero.elements < Width.count.limit := by
          rwa [← Shape.elements_perm (Shape.nonzero_perm hperm)]
        rw [sized_iff_of_mem hzero, sized_iff_of_mem (hperm.mem_iff.mp hzero)]
        exact iff_of_true (lt_of_le_of_lt s.elements_leading_le_nonzero h)
          (lt_of_le_of_lt t.elements_leading_le_nonzero hnonzero)
      · exact sized_iff_of_perm rfl hperm hzero

theorem exists_create_iff {dataType : DataType} {s : Shape} :
    (∃ y, create dataType s = .ok y) ↔ (⟨dataType, s⟩ : Operand).Sized := by
  simp only [create_eq_ok, exists_eq_left]

/-- **What can be created depends on the dimensions up to the first zero.** The bytes have to fit
64 bits, and so have the elements of the axes before an empty one; the counts are then exact. The
order of the axes matters only for empty tensors whose other axes cannot be counted together. -/
theorem create_iff_elements_bounded (dataType : DataType) (s : Shape) :
    ((∃ y, create dataType s = .ok y) ↔
      s.elements * dataType.bytes < 2 ^ 64 ∧ s.leading.elements < 2 ^ 64) ∧
    (0 ∉ s → ((∃ y, create dataType s = .ok y) ↔ s.elements * dataType.bytes < 2 ^ 64)) ∧
    (∀ y, create dataType s = .ok y →
      y = ⟨dataType, s⟩ ∧ y.elementCount = some s.elements ∧
        y.byteLength = some (s.elements * dataType.bytes)) ∧
    ((∀ t : Shape, s.Perm t →
        ((∃ y, create dataType s = .ok y) ↔ ∃ y, create dataType t = .ok y)) ↔
      0 ∉ s ∨ s.nonzero.elements < 2 ^ 64) := by
  simp only [exists_create_iff]
  refine ⟨sized_iff, fun h => sized_iff_of_not_mem h, fun y hy => ?_, forall_perm_sized_iff⟩
  obtain ⟨rfl, hsized⟩ := create_eq_ok.mp hy
  obtain ⟨hbytes, hleading⟩ := sized_iff.mp hsized
  exact ⟨rfl, elementCount_eq_some.mpr ⟨rfl, hleading⟩,
    byteLength_eq_some.mpr ⟨rfl, hbytes, hleading⟩⟩

/-- An empty tensor that cannot be created, although it takes no bytes, because its zero comes
last; with the zero first it can. -/
theorem create_empty_depends_on_order :
    Shape.elements [4294967295, 4294967295, 4294967295, 0] * DataType.uint8.bytes < 2 ^ 64 ∧
      ¬ (∃ y, create .uint8 [4294967295, 4294967295, 4294967295, 0] = .ok y) ∧
      List.Perm [4294967295, 4294967295, 4294967295, (0 : Dim)]
        [0, 4294967295, 4294967295, 4294967295] ∧
      ∃ y, create .uint8 [0, 4294967295, 4294967295, 4294967295] = .ok y := by
  refine ⟨by decide, ?_, by decide, ?_⟩
  · rw [exists_create_iff]
    decide
  · rw [exists_create_iff]
    decide

end Operand

end TensorTyping
