import Mathlib
import TensorTyping.Magnitude
import TensorTyping.Operand
import TensorTyping.Proofs.Rounding

/-!
# Magnitudes and exact arithmetic

A magnitude is valid as long as the exact result fits its width. For the quotient rounded up this is
less plain than for the other operations: it is put together from three of them, and none of the
three can leave the width on the way.

* `Magnitude.value_divCeil_eq_some` — when a quotient rounded up is valid, and which one it is.
* `Magnitude.value_sum` — when the sum of a list is valid, and which one it is.
-/

namespace TensorTyping.Magnitude

variable {w : Width} {a b : Magnitude w}

theorem lt_limit_dimension {n : ℕ} : n < Width.dimension.limit ↔ n ≤ Dim.largest.toNat :=
  Nat.lt_succ_iff

@[simp] theorem value_one : (1 : Magnitude w).value = some 1 := by
  cases w <;> rfl

theorem mul_comm (a b : Magnitude w) : a * b = b * a := by
  refine Magnitude.ext (Option.ext fun r => ?_)
  rw [value_mul_eq_some, value_mul_eq_some]
  constructor
  · rintro ⟨m, n, ha, hb, hr, hlt⟩
    exact ⟨n, m, hb, ha, (Nat.mul_comm n m).trans hr, hlt⟩
  · rintro ⟨m, n, hb, ha, hr, hlt⟩
    exact ⟨n, m, ha, hb, (Nat.mul_comm n m).trans hr, hlt⟩

theorem value_add_ofDim {a : Magnitude .dimension} {d : Dim} {r : ℕ} :
    (a + ofDim d).value = some r ↔
      ∃ m, a.value = some m ∧ m + d.toNat = r ∧ r ≤ Dim.largest.toNat := by
  rw [value_add_eq_some]
  constructor
  · rintro ⟨m, n, ha, hd, hr, hlt⟩
    cases hd
    exact ⟨m, ha, hr, lt_limit_dimension.mp hlt⟩
  · rintro ⟨m, ha, hr, hle⟩
    exact ⟨m, _, ha, rfl, hr, lt_limit_dimension.mpr hle⟩

/-- A difference is valid when it was obtained from a valid magnitude that covers it. -/
theorem value_sub_ofDim {a : Magnitude .dimension} {d : Dim} {r : ℕ} :
    (a - ofDim d).value = some r ↔ a.value = some (r + d.toNat) := by
  rw [value_sub_eq_some]
  constructor
  · rintro ⟨m, n, ha, hd, hle, rfl⟩
    cases hd
    rw [ha, Nat.sub_add_cancel hle]
  · intro ha
    exact ⟨_, _, ha, rfl, Nat.le_add_left _ _, Nat.add_sub_cancel _ _⟩

/-- The remainder that decides which way a quotient is rounded is always valid. -/
theorem value_sub_div_mul {m n : ℕ} (ha : a.value = some m) (hb : b.value = some n) (hn : n ≠ 0) :
    (a - a / b * b).value = some (m % n) := by
  have hquot : (a / b).value = some (m / n) := value_div_eq_some.mpr ⟨m, n, ha, hb, hn, rfl⟩
  have hle := Nat.div_mul_le_self m n
  have hprod : (a / b * b).value = some (m / n * n) :=
    value_mul_eq_some.mpr ⟨_, _, hquot, hb, rfl, lt_of_le_of_lt hle (a.fits m ha)⟩
  refine value_sub_eq_some.mpr ⟨_, _, ha, hprod, hle, ?_⟩
  rw [Nat.mod_eq_sub_div_mul]

/-- Where a remainder is left, the quotient has room for one more. -/
theorem value_div_add_one {m n : ℕ} (ha : a.value = some m) (hb : b.value = some n) (hn : n ≠ 0)
    (hrest : m % n ≠ 0) : (a / b + 1).value = some (m / n + 1) := by
  have hquot : (a / b).value = some (m / n) := value_div_eq_some.mpr ⟨m, n, ha, hb, hn, rfl⟩
  have hone : n ≠ 1 := by
    rintro rfl
    exact hrest (Nat.mod_one m)
  have hpos : 0 < m := by
    rcases Nat.eq_zero_or_pos m with rfl | hpos
    · exact absurd (Nat.zero_mod n) hrest
    · exact hpos
  have hlt : m / n < m := Nat.div_lt_self hpos (by omega)
  exact value_add_eq_some.mpr ⟨_, 1, hquot, value_one, rfl, lt_of_le_of_lt hlt (a.fits m ha)⟩

theorem value_divCeil {m n : ℕ} (ha : a.value = some m) (hb : b.value = some n) (hn : n ≠ 0) :
    (divCeil a b).value = some (m ⌈/⌉ n) := by
  have hquot : (a / b).value = some (m / n) := value_div_eq_some.mpr ⟨m, n, ha, hb, hn, rfl⟩
  unfold divCeil
  dsimp only
  rw [value_sub_div_mul ha hb hn]
  by_cases hdvd : n ∣ m
  · rw [Nat.mod_eq_zero_of_dvd hdvd, ceilDiv_of_dvd (Nat.pos_of_ne_zero hn) hdvd]
    exact hquot
  · have hrest : m % n ≠ 0 := fun h => hdvd (Nat.dvd_of_mod_eq_zero h)
    have hmore := value_div_add_one ha hb hn hrest
    obtain ⟨k, hk⟩ := Nat.exists_eq_succ_of_ne_zero hrest
    rw [hk, ceilDiv_of_not_dvd (Nat.pos_of_ne_zero hn) hdvd]
    exact hmore

/-- A quotient rounded up is valid for valid sides and a divisor other than zero. -/
theorem value_divCeil_eq_some {r : ℕ} :
    (divCeil a b).value = some r ↔
      ∃ m n, a.value = some m ∧ b.value = some n ∧ n ≠ 0 ∧ m ⌈/⌉ n = r := by
  constructor
  · intro h
    obtain ⟨rest, hrest⟩ : ∃ rest, (a - a / b * b).value = some rest := by
      unfold divCeil at h
      dsimp only at h
      cases hrest : (a - a / b * b).value with
      | none => rw [hrest] at h; cases h
      | some rest => exact ⟨rest, rfl⟩
    obtain ⟨_, _, -, hprod, -, -⟩ := value_sub_eq_some.mp hrest
    obtain ⟨_, _, hquot, -, -, -⟩ := value_mul_eq_some.mp hprod
    obtain ⟨m, n, ha, hb, hn, -⟩ := value_div_eq_some.mp hquot
    rw [value_divCeil ha hb hn] at h
    exact ⟨m, n, ha, hb, hn, Option.some.inj h⟩
  · rintro ⟨m, n, ha, hb, hn, rfl⟩
    exact value_divCeil ha hb hn

/-! ## Sums -/

theorem value_foldl_add {a : Magnitude .dimension} {dims : List Dim} {n : ℕ} :
    (dims.foldl (fun acc d => acc + ofDim d) a).value = some n ↔
      ∃ m, a.value = some m ∧ n = m + (dims.map UInt32.toNat).sum ∧ n ≤ Dim.largest.toNat := by
  induction dims generalizing a with
  | nil =>
    simp only [List.foldl_nil, List.map_nil, List.sum_nil, Nat.add_zero]
    constructor
    · intro ha
      exact ⟨n, ha, rfl, lt_limit_dimension.mp (a.fits n ha)⟩
    · rintro ⟨m, ha, rfl, -⟩
      exact ha
  | cons d dims ih =>
    rw [List.foldl_cons, ih]
    simp only [value_add_ofDim, List.map_cons, List.sum_cons]
    constructor
    · rintro ⟨_, ⟨m, ha, rfl, -⟩, rfl, hle⟩
      exact ⟨m, ha, Nat.add_assoc _ _ _, hle⟩
    · rintro ⟨m, ha, rfl, hle⟩
      exact ⟨_, ⟨m, ha, rfl, by omega⟩, (Nat.add_assoc _ _ _).symm, hle⟩

/-- A sum is valid when the exact total is a dimension, in whatever order it is taken. -/
theorem value_sum {dims : List Dim} {n : ℕ} :
    (sum dims).value = some n ↔
      n = (dims.map UInt32.toNat).sum ∧ n ≤ Dim.largest.toNat := by
  have hzero : (0 : Magnitude .dimension).value = some 0 := rfl
  unfold sum
  rw [value_foldl_add]
  simp [hzero]

end TensorTyping.Magnitude
