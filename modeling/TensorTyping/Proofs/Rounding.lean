import Mathlib
import TensorTyping.Number.Double

/-!
# How far a rounding moves a number

Sizes are computed in doubles and then rounded to an integer, so what matters is how far the
roundings on the way can carry a number across an integer. Three facts about `Rounding.toBits` are
enough for that: it moves a number by at most one part in `2 ^ p`, it leaves numbers of at most `p`
bits alone, and it does not lead below such a number.

* `Rounding.HasBits` — numbers of at most `p` significant bits; naturals and products.
* `Rounding.abs_toBits_sub_le`, `Rounding.toBits_of_hasBits`, `Rounding.le_toBits_of_hasBits` —
  these three facts.
* `Double.floor_le_floor_round`, `Double.floor_round_le` — a rounded number lies below the next
  integer but one.
* `Double.floor_add_div_one`, `Double.ceil_add_div_one` — a rounded quotient plus 1 has the integer
  neighbours of the exact one, as long as the numerator stays far below `2 ^ 53`.
-/

namespace TensorTyping

/-! ## Quotients rounded up -/

theorem ceilDiv_of_dvd {m n : ℕ} (hn : 0 < n) (h : n ∣ m) : m ⌈/⌉ n = m / n := by
  obtain ⟨k, rfl⟩ := h
  rw [← smul_eq_mul, smul_ceilDiv hn, smul_eq_mul, Nat.mul_div_cancel_left k hn]

theorem ceilDiv_of_not_dvd {m n : ℕ} (hn : 0 < n) (h : ¬ n ∣ m) : m ⌈/⌉ n = m / n + 1 := by
  have hrest : 0 < m % n := Nat.pos_of_ne_zero fun h0 => h (Nat.dvd_of_mod_eq_zero h0)
  have hlt := Nat.mod_lt m hn
  have hsplit := Nat.div_add_mod' m n
  rw [Nat.ceilDiv_eq_add_pred_div, Nat.div_eq_iff hn, add_mul]
  omega

namespace Rounding

theorem floor_eq (x : ℚ) : x.floor = ⌊x⌋ := rfl

theorem ceil_eq (x : ℚ) : x.ceil = ⌈x⌉ := by
  show x.ceil = -⌊-x⌋
  rw [Rat.ceil_eq_neg_floor_neg, floor_eq]

/-! ## Rounding to an integer -/

theorem nearestEven_intCast (k : ℤ) : nearestEven k = k := by
  unfold nearestEven
  rw [floor_eq, Int.floor_intCast]
  dsimp only
  rw [sub_self, if_pos (by norm_num)]

/-- The nearest integer is at most a half away. -/
theorem abs_nearestEven_sub_le (x : ℚ) : |(nearestEven x : ℚ) - x| ≤ 1 / 2 := by
  have hlo := Int.floor_le x
  have hhi := Int.lt_floor_add_one x
  unfold nearestEven
  rw [floor_eq]
  dsimp only
  rw [abs_le]
  split_ifs with hbelow habove heven
  · constructor <;> linarith
  · push_cast
    constructor <;> linarith
  · constructor <;> linarith
  · push_cast
    constructor <;> linarith

theorem floor_le_nearestEven (x : ℚ) : ⌊x⌋ ≤ nearestEven x := by
  unfold nearestEven
  rw [floor_eq]
  dsimp only
  split_ifs <;> omega

/-! ## The binade of a number -/

/-- The binade of a positive number is the power of two at or below it. -/
theorem binade_spec {x : ℚ} (hx : 0 < x) :
    (2 : ℚ) ^ binade x ≤ x ∧ x < (2 : ℚ) ^ (binade x + 1) := by
  have hnum : x.num.natAbs ≠ 0 := by
    have := Rat.num_pos.mpr hx
    omega
  have hquot : x = (x.num.natAbs : ℚ) / (x.den : ℚ) := by
    rw [Nat.cast_natAbs, abs_of_pos (Rat.num_pos.mpr hx), Rat.num_div_den]
  -- numerator and denominator each lie in the binade of their bit length
  have hn₁ : (2 : ℚ) ^ x.num.natAbs.log2 ≤ x.num.natAbs := by
    exact_mod_cast Nat.log2_self_le hnum
  have hn₂ : (x.num.natAbs : ℚ) < 2 ^ (x.num.natAbs.log2 + 1) := by
    exact_mod_cast Nat.lt_log2_self
  have hd₁ : (2 : ℚ) ^ x.den.log2 ≤ x.den := by
    exact_mod_cast Nat.log2_self_le x.den_ne_zero
  have hd₂ : (x.den : ℚ) < 2 ^ (x.den.log2 + 1) := by
    exact_mod_cast Nat.lt_log2_self
  have hden : (0 : ℚ) < x.den := by exact_mod_cast x.den_pos
  set n := x.num.natAbs.log2
  set d := x.den.log2
  have hupper : x < (2 : ℚ) ^ ((n : ℤ) - d + 1) := by
    rw [show (n : ℤ) - d + 1 = (n + 1 : ℕ) - (d : ℕ) by push_cast; ring,
      zpow_sub₀ two_ne_zero, zpow_natCast, zpow_natCast, hquot]
    gcongr
  have hlower : (2 : ℚ) ^ ((n : ℤ) - d - 1) ≤ x := by
    rw [show (n : ℤ) - d - 1 = (n : ℕ) - (d + 1 : ℕ) by push_cast; ring,
      zpow_sub₀ two_ne_zero, zpow_natCast, zpow_natCast, hquot]
    gcongr
  unfold binade
  dsimp only
  split_ifs with h
  · exact ⟨h, hupper⟩
  · rw [sub_add_cancel]
    exact ⟨hlower, lt_of_not_ge h⟩

/-! ## Rounding to a number of bits -/

/-- The nearest multiple of a unit is at most half a unit away. -/
theorem abs_toUnit_sub_le (e : ℤ) (x : ℚ) : |toUnit e x - x| ≤ 2 ^ e / 2 := by
  have hpos : (0 : ℚ) < 2 ^ e := zpow_pos two_pos e
  have hscale : toUnit e x - x = (nearestEven (x / 2 ^ e) - x / 2 ^ e) * 2 ^ e := by
    unfold toUnit
    rw [sub_mul, div_mul_cancel₀ _ hpos.ne']
  calc |toUnit e x - x|
      = |(nearestEven (x / 2 ^ e) : ℚ) - x / 2 ^ e| * 2 ^ e := by
        rw [hscale, abs_mul, abs_of_pos hpos]
    _ ≤ 1 / 2 * 2 ^ e := by
        gcongr
        exact abs_nearestEven_sub_le _
    _ = 2 ^ e / 2 := by ring

/-- Rounding to `p` bits moves a number by at most one part in `2 ^ p`. -/
theorem abs_toBits_sub_le (p : ℕ) {x : ℚ} (hx : 0 ≤ x) : |toBits p x - x| ≤ x / 2 ^ p := by
  unfold toBits
  split_ifs with hzero
  · rw [hzero]
    simp
  · have hbelow := (binade_spec (lt_of_le_of_ne hx (Ne.symm hzero))).1
    calc |toUnit (binade x - p + 1) x - x|
        ≤ 2 ^ (binade x - p + 1) / 2 := abs_toUnit_sub_le _ x
      _ = 2 ^ binade x / 2 ^ p := by
          rw [zpow_add₀ two_ne_zero, zpow_sub₀ two_ne_zero, zpow_natCast]
          ring
      _ ≤ x / 2 ^ p := by gcongr

/-! ## Numbers of few bits -/

/-- The number has at most `p` significant bits. -/
def HasBits (p : ℕ) (x : ℚ) : Prop :=
  ∃ (k : ℕ) (e : ℤ), k < 2 ^ p ∧ x = k * 2 ^ e

variable {p q : ℕ} {x y : ℚ}

theorem HasBits.natCast {n : ℕ} (hn : n < 2 ^ p) : HasBits p n :=
  ⟨n, 0, hn, by simp⟩

/-- A product has at most the bits of both factors together. -/
theorem HasBits.mul (hx : HasBits p x) (hy : HasBits q y) : HasBits (p + q) (x * y) := by
  obtain ⟨k, e, hk, rfl⟩ := hx
  obtain ⟨l, f, hl, rfl⟩ := hy
  refine ⟨k * l, e + f, ?_, ?_⟩
  · rw [pow_add]
    exact Nat.mul_lt_mul'' hk hl
  · rw [zpow_add₀ two_ne_zero, Nat.cast_mul]
    ring

/-- Whole numbers of a larger unit are whole numbers of a smaller one. -/
theorem exists_mul_unit {e f : ℤ} (h : e ≤ f) (k : ℕ) :
    ∃ j : ℕ, (k : ℚ) * 2 ^ f = (j : ℤ) * 2 ^ e := by
  obtain ⟨d, rfl⟩ := Int.le.dest h
  refine ⟨k * 2 ^ d, ?_⟩
  rw [zpow_add₀ two_ne_zero, zpow_natCast]
  push_cast
  ring

theorem toUnit_mul_unit (e j : ℤ) : toUnit e (j * 2 ^ e) = j * 2 ^ e := by
  have hunit : (2 : ℚ) ^ e ≠ 0 := (zpow_pos two_pos e).ne'
  unfold toUnit
  rw [mul_div_cancel_right₀ _ hunit, nearestEven_intCast]

/-- Rounding to a unit does not go below a whole number of units. -/
theorem mul_unit_le_toUnit {e j : ℤ} (h : (j : ℚ) * 2 ^ e ≤ x) : j * 2 ^ e ≤ toUnit e x := by
  have hunit : (0 : ℚ) < 2 ^ e := zpow_pos two_pos e
  have hj : j ≤ nearestEven (x / 2 ^ e) :=
    le_trans (Int.le_floor.mpr ((le_div_iff₀ hunit).mpr h)) (floor_le_nearestEven _)
  exact mul_le_mul_of_nonneg_right (Int.cast_le.mpr hj) hunit.le

/-- A number of at most `p` bits is its own rounding. -/
theorem toBits_of_hasBits (h : HasBits p x) : toBits p x = x := by
  unfold toBits
  split_ifs with hzero
  · exact hzero.symm
  · obtain ⟨k, e, hk, rfl⟩ := h
    have hpos : (0 : ℚ) < k * 2 ^ e := lt_of_le_of_ne (by positivity) (Ne.symm hzero)
    -- the unit of the rounding is no larger than the one in which `k` counts
    have hlt : (2 : ℚ) ^ binade (k * 2 ^ e) < 2 ^ (p + e) := by
      refine lt_of_le_of_lt (binade_spec hpos).1 ?_
      rw [zpow_add₀ two_ne_zero, zpow_natCast]
      gcongr
      exact_mod_cast hk
    have hbinade := (zpow_lt_zpow_iff_right₀ one_lt_two).mp hlt
    obtain ⟨j, hj⟩ := exists_mul_unit (by omega : binade (k * 2 ^ e) - p + 1 ≤ e) k
    generalize binade (k * 2 ^ e) - p + 1 = unit at hj ⊢
    rw [hj]
    exact toUnit_mul_unit unit j

/-- Rounding to `p` bits does not go below a number of at most `p` bits. -/
theorem le_toBits_of_hasBits (hp : 0 < p) (h : HasBits p y) (hle : y ≤ x) : y ≤ toBits p x := by
  obtain ⟨k, e, hk, rfl⟩ := h
  unfold toBits
  split_ifs with hzero
  · rwa [hzero] at hle
  · have hpos : 0 < x := lt_of_le_of_ne (le_trans (by positivity) hle) (Ne.symm hzero)
    by_cases hunit : binade x - p + 1 ≤ e
    · obtain ⟨j, hj⟩ := exists_mul_unit hunit k
      rw [hj] at hle ⊢
      exact mul_unit_le_toUnit hle
    · -- then it lies below the binade of `x`, which is a whole number of units
      have hbelow : (k : ℚ) * 2 ^ e ≤ 2 ^ binade x := by
        calc (k : ℚ) * 2 ^ e
            ≤ 2 ^ p * 2 ^ e := by
              gcongr
              exact_mod_cast hk.le
          _ = 2 ^ (p + e : ℤ) := by rw [zpow_add₀ two_ne_zero, zpow_natCast]
          _ ≤ 2 ^ binade x := zpow_le_zpow_right₀ one_le_two (by omega)
      obtain ⟨j, hj⟩ := exists_mul_unit (by omega : binade x - p + 1 ≤ binade x) 1
      rw [Nat.cast_one, one_mul] at hj
      have hbinade := (binade_spec hpos).1
      rw [hj] at hbelow hbinade
      exact le_trans hbelow (mul_unit_le_toUnit hbinade)

/-- A natural number of at most `p` bits is its own rounding. -/
theorem toBits_natCast {n : ℕ} (hn : n < 2 ^ p) : toBits p n = n :=
  toBits_of_hasBits (.natCast hn)

end Rounding

namespace Double

open Rounding (HasBits)

theorem round_natCast {n : ℕ} (hn : n < 2 ^ 53) : round n = n :=
  Rounding.toBits_natCast hn

theorem abs_round_sub_le {x : ℚ} (hx : 0 ≤ x) : |round x - x| ≤ x / 2 ^ 53 :=
  Rounding.abs_toBits_sub_le 53 hx

theorem round_of_hasBits {x : ℚ} (h : HasBits 53 x) : round x = x :=
  Rounding.toBits_of_hasBits h

/-- A rounding does not lead below an integer that doubles can tell from its neighbours. -/
theorem floor_le_floor_round {x : ℚ} (hx : 0 ≤ x) (hlt : x < 2 ^ 53) : ⌊x⌋ ≤ ⌊round x⌋ := by
  obtain ⟨n, hn⟩ := Int.eq_ofNat_of_zero_le (Int.floor_nonneg.mpr hx)
  have hle : (n : ℚ) ≤ x := by
    have := Int.floor_le x
    rwa [hn] at this
  have hbits : HasBits 53 n := .natCast (by exact_mod_cast lt_of_le_of_lt hle hlt)
  rw [hn, Int.le_floor]
  exact Rounding.le_toBits_of_hasBits (by decide) hbits hle

/-- Nor does it lead beyond the next integer. -/
theorem floor_round_le {x : ℚ} (hx : 0 ≤ x) (hlt : x < 2 ^ 53) : ⌊round x⌋ ≤ ⌊x⌋ + 1 := by
  have hmove := abs_le.mp (abs_round_sub_le hx)
  have hsmall : x / 2 ^ 53 < 1 := (div_lt_one (by positivity)).mpr hlt
  have hnext := Int.lt_floor_add_one x
  have hround : round x < ⌊x⌋ + 2 := by linarith
  have : ⌊round x⌋ < ⌊x⌋ + 2 := Int.floor_lt.mpr (by push_cast; exact hround)
  omega

theorem add_natCast {m n : ℕ} (h : m + n < 2 ^ 53) : add m n = (m + n : ℕ) := by
  unfold add
  rw [← Nat.cast_add, round_natCast h]

theorem sub_natCast {m n : ℕ} (hle : n ≤ m) (hm : m < 2 ^ 53) : sub m n = (m - n : ℕ) := by
  unfold sub
  rw [← Nat.cast_sub hle, round_natCast (by omega)]

/-! ## Quotients between two integers -/

/-- A number that is nearer to `n / s` than one part in `s` lies between the same two integers as
`n / s`, when that is not itself an integer. -/
theorem floor_ceil_of_near {v : ℚ} {n s : ℕ} (hs : 0 < s) (hdvd : ¬ s ∣ n)
    (hnear : |v - n / s| < 1 / s) : ⌊v⌋ = (n / s : ℕ) ∧ ⌈v⌉ = (n / s : ℕ) + 1 := by
  have hs' : (0 : ℚ) < s := by exact_mod_cast hs
  have hrest : 0 < n % s := Nat.pos_of_ne_zero fun h => hdvd (Nat.dvd_of_mod_eq_zero h)
  have hsplit := Nat.div_add_mod' n s
  have hlo : ((n / s : ℕ) : ℚ) + 1 / s ≤ n / s := by
    rw [le_div_iff₀ hs', add_mul, one_div_mul_cancel hs'.ne']
    exact_mod_cast (by omega : n / s * s + 1 ≤ n)
  have hhi : (n : ℚ) / s + 1 / s ≤ (n / s : ℕ) + 1 := by
    rw [← add_div, div_le_iff₀ hs', add_mul, one_mul]
    have := Nat.mod_lt n hs
    exact_mod_cast (by omega : n + 1 ≤ n / s * s + s)
  obtain ⟨hleft, hright⟩ := abs_lt.mp hnear
  constructor
  · rw [Int.floor_eq_iff, Int.cast_natCast]
    constructor <;> linarith
  · rw [Int.ceil_eq_iff, Int.cast_add, Int.cast_natCast, Int.cast_one]
    constructor <;> linarith

/-- Dividing and adding 1 rounds twice, and still stays nearer to the exact result than one part in
the divisor. -/
theorem abs_add_div_one_sub_lt {d s : ℕ} (hs : 0 < s) (hsmall : 3 * d + s < 2 ^ 53) :
    |add (div d s) 1 - ((d + s : ℕ) : ℚ) / s| < 1 / s := by
  have hs' : (0 : ℚ) < s := by exact_mod_cast hs
  have hq : (0 : ℚ) ≤ d / s := by positivity
  -- the first rounding, of the quotient
  have hdiv := abs_le.mp (abs_round_sub_le hq)
  have hr : 0 ≤ round ((d : ℚ) / s) := by linarith
  have hr' : round ((d : ℚ) / s) ≤ 2 * (d / s) := by linarith
  -- the second rounding, of the sum
  have hadd := abs_le.mp (abs_round_sub_le (add_nonneg hr zero_le_one))
  have hexact : ((d + s : ℕ) : ℚ) / s = d / s + 1 := by
    rw [Nat.cast_add, add_div, div_self hs'.ne']
  have hbound : (3 * ((d : ℚ) / s) + 1) / 2 ^ 53 < 1 / s := by
    rw [div_lt_div_iff₀ (by positivity) hs', add_mul, mul_assoc, div_mul_cancel₀ _ hs'.ne',
      one_mul, one_mul]
    exact_mod_cast hsmall
  unfold add div
  rw [hexact, abs_lt]
  constructor <;> linarith

theorem add_div_one_of_dvd {d s : ℕ} (hs : 0 < s) (hsmall : 3 * d + s < 2 ^ 53) (hdvd : s ∣ d) :
    add (div d s) 1 = (d / s + 1 : ℕ) := by
  have hle := Nat.div_le_self d s
  unfold div
  rw [← Nat.cast_div hdvd (by positivity), round_natCast (by omega)]
  exact_mod_cast add_natCast (by omega : d / s + 1 < 2 ^ 53)

/-- A rounded quotient plus 1, rounded down. -/
theorem floor_add_div_one {d s : ℕ} (hs : 0 < s) (hsmall : 3 * d + s < 2 ^ 53) :
    ⌊add (div d s) 1⌋ = (d / s + 1 : ℕ) := by
  by_cases hdvd : s ∣ d
  · rw [add_div_one_of_dvd hs hsmall hdvd, Int.floor_natCast]
  · have hdvd' : ¬ s ∣ d + s := fun h => hdvd ((Nat.dvd_add_left dvd_rfl).mp h)
    rw [(floor_ceil_of_near hs hdvd' (abs_add_div_one_sub_lt hs hsmall)).1,
      Nat.add_div_right d hs]

/-- A rounded quotient plus 1, rounded up. -/
theorem ceil_add_div_one {d s : ℕ} (hs : 0 < s) (hsmall : 3 * d + s < 2 ^ 53) :
    ⌈add (div d s) 1⌉ = (d ⌈/⌉ s + 1 : ℕ) := by
  by_cases hdvd : s ∣ d
  · rw [add_div_one_of_dvd hs hsmall hdvd, Int.ceil_natCast, ceilDiv_of_dvd hs hdvd]
  · have hdvd' : ¬ s ∣ d + s := fun h => hdvd ((Nat.dvd_add_left dvd_rfl).mp h)
    rw [(floor_ceil_of_near hs hdvd' (abs_add_div_one_sub_lt hs hsmall)).2,
      Nat.add_div_right d hs, ceilDiv_of_not_dvd hs hdvd]
    rfl

end Double

end TensorTyping
