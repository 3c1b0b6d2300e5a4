import Mathlib
import TensorTyping.Window
import TensorTyping.Proofs.Inference
import TensorTyping.Proofs.Magnitude
import TensorTyping.Proofs.Rounding

/-!
# Window positions, counted exactly

`Window.positions` divides doubles. This module counts the same positions in natural numbers: a
position is a multiple of the stride at which the whole window still lies on the axis.

* `Window.span`, `Window.padded` — window and axis, in cells, without a limit.
* `Window.placements` — the positions on an axis; `Window.ncard_placements` counts them.
* `Window.reach` — the cells under the first `n` positions; `Window.le_ncard_placements_iff` says
  that `n` positions fit exactly on the axes of at least that length.
* `Window.positions_eq_ok`, `Window.floor_ratio`, `Window.ceil_ratio` — when the computation in
  doubles succeeds, and that its result, rounded down or up, is the exact count.
* `Window.Fits.of_reach` — an axis that ends within a stride of the `n`th position has `n` of them.
-/

namespace TensorTyping

namespace Window

variable {w : Window} {p : AxisPadding} {cells n : ℕ}

/-- The cells from the first to the last one of a window. -/
def span (w : Window) : ℕ :=
  (w.size.toNat - 1) * w.dilation.toNat + 1

/-- The cells of the axis with its padding. -/
def padded (w : Window) (p : AxisPadding) : ℕ :=
  w.input.toNat + p.beginning.toNat + p.ending.toNat

/-- The positions of the window on an axis of so many cells, as multiples of the stride. -/
def placements (w : Window) (cells : ℕ) : Set ℕ :=
  {i | i * w.stride.toNat + w.span ≤ cells}

/-- The cells from the start of an axis to the end of the `n`th position of the window. -/
def reach (w : Window) (n : ℕ) : ℕ :=
  (n - 1) * w.stride.toNat + w.span

theorem span_pos (w : Window) : 0 < w.span :=
  Nat.succ_pos _

/-- The effective size is the span of a window that has a cell, when that is a dimension. -/
theorem effective_eq_some :
    w.effective.value = some n ↔
      1 ≤ w.size.toNat ∧ w.span ≤ Dim.largest.toNat ∧ n = w.span := by
  unfold effective
  simp only [Magnitude.value_add_eq_some, Magnitude.value_mul_eq_some,
    Magnitude.value_sub_eq_some, Magnitude.value_ofDim, Magnitude.value_one, Option.some.injEq,
    Magnitude.lt_limit_dimension]
  constructor
  · rintro ⟨_, _, ⟨_, _, ⟨_, _, rfl, rfl, hsize, rfl⟩, rfl, rfl, -⟩, rfl, rfl, hspan⟩
    exact ⟨hsize, hspan, rfl⟩
  · rintro ⟨hsize, hspan, rfl⟩
    exact ⟨_, _, ⟨_, _, ⟨_, _, rfl, rfl, hsize, rfl⟩, rfl, rfl, by unfold span at hspan; omega⟩,
      rfl, rfl, hspan⟩

/-- The cells to the end of the `m`th position can be counted when there is one, the window has a
cell, and their number is a dimension. -/
theorem reach_eq_some {a : Magnitude .dimension} {m : ℕ} (ha : a.value = some m) :
    ((a - 1) * .ofDim w.stride + w.effective).value = some n ↔
      1 ≤ m ∧ 1 ≤ w.size.toNat ∧ w.reach m ≤ Dim.largest.toNat ∧ n = w.reach m := by
  simp only [Magnitude.value_add_eq_some, Magnitude.value_mul_eq_some,
    Magnitude.value_sub_eq_some, ha, Magnitude.value_ofDim, Magnitude.value_one,
    effective_eq_some, Option.some.injEq, Magnitude.lt_limit_dimension]
  constructor
  · rintro ⟨_, _, ⟨_, _, ⟨_, _, rfl, rfl, hm, rfl⟩, rfl, rfl, -⟩, ⟨hsize, -, rfl⟩, rfl, hreach⟩
    exact ⟨hm, hsize, hreach, rfl⟩
  · rintro ⟨hm, hsize, hreach, rfl⟩
    unfold reach at hreach ⊢
    exact ⟨_, _, ⟨_, _, ⟨_, _, rfl, rfl, hm, rfl⟩, rfl, rfl, by omega⟩,
      ⟨hsize, by omega, rfl⟩, rfl, hreach⟩

/-! ## Counting positions -/

/-- The positions on an axis with room for the window are an initial segment. -/
theorem placements_eq_range (hs : 0 < w.stride.toNat) (h : w.span ≤ cells) :
    w.placements cells = Finset.range ((cells - w.span) / w.stride.toNat + 1) := by
  ext i
  rw [Finset.coe_range, Set.mem_Iio, Nat.lt_succ_iff, Nat.le_div_iff_mul_le hs]
  show i * w.stride.toNat + w.span ≤ cells ↔ _
  omega

theorem ncard_placements (hs : 0 < w.stride.toNat) (h : w.span ≤ cells) :
    (w.placements cells).ncard = (cells - w.span) / w.stride.toNat + 1 := by
  rw [placements_eq_range hs h, Set.ncard_coe_finset, Finset.card_range]

/-- There are `n` positions exactly on the axes that reach to the end of the `n`th one. -/
theorem le_ncard_placements_iff (hs : 0 < w.stride.toNat) (hn : 1 ≤ n) :
    n ≤ (w.placements cells).ncard ↔ w.reach n ≤ cells := by
  unfold reach
  by_cases h : w.span ≤ cells
  · have hstep : n ≤ (cells - w.span) / w.stride.toNat + 1 ↔
        n - 1 ≤ (cells - w.span) / w.stride.toNat := by omega
    rw [ncard_placements hs h, hstep, Nat.le_div_iff_mul_le hs]
    omega
  · have hnone : w.placements cells = ∅ := by
      refine Set.eq_empty_of_forall_notMem fun i hi => h ?_
      exact le_trans (Nat.le_add_left _ _) hi
    rw [hnone, Set.ncard_empty]
    omega

/-! ## The computation in doubles -/

/-- What the window, its stride and the padded axis have to satisfy so that the positions can be
counted in dimensions. -/
structure Fits (w : Window) (p : AxisPadding) : Prop where
  /-- The window has a cell. -/
  nonempty : 1 ≤ w.size.toNat
  /-- The span of the window is a dimension. -/
  spanBound : w.span ≤ Dim.largest.toNat
  /-- The axis has room for the window. -/
  room : w.span ≤ w.padded p
  /-- The positions, rounded up, are a dimension. -/
  countBound : w.padded p - w.span ≤ (Dim.largest.toNat - 1) * w.stride.toNat

/-- A count that is not too large is a dimension, rounded either way. -/
theorem counts_le_largest (hs : 0 < w.stride.toNat)
    (h : w.padded p - w.span ≤ (Dim.largest.toNat - 1) * w.stride.toNat) :
    (w.padded p - w.span) / w.stride.toNat + 1 ≤ Dim.largest.toNat ∧
      (w.padded p - w.span) ⌈/⌉ w.stride.toNat + 1 ≤ Dim.largest.toNat := by
  have hpos : 1 ≤ Dim.largest.toNat := by decide
  rw [Nat.mul_comm] at h
  have hfloor := Nat.div_le_of_le_mul h
  have hceil := (ceilDiv_le_iff_le_mul hs).mpr h
  omega

theorem Fits.ncard_le (h : w.Fits p) (hs : 0 < w.stride.toNat) :
    (w.placements (w.padded p)).ncard ≤ Dim.largest.toNat := by
  rw [ncard_placements hs h.room]
  exact (counts_le_largest hs h.countBound).1

/-- The double that `Window.positions` computes. -/
def ratio (w : Window) (p : AxisPadding) : ℚ :=
  Double.add (Double.div (w.padded p - w.span : ℕ) w.stride.toNat) 1

theorem padded_le (w : Window) (p : AxisPadding) : w.padded p ≤ 3 * Dim.largest.toNat := by
  have hi := w.input.le_largest
  have hb := p.beginning.le_largest
  have he := p.ending.le_largest
  unfold padded
  omega

/-- Sizes of axes are far below the integers that doubles cannot tell apart. -/
theorem ratio_small (w : Window) (p : AxisPadding) :
    3 * (w.padded p - w.span) + w.stride.toNat < 2 ^ 53 := by
  have hp := w.padded_le p
  have hs := w.stride.le_largest
  have hU : Dim.largest.toNat = 4294967295 := rfl
  omega

theorem floor_ratio (hs : 0 < w.stride.toNat) :
    ⌊w.ratio p⌋ = ((w.padded p - w.span) / w.stride.toNat + 1 : ℕ) :=
  Double.floor_add_div_one hs (w.ratio_small p)

theorem ceil_ratio (hs : 0 < w.stride.toNat) :
    ⌈w.ratio p⌉ = ((w.padded p - w.span) ⌈/⌉ w.stride.toNat + 1 : ℕ) :=
  Double.ceil_add_div_one hs (w.ratio_small p)

theorem ratio_le_largest_iff (hs : 0 < w.stride.toNat) :
    w.ratio p ≤ Dim.largest.toNat ↔
      w.padded p - w.span ≤ (Dim.largest.toNat - 1) * w.stride.toNat := by
  rw [← Int.cast_natCast, ← Int.ceil_le, ceil_ratio hs, Int.ofNat_le,
    ← Nat.le_sub_iff_add_le (by decide), ceilDiv_le_iff_le_mul hs, Nat.mul_comm]

/-- The roundings on the way leave the padded size exact. -/
theorem add_padding (w : Window) (p : AxisPadding) :
    Double.add (Double.add w.input.toNat p.beginning.toNat) p.ending.toNat = w.padded p := by
  have hi := w.input.le_largest
  have hb := p.beginning.le_largest
  have he := p.ending.le_largest
  have hU : Dim.largest.toNat = 4294967295 := rfl
  rw [Double.add_natCast (by omega), Double.add_natCast (by omega)]
  rfl

/-- So is what the window leaves of it. -/
theorem sub_span (hroom : w.span ≤ w.padded p) :
    Double.sub (w.padded p) w.span = (w.padded p - w.span : ℕ) := by
  have hp := w.padded_le p
  have hU : Dim.largest.toNat = 4294967295 := rfl
  exact Double.sub_natCast hroom (by omega)

/-- The positions are computed exactly for the windows that fit. -/
theorem positions_eq_ok {operator : String} {v : ℚ} (hs : 0 < w.stride.toNat) :
    w.positions operator p = .ok v ↔ w.Fits p ∧ v = w.ratio p := by
  unfold positions
  simp only [add_padding, Infer.bind_eq_ok, Magnitude.dimOrOverflow_eq_ok, effective_eq_some,
    require_eq_ok, Infer.pure_eq_ok]
  constructor
  · rintro ⟨effective, ⟨hsize, hspan, heff⟩, _, hroom, _, hbound, rfl⟩
    rw [heff] at hroom hbound ⊢
    rw [Nat.cast_le] at hroom
    rw [sub_span hroom] at hbound ⊢
    exact ⟨⟨hsize, hspan, hroom, (ratio_le_largest_iff hs).mp hbound⟩, rfl⟩
  · rintro ⟨h, rfl⟩
    obtain ⟨effective, heff⟩ := Dim.exists_toNat_eq h.spanBound
    refine ⟨effective, ⟨h.nonempty, h.spanBound, heff⟩, (), ?_, (), ?_, ?_⟩
    · rw [heff]
      exact_mod_cast h.room
    · rw [heff, sub_span h.room]
      exact (ratio_le_largest_iff hs).mpr h.countBound
    · rw [heff, sub_span h.room]
      rfl

/-- On an axis that ends less than a stride after the `n`th position, the window fits and has `n`
positions. -/
theorem Fits.of_reach (hn : 1 ≤ n) (hsize : 1 ≤ w.size.toNat)
    (hreach : w.reach n ≤ Dim.largest.toNat) (hlo : w.reach n ≤ w.padded p)
    (hhi : w.padded p < w.reach n + w.stride.toNat) :
    w.Fits p ∧ (w.padded p - w.span) / w.stride.toNat + 1 = n := by
  have hs : 0 < w.stride.toNat := by omega
  have hspan := w.span_pos
  unfold reach at hreach hlo hhi
  refine ⟨⟨hsize, by omega, by omega, ?_⟩, ?_⟩
  · -- one stride less a cell is at most `largest - 1` times the rest of the stride
    have hrest : w.stride.toNat - 1 ≤ (Dim.largest.toNat - 1) * (w.stride.toNat - 1) :=
      Nat.le_mul_of_pos_left _ (by decide)
    calc w.padded p - w.span
        ≤ (Dim.largest.toNat - 1) + (w.stride.toNat - 1) := by omega
      _ ≤ (Dim.largest.toNat - 1) + (Dim.largest.toNat - 1) * (w.stride.toNat - 1) := by omega
      _ = (Dim.largest.toNat - 1) * w.stride.toNat := by
          have hone : 1 + (w.stride.toNat - 1) = w.stride.toNat := Nat.add_sub_cancel' hs
          rw [← mul_one_add, hone]
  · have hquot : (w.padded p - w.span) / w.stride.toNat = n - 1 := by
      rw [Nat.div_eq_iff hs]
      omega
    omega

end Window

end TensorTyping
