import Mathlib
import TensorTyping.SamePadding
import TensorTyping.Proofs.Convolution

/-!
# Automatic padding is exact

An automatic padding aims at one position for each stride that the input begins. Where the window
is long the padding makes up for it; where the stride skips over a small window there is nothing
to pad, and the axis may even end with unused cells. In both cases the count comes out the same.

* `Window.begun` — the strides that the input begins.
* `AutoPad.Shares` — how a policy shares a total between the two ends.
* `Window.samePadding_eq_ok` — when there is a padding, and which one.
* `Window.samePadding_isLeast`, `Window.samePadding_fits` — no smaller total gives the count, and
  this one gives it exactly.
* `Window.samePadding_exact` — these together, and what they mean for a convolution.
-/

namespace TensorTyping

/-! ## Sharing a total -/

/-- The total is split into halves, and the policy says which end takes the larger one. -/
def AutoPad.Shares (policy : AutoPad) (total : ℕ) (p : AxisPadding) : Prop :=
  match policy with
  | sameUpper => p.beginning.toNat = total / 2 ∧ p.ending.toNat = total - total / 2
  | sameLower => p.beginning.toNat = total - total / 2 ∧ p.ending.toNat = total / 2

/-- The policy that shares the other way round. -/
def AutoPad.mirror : AutoPad → AutoPad
  | sameUpper => sameLower
  | sameLower => sameUpper

namespace AutoPad

variable {policy : AutoPad} {total : ℕ} {p : AxisPadding}

/-- A total is divided into two parts that differ by at most one cell. -/
theorem halves_eq_ok {total : Dim} {k : Dim → Dim → Infer AxisPadding} :
    (do
      let smaller ← Dim.quotient total 2
      let larger ← Dim.minus total smaller
      k smaller larger) = .ok p ↔
      ∃ smaller larger : Dim, smaller.toNat = total.toNat / 2 ∧
        larger.toNat = total.toNat - total.toNat / 2 ∧ k smaller larger = .ok p := by
  have htwo : (2 : Dim).toNat = 2 := rfl
  simp only [Infer.bind_eq_ok, Dim.quotient_eq_ok, Dim.minus_eq_ok, htwo]
  constructor
  · rintro ⟨smaller, ⟨-, hsmaller⟩, larger, ⟨-, hlarger⟩, hk⟩
    exact ⟨smaller, larger, hsmaller, hsmaller ▸ hlarger, hk⟩
  · rintro ⟨smaller, larger, hsmaller, hlarger, hk⟩
    refine ⟨smaller, ⟨by decide, hsmaller⟩, larger, ⟨?_, hsmaller ▸ hlarger⟩, hk⟩
    rw [hsmaller]
    exact Nat.div_le_self _ _

theorem distribute_eq_ok {total : Dim} :
    policy.distribute total = .ok p ↔ policy.Shares total.toNat p := by
  unfold distribute
  rw [halves_eq_ok]
  cases policy with
  | sameUpper =>
    constructor
    · rintro ⟨_, _, hsmaller, hlarger, hp⟩
      cases hp
      exact ⟨hsmaller, hlarger⟩
    · rintro ⟨hbeginning, hending⟩
      exact ⟨p.beginning, p.ending, hbeginning, hending, rfl⟩
  | sameLower =>
    constructor
    · rintro ⟨_, _, hsmaller, hlarger, hp⟩
      cases hp
      exact ⟨hlarger, hsmaller⟩
    · rintro ⟨hbeginning, hending⟩
      exact ⟨p.ending, p.beginning, hending, hbeginning, rfl⟩

theorem Shares.add_eq (h : policy.Shares total p) :
    p.beginning.toNat + p.ending.toNat = total := by
  cases policy <;> obtain ⟨hb, he⟩ := h <;> omega

theorem Shares.mirror (h : policy.Shares total p) :
    policy.mirror.Shares total ⟨p.ending, p.beginning⟩ := by
  cases policy <;> exact ⟨h.2, h.1⟩

theorem exists_shares (policy : AutoPad) (h : total ≤ Dim.largest.toNat) :
    ∃ p, policy.Shares total p := by
  obtain ⟨smaller, hsmaller⟩ := Dim.exists_toNat_eq (le_trans (Nat.div_le_self total 2) h)
  obtain ⟨larger, hlarger⟩ := Dim.exists_toNat_eq (le_trans (Nat.sub_le total (total / 2)) h)
  cases policy with
  | sameUpper => exact ⟨⟨smaller, larger⟩, hsmaller, hlarger⟩
  | sameLower => exact ⟨⟨larger, smaller⟩, hlarger, hsmaller⟩

end AutoPad

namespace Window

variable {w : Window} {policy : AutoPad} {p : AxisPadding}

/-! ## The padding of one axis -/

/-- The strides that the input begins. -/
def begun (w : Window) : ℕ :=
  w.input.toNat ⌈/⌉ w.stride.toNat

theorem input_le_begun_mul (hs : 0 < w.stride.toNat) :
    w.input.toNat ≤ w.begun * w.stride.toNat := by
  rw [Nat.mul_comm]
  exact (ceilDiv_le_iff_le_mul hs).mp le_rfl

theorem one_le_begun_iff (hs : 0 < w.stride.toNat) : 1 ≤ w.begun ↔ 1 ≤ w.input.toNat := by
  have hzero : w.begun ≤ 0 ↔ w.input.toNat ≤ w.stride.toNat * 0 := ceilDiv_le_iff_le_mul hs
  omega

theorem neededInput_eq_some {n : ℕ} (hs : 0 < w.stride.toNat) :
    w.neededInput.value = some n ↔
      1 ≤ w.input.toNat ∧ 1 ≤ w.size.toNat ∧ w.reach w.begun ≤ Dim.largest.toNat ∧
        n = w.reach w.begun := by
  have hbegun := Magnitude.value_divCeil (Magnitude.value_ofDim w.input)
    (Magnitude.value_ofDim w.stride) hs.ne'
  unfold neededInput
  rw [reach_eq_some hbegun, ← one_le_begun_iff hs]
  rfl

/-- There is a padding exactly when the cells under the positions aimed at can be counted, and it
makes up for the cells that the input lacks. -/
theorem samePadding_eq_ok (hs : 0 < w.stride.toNat) :
    (w.samePadding policy).result = .ok p ↔
      1 ≤ w.input.toNat ∧ 1 ≤ w.size.toNat ∧ w.reach w.begun ≤ Dim.largest.toNat ∧
        policy.Shares (w.reach w.begun - w.input.toNat) p := by
  have htotal : ∀ {needed : Dim}, needed.toNat = w.reach w.begun →
      (UInt32.ofNat (needed.toNat - w.input.toNat)).toNat = w.reach w.begun - w.input.toNat := by
    intro needed h
    rw [UInt32.toNat_ofNat_of_lt' (lt_of_le_of_lt (Nat.sub_le _ _) needed.toNat_lt), h]
  unfold samePadding
  simp only [Traced.result_bind, Traced.result_liftM, Traced.result_emit, Traced.result_pure,
    Infer.bind_eq_ok, Magnitude.dimOrOverflow_eq_ok, neededInput_eq_some hs,
    AutoPad.distribute_eq_ok, Except.ok.injEq]
  constructor
  · rintro ⟨needed, ⟨hinput, hsize, hreach, hneeded⟩, _, hshares, _, -, rfl⟩
    rw [htotal hneeded] at hshares
    exact ⟨hinput, hsize, hreach, hshares⟩
  · rintro ⟨hinput, hsize, hreach, hshares⟩
    obtain ⟨needed, hneeded⟩ := Dim.exists_toNat_eq hreach
    refine ⟨needed, ⟨hinput, hsize, hreach, hneeded⟩, p, ?_, (), trivial, rfl⟩
    rw [htotal hneeded]
    exact hshares

/-- However a total is shared, the axis grows by it. -/
theorem padded_of_shares {total : ℕ} (h : policy.Shares total p) :
    w.padded p = w.input.toNat + total := by
  rw [← h.add_eq]
  exact Nat.add_assoc _ _ _

/-- No smaller total gives a position for each stride that the input begins. -/
theorem samePadding_isLeast (hs : 0 < w.stride.toNat) (h : (w.samePadding policy).result = .ok p) :
    IsLeast {t : ℕ | w.begun ≤ (w.placements (w.input.toNat + t)).ncard}
      (p.beginning.toNat + p.ending.toNat) := by
  obtain ⟨hinput, -, -, hshares⟩ := (samePadding_eq_ok hs).mp h
  have hmem : ∀ t, w.begun ≤ (w.placements (w.input.toNat + t)).ncard ↔
      w.reach w.begun ≤ w.input.toNat + t := fun t =>
    le_ncard_placements_iff hs ((one_le_begun_iff hs).mpr hinput)
  rw [hshares.add_eq]
  constructor
  · show w.begun ≤ _
    rw [hmem]
    omega
  · intro t ht
    have := (hmem t).mp ht
    omega

/-- On the padded axis the window fits, and has a position for each stride that the input begins. -/
theorem samePadding_fits (hs : 0 < w.stride.toNat) (h : (w.samePadding policy).result = .ok p) :
    w.Fits p ∧ (w.padded p - w.span) / w.stride.toNat + 1 = w.begun := by
  obtain ⟨hinput, hsize, hreach, hshares⟩ := (samePadding_eq_ok hs).mp h
  have hbegun := (one_le_begun_iff hs).mpr hinput
  have hpadded : w.padded p = _ := padded_of_shares hshares
  refine Fits.of_reach hbegun hsize hreach (by omega) ?_
  -- the axis ends with the last position, or it is the input and ends within the last stride begun
  have hcover := input_le_begun_mul hs
  have hspan := w.span_pos
  have hlast : w.reach w.begun + w.stride.toNat = w.begun * w.stride.toNat + w.span := by
    unfold reach
    rw [Nat.sub_mul, Nat.one_mul]
    have := Nat.le_mul_of_pos_left w.stride.toNat hbegun
    omega
  omega

/-- There is a padding exactly for windows and inputs with a cell, when the cells under the
positions aimed at can be counted. -/
theorem exists_samePadding_iff (policy : AutoPad) (hs : 0 < w.stride.toNat) :
    (∃ p, (w.samePadding policy).result = .ok p) ↔
      1 ≤ w.input.toNat ∧ 1 ≤ w.size.toNat ∧ w.reach w.begun ≤ Dim.largest.toNat := by
  simp only [samePadding_eq_ok hs, exists_and_left]
  refine ⟨fun h => ⟨h.1, h.2.1, h.2.2.1⟩, fun h => ⟨h.1, h.2.1, h.2.2, ?_⟩⟩
  exact policy.exists_shares (le_trans (Nat.sub_le _ _) h.2.2)

theorem positions_samePadding (hs : 0 < w.stride.toNat)
    (h : (w.samePadding policy).result = .ok p) (operator : String) :
    ∃ v, w.positions operator p = .ok v ∧ v.floor = w.begun := by
  obtain ⟨hfits, hcount⟩ := samePadding_fits hs h
  refine ⟨w.ratio p, (positions_eq_ok hs).mpr ⟨hfits, rfl⟩, ?_⟩
  rw [Rounding.floor_eq, floor_ratio hs, hcount]

/-! ## The padding of a transposed axis -/

theorem transposedExcess_eq_some {outputPadding : Dim} {n : ℕ} :
    (w.transposedExcess outputPadding).value = some n ↔
      1 ≤ w.input.toNat ∧ 1 ≤ w.size.toNat ∧
        w.reach w.input.toNat + outputPadding.toNat ≤ Dim.largest.toNat ∧
        w.input.toNat * w.stride.toNat ≤ Dim.largest.toNat ∧
        w.input.toNat * w.stride.toNat ≤ w.reach w.input.toNat + outputPadding.toNat ∧
        n = w.reach w.input.toNat + outputPadding.toNat - w.input.toNat * w.stride.toNat := by
  unfold transposedExcess
  simp only [Magnitude.mul_comm (.ofDim w.stride), Magnitude.value_sub_eq_some,
    Magnitude.value_add_ofDim, reach_eq_some (Magnitude.value_ofDim w.input),
    Magnitude.value_mul_eq_some, Magnitude.value_ofDim, Option.some.injEq,
    Magnitude.lt_limit_dimension]
  constructor
  · rintro ⟨_, _, ⟨_, ⟨hinput, hsize, -, rfl⟩, rfl, hsum⟩, ⟨_, _, rfl, rfl, rfl, hprod⟩, hle, rfl⟩
    exact ⟨hinput, hsize, hsum, hprod, hle, rfl⟩
  · rintro ⟨hinput, hsize, hsum, hprod, hle, rfl⟩
    exact ⟨_, _, ⟨_, ⟨hinput, hsize, by omega, rfl⟩, rfl, hsum⟩, ⟨_, _, rfl, rfl, rfl, hprod⟩, hle,
      rfl⟩

/-- There is a transposed padding exactly when the window, with the padding of the output, covers a
stride for each cell of the input, and it is what the window has too much. -/
theorem transposedSamePadding_eq_ok {outputPadding : Dim} :
    (w.transposedSamePadding policy outputPadding).result = .ok p ↔
      1 ≤ w.input.toNat ∧ 1 ≤ w.size.toNat ∧
        w.reach w.input.toNat + outputPadding.toNat ≤ Dim.largest.toNat ∧
        w.input.toNat * w.stride.toNat ≤ Dim.largest.toNat ∧
        w.input.toNat * w.stride.toNat ≤ w.reach w.input.toNat + outputPadding.toNat ∧
        policy.Shares
          (w.reach w.input.toNat + outputPadding.toNat - w.input.toNat * w.stride.toNat) p := by
  unfold transposedSamePadding
  simp only [Traced.result_bind, Traced.result_liftM, Traced.result_emit, Traced.result_pure,
    Infer.bind_eq_ok, Magnitude.dimOrOverflow_eq_ok, transposedExcess_eq_some,
    AutoPad.distribute_eq_ok, Except.ok.injEq]
  constructor
  · rintro ⟨total, ⟨hinput, hsize, hsum, hprod, hle, htotal⟩, _, hshares, _, -, rfl⟩
    rw [htotal] at hshares
    exact ⟨hinput, hsize, hsum, hprod, hle, hshares⟩
  · rintro ⟨hinput, hsize, hsum, hprod, hle, hshares⟩
    obtain ⟨total, htotal⟩ := Dim.exists_toNat_eq (le_trans (Nat.sub_le _ _) hsum)
    refine ⟨total, ⟨hinput, hsize, hsum, hprod, hle, htotal⟩, p, ?_, (), trivial, rfl⟩
    rw [htotal]
    exact hshares

end Window

/-- The output of an automatically padded convolution has a cell for each stride that its input
begins. -/
theorem Convolution.infer_auto_sizes {c : Convolution} {input filter y : Operand} {policy : AutoPad}
    (hpadding : c.padding = .auto policy) (h : (c.infer input filter).result = .ok y) :
    ∃ x z : Activation, input.shape = c.layout.join x ∧ y.shape = c.layout.join z ∧
      z.height.toNat = x.height.toNat ⌈/⌉ c.strides.height.toNat ∧
      z.width.toNat = x.width.toNat ⌈/⌉ c.strides.width.toNat := by
  obtain ⟨x, f, p, haccepts, height, width, hheight, hwidth, hy⟩ := infer_eq_ok.mp h
  have hresolves := haccepts.padding
  rw [hpadding] at hresolves
  obtain ⟨hy, -⟩ := Operand.create_eq_ok.mp hy
  refine ⟨x, ⟨x.batches, f.outputChannels, height, width⟩, haccepts.inputShape, ?_, ?_, ?_⟩
  · rw [hy]
  · exact hheight.trans (Window.samePadding_fits haccepts.strides.1 hresolves.1).2
  · exact hwidth.trans (Window.samePadding_fits haccepts.strides.2 hresolves.2).2

/-- **Automatic padding is exact.** It exists whenever the cells it needs can be counted, is the
least that gives a position for each stride begun, is shared evenly with the odd cell where the
policy puts it, and leaves an axis on which the positions are computed without fail and come out
as aimed at. So do the sizes of every convolution that is padded in this way. -/
theorem Window.samePadding_exact :
    (∀ (w : Window) (policy : AutoPad), 1 ≤ w.stride.toNat →
      ((∃ p, (w.samePadding policy).result = .ok p) ↔
        1 ≤ w.input.toNat ∧ 1 ≤ w.size.toNat ∧ w.span ≤ Dim.largest.toNat ∧
          (w.begun - 1) * w.stride.toNat + w.span ≤ Dim.largest.toNat) ∧
      ∀ p, (w.samePadding policy).result = .ok p →
        IsLeast {t : ℕ | w.begun ≤ (w.placements (w.input.toNat + t)).ncard}
          (p.beginning.toNat + p.ending.toNat) ∧
        (policy = .sameUpper →
          p.beginning.toNat ≤ p.ending.toNat ∧ p.ending.toNat ≤ p.beginning.toNat + 1) ∧
        (policy = .sameLower →
          p.ending.toNat ≤ p.beginning.toNat ∧ p.beginning.toNat ≤ p.ending.toNat + 1) ∧
        (w.samePadding policy.mirror).result = .ok ⟨p.ending, p.beginning⟩ ∧
        ∀ operator, ∃ v, w.positions operator p = .ok v ∧ v.floor = w.begun) ∧
    ∀ (c : Convolution) (input filter y : Operand) (policy : AutoPad),
      c.padding = .auto policy → (c.infer input filter).result = .ok y →
      ∃ x z : Activation, input.shape = c.layout.join x ∧ y.shape = c.layout.join z ∧
        z.height.toNat = x.height.toNat ⌈/⌉ c.strides.height.toNat ∧
        z.width.toNat = x.width.toNat ⌈/⌉ c.strides.width.toNat := by
  refine ⟨fun w policy hs => ⟨?_, fun p h => ?_⟩, fun c input filter y policy hpadding h =>
    Convolution.infer_auto_sizes hpadding h⟩
  · rw [exists_samePadding_iff policy hs]
    constructor
    · rintro ⟨hinput, hsize, hreach⟩
      exact ⟨hinput, hsize, le_trans (Nat.le_add_left _ _) hreach, hreach⟩
    · rintro ⟨hinput, hsize, -, hreach⟩
      exact ⟨hinput, hsize, hreach⟩
  · obtain ⟨hinput, hsize, hreach, hshares⟩ := (samePadding_eq_ok hs).mp h
    refine ⟨samePadding_isLeast hs h, ?_, ?_, ?_, positions_samePadding hs h⟩
    · rintro rfl
      obtain ⟨hb, he⟩ := hshares
      omega
    · rintro rfl
      obtain ⟨hb, he⟩ := hshares
      omega
    · exact (samePadding_eq_ok hs).mpr ⟨hinput, hsize, hreach, hshares.mirror⟩

/-- Three cells of padding for a window of span 5 on ten cells: the odd one goes to the end. -/
theorem Window.samePadding_exact_odd_total :
    1 ≤ (⟨10, 3, 4, 2⟩ : Window).stride.toNat ∧
      ((⟨10, 3, 4, 2⟩ : Window).samePadding .sameUpper).result = .ok ⟨1, 2⟩ ∧
      ((⟨10, 3, 4, 2⟩ : Window).samePadding .sameLower).result = .ok ⟨2, 1⟩ ∧
      IsLeast {t : ℕ | 3 ≤ ((⟨10, 3, 4, 2⟩ : Window).placements (10 + t)).ncard} 3 ∧
      ∃ v, (⟨10, 3, 4, 2⟩ : Window).positions "Conv2d" ⟨1, 2⟩ = .ok v ∧ v.floor = 3 := by
  have hstride : 1 ≤ (⟨10, 3, 4, 2⟩ : Window).stride.toNat := by decide
  have hok : ((⟨10, 3, 4, 2⟩ : Window).samePadding .sameUpper).result = .ok ⟨1, 2⟩ := by decide
  obtain ⟨hleast, -, -, hmirror, hpositions⟩ :=
    (samePadding_exact.1 ⟨10, 3, 4, 2⟩ .sameUpper hstride).2 ⟨1, 2⟩ hok
  exact ⟨hstride, hok, hmirror, hleast, hpositions "Conv2d"⟩

end TensorTyping
