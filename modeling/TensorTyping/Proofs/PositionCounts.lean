import Mathlib
import TensorTyping.Proofs.Faultless

/-!
# Positions computed in doubles are the exact ones

`Window.positions` rounds twice on its way, in the quotient and in the sum, and its callers round
once more, down or up. A quotient may lie as near to an integer as one part in the stride. None of
this shows: the operators reject what the same counting in natural numbers rejects, for the same
cause, and otherwise take the same sizes from it.

* `Window.positions_eq` — every end of the computation in doubles.
* `Window.ratio_eq_intCast_iff` — when its value is an integer.
* `Window.counts` — the positions, counted in natural numbers.
* `Convolution.inferCounted`, `Pooling.inferCounted` — the operators on these counts.
* `Window.positions_round_exactly` — doubles and natural numbers agree, in the window and in the
  operators.
-/

namespace TensorTyping

namespace Window

variable {w : Window} {p : AxisPadding}

/-! ## The computation in doubles -/

theorem effective_eq_none :
    w.effective.value = none ↔ w.size.toNat = 0 ∨ Dim.largest.toNat < w.span := by
  rw [Option.eq_none_iff_forall_ne_some]
  constructor
  · intro h
    by_contra hcon
    obtain ⟨hsize, hspan⟩ := not_or.mp hcon
    exact h w.span (effective_eq_some.mpr ⟨by omega, by omega, rfl⟩)
  · intro h n hn
    obtain ⟨hsize, hspan, -⟩ := effective_eq_some.mp hn
    omega

/-- Every end of the computation: no window, no room for it, too many positions, or their number. -/
theorem positions_eq (operator : String) (p : AxisPadding) (hs : 0 < w.stride.toNat) :
    w.positions operator p =
      if w.size.toNat = 0 ∨ Dim.largest.toNat < w.span then
        reject (.overflow (.effectiveWindow operator w.size w.dilation))
      else if w.padded p < w.span then
        reject (.windowTooLarge operator (w.padded p) (.ofNat w.span))
      else if (Dim.largest.toNat - 1) * w.stride.toNat < w.padded p - w.span then
        reject (.overflow (.positions operator (w.ratio p)))
      else
        .ok (w.ratio p) := by
  by_cases hspan : w.size.toNat = 0 ∨ Dim.largest.toNat < w.span
  · rw [if_pos hspan]
    exact Infer.bind_eq_error.mpr
      (.inl (Magnitude.dimOrOverflow_eq_error.mpr ⟨effective_eq_none.mpr hspan, rfl⟩))
  rw [if_neg hspan]
  obtain ⟨hsize, hlargest⟩ := not_or.mp hspan
  have htoNat : (UInt32.ofNat w.span).toNat = w.span :=
    UInt32.toNat_ofNat_of_lt' (Magnitude.lt_limit_dimension.mpr (by omega))
  have heffective : w.effective.dimOrOverflow (.effectiveWindow operator w.size w.dilation) =
      .ok (.ofNat w.span) :=
    Magnitude.dimOrOverflow_eq_ok.mpr (effective_eq_some.mpr ⟨by omega, by omega, htoNat⟩)
  by_cases hroom : w.padded p < w.span
  · rw [if_pos hroom]
    refine Infer.bind_eq_error.mpr (.inr ⟨_, heffective, Infer.bind_eq_error.mpr (.inl ?_)⟩)
    rw [add_padding, htoNat]
    exact require_eq_error.mpr ⟨by rw [Nat.cast_le]; omega, rfl⟩
  rw [if_neg hroom]
  by_cases hcount : (Dim.largest.toNat - 1) * w.stride.toNat < w.padded p - w.span
  · rw [if_pos hcount]
    refine Infer.bind_eq_error.mpr (.inr ⟨_, heffective, Infer.bind_eq_error.mpr (.inr ⟨(), ?_⟩)⟩)
    rw [add_padding, htoNat, sub_span (not_lt.mp hroom)]
    refine ⟨require_eq_ok.mpr (by rw [Nat.cast_le]; omega), Infer.bind_eq_error.mpr (.inl ?_)⟩
    refine require_eq_error.mpr ⟨fun hle => ?_, rfl⟩
    have := (ratio_le_largest_iff hs).mp hle
    omega
  · rw [if_neg hcount]
    exact (positions_eq_ok hs).mpr ⟨⟨by omega, by omega, by omega, by omega⟩, rfl⟩

/-! ## The double between the integers -/

/-- The double is an integer only when the strides end with the axis. -/
theorem ratio_eq_intCast_iff (hs : 0 < w.stride.toNat) :
    (∃ n : ℤ, w.ratio p = n) ↔ w.stride.toNat ∣ w.padded p - w.span := by
  constructor
  · rintro ⟨n, hn⟩
    by_contra hdvd
    -- floor and ceiling of an integer are equal, and those of the double are not
    have hfloor := floor_ratio (p := p) hs
    have hceil := ceil_ratio (p := p) hs
    rw [hn, Int.floor_intCast] at hfloor
    rw [hn, Int.ceil_intCast, ceilDiv_of_not_dvd hs hdvd] at hceil
    omega
  · intro hdvd
    refine ⟨((w.padded p - w.span) / w.stride.toNat + 1 : ℕ), ?_⟩
    rw [Int.cast_natCast]
    exact Double.add_div_one_of_dvd hs (w.ratio_small p) hdvd

/-! ## Counting in natural numbers -/

/-- The positions of a window on a padded axis, rounded down and rounded up. -/
structure Counts where
  floor : Dim
  ceil : Dim
  deriving DecidableEq

/-- The positions, counted in natural numbers. Only the message about too many of them shows a
double. -/
def counts (w : Window) (operator : String) (p : AxisPadding) : Infer Counts :=
  let free := w.padded p - w.span
  if w.size.toNat = 0 ∨ Dim.largest.toNat < w.span then
    reject (.overflow (.effectiveWindow operator w.size w.dilation))
  else if w.padded p < w.span then
    reject (.windowTooLarge operator (w.padded p) (.ofNat w.span))
  else if (Dim.largest.toNat - 1) * w.stride.toNat < free then
    reject (.overflow (.positions operator (w.ratio p)))
  else
    .ok ⟨.ofNat (free / w.stride.toNat + 1), .ofNat (free ⌈/⌉ w.stride.toNat + 1)⟩

/-- The computation in doubles fails as the count does, or its roundings are the counts. -/
theorem positions_counts (w : Window) (operator : String) (p : AxisPadding)
    (hs : 0 < w.stride.toNat) :
    (∃ failure, w.positions operator p = .error failure ∧ w.counts operator p = .error failure) ∨
      ∃ n, w.positions operator p = .ok (w.ratio p) ∧ w.counts operator p = .ok n ∧
        Dim.ofInt (w.ratio p).floor = .ok n.floor ∧ Dim.ofInt (w.ratio p).ceil = .ok n.ceil := by
  rw [positions_eq operator p hs]
  unfold counts
  dsimp only
  split_ifs with hspan hroom hcount
  · exact .inl ⟨_, rfl, rfl⟩
  · exact .inl ⟨_, rfl, rfl⟩
  · exact .inl ⟨_, rfl, rfl⟩
  · obtain ⟨hfloor, hceil⟩ := counts_le_largest hs (not_lt.mp hcount)
    refine .inr ⟨_, rfl, rfl, ?_, ?_⟩
    · rw [Dim.ofInt_eq_ok, Rounding.floor_eq, floor_ratio hs,
        UInt32.toNat_ofNat_of_lt' (Magnitude.lt_limit_dimension.mpr hfloor)]
    · rw [Dim.ofInt_eq_ok, Rounding.ceil_eq, ceil_ratio hs,
        UInt32.toNat_ofNat_of_lt' (Magnitude.lt_limit_dimension.mpr hceil)]

/-- What follows the positions may follow the counts, when it does the same with the roundings. -/
theorem positions_bind {β : Type} {operator : String} {f : ℚ → Infer β} {g : Counts → Infer β}
    (hs : 0 < w.stride.toNat)
    (h : ∀ n : Counts, Dim.ofInt (w.ratio p).floor = .ok n.floor →
      Dim.ofInt (w.ratio p).ceil = .ok n.ceil → f (w.ratio p) = g n) :
    w.positions operator p >>= f = w.counts operator p >>= g := by
  rcases w.positions_counts operator p hs with ⟨_, hv, hn⟩ | ⟨n, hv, hn, hfloor, hceil⟩
  · rw [hv, hn]
    rfl
  · rw [hv, hn, Infer.ok_bind, Infer.ok_bind]
    exact h n hfloor hceil

end Window

/-! ## The operators -/

/-- A convolution whose positions are counted in natural numbers. -/
def Convolution.inferCounted (c : Convolution) (input filter : Operand) : Infer Operand := do
  let (x, f) ← c.operands input filter
  let window := c.window x f
  let padding ← (c.padding.resolve window).result
  let height ← window.height.counts "Conv2d" padding.height
  let width ← window.width.counts "Conv2d" padding.width
  requireBias "Conv2d" c.bias input.dataType f.outputChannels
  Operand.create input.dataType
    (c.layout.join ⟨x.batches, f.outputChannels, height.floor, width.floor⟩)

/-- A pooling whose positions are counted in natural numbers. -/
def Pooling.inferCounted (p : Pooling) (input : Operand) : Infer Operand := do
  let x ← p.operand input
  let window := p.slidingWindow x
  let padding ← (p.padding.resolve window).result
  let height ← window.height.counts p.kind.operator padding.height
  let width ← window.width.counts p.kind.operator padding.width
  let size ← (p.choose ⟨height.floor, width.floor⟩ ⟨height.ceil, width.ceil⟩).result
  Operand.create input.dataType (p.layout.join ⟨x.batches, x.channels, size.height, size.width⟩)

theorem Convolution.result_infer_eq_counted (c : Convolution) (input filter : Operand) :
    (c.infer input filter).result = c.inferCounted input filter := by
  unfold infer inferCounted
  simp only [Traced.result_bind, Traced.result_liftM, Traced.result_emit]
  refine Infer.bind_congr fun ⟨x, f⟩ hoperands => Infer.bind_congr fun padding _ => ?_
  obtain ⟨hstride, hstride'⟩ := (operands_eq_ok.mp hoperands).strides
  refine Window.positions_bind hstride fun n hfloor _ => ?_
  refine Window.positions_bind hstride' fun n' hfloor' _ => ?_
  rw [Infer.ok_bind]
  refine Infer.bind_congr fun _ _ => ?_
  rw [hfloor, Infer.ok_bind, hfloor', Infer.ok_bind]

theorem Pooling.result_infer_eq_counted (p : Pooling) (input : Operand) :
    (p.infer input).result = p.inferCounted input := by
  unfold infer inferCounted
  simp only [Traced.result_bind, Traced.result_liftM, Traced.result_emit]
  refine Infer.bind_congr fun x hoperand => Infer.bind_congr fun padding _ => ?_
  obtain ⟨hstride, hstride'⟩ := strides_of_operand hoperand
  refine Window.positions_bind hstride fun n hfloor hceil => ?_
  refine Window.positions_bind hstride' fun n' hfloor' hceil' => ?_
  rw [Infer.ok_bind, hfloor, Infer.ok_bind, hfloor', Infer.ok_bind, hceil, Infer.ok_bind, hceil',
    Infer.ok_bind]

/-- **Positions in doubles are the exact ones.** For every window with a stride the computation
rejects, in this order, a window that is empty or not countable, an axis without room for it
(an incompatible shape), and too many positions. Otherwise its value lies between the two integers
between which the exact quotient lies, and is an integer only if that is one, and both roundings are
dimensions. Convolutions and poolings therefore do what they would do with counts in natural
numbers, for all requests. -/
theorem Window.positions_round_exactly :
    (∀ (w : Window) (operator : String) (p : AxisPadding), 1 ≤ w.stride.toNat →
      ∃ v : ℚ,
        w.positions operator p =
          (if w.size.toNat = 0 ∨ Dim.largest.toNat < w.span then
            reject (.overflow (.effectiveWindow operator w.size w.dilation))
          else if w.padded p < w.span then
            reject (.windowTooLarge operator (w.padded p) (.ofNat w.span))
          else if (Dim.largest.toNat - 1) * w.stride.toNat < w.padded p - w.span then
            reject (.overflow (.positions operator v))
          else
            .ok v) ∧
        v.floor = ((w.padded p - w.span) / w.stride.toNat + 1 : ℕ) ∧
        v.ceil = ((w.padded p - w.span) ⌈/⌉ w.stride.toNat + 1 : ℕ) ∧
        ((∃ n : ℤ, v = n) ↔ w.stride.toNat ∣ w.padded p - w.span) ∧
        (w.padded p - w.span ≤ (Dim.largest.toNat - 1) * w.stride.toNat →
          v.floor ≤ Dim.largest.toNat ∧ v.ceil ≤ Dim.largest.toNat) ∧
        ∀ n, w.counts operator p = .ok n →
          Dim.ofInt v.floor = .ok n.floor ∧ Dim.ofInt v.ceil = .ok n.ceil) ∧
    (∀ (c : Convolution) (input filter : Operand),
      (c.infer input filter).result = c.inferCounted input filter) ∧
    ∀ (p : Pooling) (input : Operand), (p.infer input).result = p.inferCounted input := by
  refine ⟨fun w operator p hs => ?_, Convolution.result_infer_eq_counted,
    Pooling.result_infer_eq_counted⟩
  have hfloor : (w.ratio p).floor = _ := floor_ratio hs
  have hceil := (Rounding.ceil_eq (w.ratio p)).trans (ceil_ratio hs)
  refine ⟨w.ratio p, positions_eq operator p hs, hfloor, hceil, ratio_eq_intCast_iff hs, ?_, ?_⟩
  · intro hcount
    rw [hfloor, hceil, Int.ofNat_le, Int.ofNat_le]
    exact counts_le_largest hs hcount
  · intro n hn
    rcases w.positions_counts operator p hs with ⟨_, -, hfail⟩ | ⟨n', -, hn', hcasts⟩
    · rw [hfail] at hn
      cases hn
    · rw [hn'] at hn
      cases hn
      exact hcasts

/-- The quotient `2.9999…`, one part in the largest stride below 3, is not rounded to it. -/
theorem Window.positions_round_exactly_below_integer :
    1 ≤ (⟨4294967295, 1, 4294967295, 0⟩ : Window).stride.toNat ∧
      ∃ v, (⟨4294967295, 1, 4294967295, 0⟩ : Window).positions "MaxPool2d"
          ⟨4294967295, 4294967295⟩ = .ok v ∧
        v.floor = 3 ∧ v.ceil = 4 ∧ ¬ ∃ n : ℤ, v = n := by
  have hstride : 1 ≤ (⟨4294967295, 1, 4294967295, 0⟩ : Window).stride.toNat := by decide
  obtain ⟨v, hv, hfloor, hceil, hinteger, -⟩ := positions_round_exactly.1
    ⟨4294967295, 1, 4294967295, 0⟩ "MaxPool2d" ⟨4294967295, 4294967295⟩ hstride
  rw [if_neg (by decide), if_neg (by decide), if_neg (by decide)] at hv
  exact ⟨hstride, v, hv, hfloor, hceil, fun h => absurd (hinteger.mp h) (by decide)⟩

end TensorTyping
