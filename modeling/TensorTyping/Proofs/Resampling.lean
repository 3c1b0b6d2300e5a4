import Mathlib
import TensorTyping.Proofs.FaultlessCalls

/-!
# Sizes of a resampling

A resampling by factors multiplies the size of an axis with a factor, in doubles, and rounds the
product down. A factor has 24 significant bits, so below `2 ^ 29` the product of a size and a factor
is a double and nothing is lost. A larger product is rounded before it is rounded down, and may
reach the integer above the exact one, but no other.

* `Single.IsFactor` — the singles that may scale an axis; `Single.scaled` is the exact product.
* `result_scaledSize` — how the scaling of an axis ends, in terms of the rounded product.
* `Single.IsFactor.round_scaled`, `Single.IsFactor.floor_round_scaled` — what the rounding does.
* `Resampling.result_infer_of_scales` — a resampling scales one axis and then the other.
* `resampling_scales_floor` — the sizes in terms of the exact product.
-/

namespace TensorTyping

namespace Single

variable {s : Single}

/-- The single may scale an axis: it is a positive number. -/
structure IsFactor (s : Single) : Prop where
  finite : s.isFinite
  positive : 0 < s.value

/-- The product of a size and a single, without rounding. -/
def scaled (s : Single) (n : Dim) : ℚ :=
  n.toNat * s.value

theorem magnitude_nonneg (s : Single) : 0 ≤ s.magnitude := by
  unfold magnitude
  split_ifs <;> positivity

/-- A positive single has at most 24 significant bits, those of its fraction and a hidden one. -/
theorem hasBits_value (h : 0 < s.value) : Rounding.HasBits 24 s.value := by
  have hfraction : s.fraction < 2 ^ 23 := Nat.mod_lt _ (by decide)
  have hunit : exponentUnit = 2 ^ 23 := rfl
  unfold value at h ⊢
  split_ifs at h ⊢ with hnegative
  · exact absurd h (not_lt.mpr (neg_nonpos.mpr s.magnitude_nonneg))
  · unfold magnitude
    split_ifs
    · exact ⟨s.fraction, -149, by omega, rfl⟩
    · exact ⟨exponentUnit + s.fraction, s.exponentField - 150, by omega, rfl⟩

end Single

/-! ## Scaling one axis -/

section

variable {axis n d : Dim} {s : Single}

/-- With a factor the rounded product decides. -/
theorem result_scaledSize (h : s.IsFactor) :
    (scaledSize axis n s).result =
      if Double.round (s.scaled n) < 1 then reject (.emptyScaled axis n s)
      else if 2 ^ 32 ≤ Double.round (s.scaled n) then reject (.overflow (.scaledSize axis n s))
      else .ok (.ofNat ⌊Double.round (s.scaled n)⌋.toNat) := by
  have hfactor : require (s.isFinite ∧ 0 < s.value) (.scale s axis) = .ok () :=
    require_eq_ok.mpr ⟨h.finite, h.positive⟩
  have hproduct : (Double.mul n.toNat s.value).floor = ⌊Double.round (s.scaled n)⌋ := rfl
  have hlargest : (Dim.largest.toNat : ℤ) + 1 = 2 ^ 32 := by decide
  unfold scaledSize
  simp only [Traced.result_bind, Traced.result_liftM, hfactor, Infer.ok_bind, Traced.result_emit,
    hproduct]
  generalize Double.round (s.scaled n) = v
  have hempty : ⌊v⌋ < 1 ↔ v < 1 := by rw [Int.floor_lt, Int.cast_one]
  have hlarge : ⌊v⌋ ≤ Dim.largest.toNat ↔ ¬ 2 ^ 32 ≤ v := by
    rw [not_le, ← Int.lt_add_one_iff, hlargest, Int.floor_lt]
    norm_num
  by_cases hv : v < 1
  · rw [if_pos (hempty.mpr hv), if_pos hv]
    rfl
  · rw [if_neg (hempty.not.mpr hv), if_neg hv]
    by_cases hv' : 2 ^ 32 ≤ v
    · rw [if_pos hv']
      have hreject : require (⌊v⌋ ≤ Dim.largest.toNat) (.overflow (.scaledSize axis n s)) =
          reject (.overflow (.scaledSize axis n s)) := if_neg (fun h => hlarge.mp h hv')
      rw [Traced.result_bind, Traced.result_liftM, hreject]
      rfl
    · rw [if_neg hv']
      have hle := hlarge.mpr hv'
      have hone : 1 ≤ ⌊v⌋ := not_lt.mp (hempty.not.mpr hv)
      have hcast : Dim.ofInt ⌊v⌋ = .ok (.ofNat ⌊v⌋.toNat) := if_pos ⟨by omega, hle⟩
      have haccept : require (⌊v⌋ ≤ Dim.largest.toNat) (.overflow (.scaledSize axis n s)) =
          .ok () := if_pos hle
      rw [Traced.result_bind, Traced.result_liftM, haccept, Infer.ok_bind, Traced.result_liftM,
        hcast]

/-- A scaled axis has the rounded product, rounded down, as its size. -/
theorem scaledSize_eq_ok (h : s.IsFactor) :
    (scaledSize axis n s).result = .ok d ↔
      1 ≤ Double.round (s.scaled n) ∧ Double.round (s.scaled n) < 2 ^ 32 ∧
        (d.toNat : ℤ) = ⌊Double.round (s.scaled n)⌋ := by
  rw [result_scaledSize h]
  generalize Double.round (s.scaled n) = v
  by_cases hempty : v < 1
  · rw [if_pos hempty, Infer.reject_eq_ok, false_iff]
    exact fun hok => not_le.mpr hempty hok.1
  · by_cases hlarge : 2 ^ 32 ≤ v
    · rw [if_neg hempty, if_pos hlarge, Infer.reject_eq_ok, false_iff]
      exact fun hok => not_lt.mpr hlarge hok.2.1
    · rw [if_neg hempty, if_neg hlarge, Except.ok.injEq, ← UInt32.toNat_inj]
      -- between 1 and the limit the cast keeps the number
      have hone : 0 ≤ ⌊v⌋ := Int.floor_nonneg.mpr (le_trans zero_le_one (not_lt.mp hempty))
      have hlt : ⌊v⌋ < 2 ^ 32 := Int.floor_lt.mpr (by exact_mod_cast not_le.mp hlarge)
      rw [UInt32.toNat_ofNat_of_lt' (by show ⌊v⌋.toNat < 4294967296; omega)]
      constructor
      · intro hd
        exact ⟨not_lt.mp hempty, not_le.mp hlarge, by omega⟩
      · rintro ⟨-, -, hd⟩
        omega

/-- A scaled axis is empty when the rounded product is below 1. -/
theorem scaledSize_rejected_invalidAttribute (h : s.IsFactor) :
    Infer.Rejected .invalidAttribute (scaledSize axis n s).result ↔
      Double.round (s.scaled n) < 1 := by
  rw [result_scaledSize h]
  split_ifs with hempty hlarge
  · exact iff_of_true (Infer.rejected_reject.mpr rfl) hempty
  · exact iff_of_false (fun hrejected => nomatch Infer.rejected_reject.mp hrejected) hempty
  · exact iff_of_false Infer.not_rejected_ok hempty

/-- A scaled axis is too large when the rounded product is beyond the dimensions. -/
theorem scaledSize_rejected_overflow (h : s.IsFactor) :
    Infer.Rejected .overflow (scaledSize axis n s).result ↔
      2 ^ 32 ≤ Double.round (s.scaled n) := by
  rw [result_scaledSize h]
  split_ifs with hempty hlarge
  · refine iff_of_false (fun hrejected => nomatch Infer.rejected_reject.mp hrejected) ?_
    exact not_le.mpr (lt_trans hempty (by norm_num))
  · exact iff_of_true (Infer.rejected_reject.mpr rfl) hlarge
  · exact iff_of_false Infer.not_rejected_ok hlarge

/-- What is not a factor is rejected. -/
theorem scaledSize_of_not_isFactor (h : ¬ s.IsFactor) :
    (scaledSize axis n s).result = reject (.scale s axis) := by
  have hrejected : require (s.isFinite ∧ 0 < s.value) (.scale s axis) = reject (.scale s axis) :=
    if_neg fun hfactor => h ⟨hfactor.1, hfactor.2⟩
  unfold scaledSize
  rw [Traced.result_bind, Traced.result_liftM, hrejected]
  rfl

/-! ## The exact product -/

theorem Single.IsFactor.scaled_nonneg (h : s.IsFactor) (n : Dim) : 0 ≤ s.scaled n :=
  mul_nonneg n.toNat.cast_nonneg h.positive.le

/-- The product of a factor and a size of 29 bits is a double. -/
theorem Single.IsFactor.round_scaled (h : s.IsFactor) (hn : n.toNat < 2 ^ 29) :
    Double.round (s.scaled n) = s.scaled n :=
  Double.round_of_hasBits ((Rounding.HasBits.natCast hn).mul (hasBits_value h.positive))

/-- A product that fits the dimensions after rounding is rounded by less than 1. -/
theorem Single.IsFactor.floor_round_scaled (h : s.IsFactor)
    (hlt : Double.round (s.scaled n) < 2 ^ 32) :
    ⌊s.scaled n⌋ ≤ ⌊Double.round (s.scaled n)⌋ ∧
      ⌊Double.round (s.scaled n)⌋ ≤ ⌊s.scaled n⌋ + 1 := by
  have hnonneg := h.scaled_nonneg n
  have hmove := abs_le.mp (Double.abs_round_sub_le hnonneg)
  have hsmall : s.scaled n < 2 ^ 53 := by linarith
  exact ⟨Double.floor_le_floor_round hnonneg hsmall, Double.floor_round_le hnonneg hsmall⟩

/-- Below `2 ^ 29` the size is the exact product rounded down. -/
theorem exists_scaledSize_of_lt (h : s.IsFactor) (hn : n.toNat < 2 ^ 29) (hone : 1 ≤ s.scaled n)
    (hlt : s.scaled n < 2 ^ 32) :
    ∃ d : Dim, (scaledSize axis n s).result = .ok d ∧ (d.toNat : ℤ) = ⌊s.scaled n⌋ := by
  have hnonneg : 0 ≤ ⌊s.scaled n⌋ := Int.floor_nonneg.mpr (h.scaled_nonneg n)
  have hfloor : ⌊s.scaled n⌋ < 2 ^ 32 := Int.floor_lt.mpr (by exact_mod_cast hlt)
  obtain ⟨d, hd⟩ : ∃ d : Dim, d.toNat = ⌊s.scaled n⌋.toNat :=
    Dim.exists_toNat_eq (by show _ ≤ 4294967295; omega)
  have hd' : (d.toNat : ℤ) = ⌊s.scaled n⌋ := by omega
  refine ⟨d, (scaledSize_eq_ok h).mpr ?_, hd'⟩
  rw [h.round_scaled hn]
  exact ⟨hone, hlt, hd'⟩

/-- A size that is accepted is the exact product rounded down, or the next one. -/
theorem scaledSize_bounds (h : s.IsFactor) (hd : (scaledSize axis n s).result = .ok d) :
    ((d.toNat : ℤ) = ⌊s.scaled n⌋ ∨ (d.toNat : ℤ) = ⌊s.scaled n⌋ + 1) ∧
      1 ≤ d.toNat ∧ d.toNat ≤ 2 ^ 32 - 1 := by
  obtain ⟨hone, hlt, hfloor⟩ := (scaledSize_eq_ok h).mp hd
  obtain ⟨hlower, hupper⟩ := h.floor_round_scaled hlt
  have hpos : 1 ≤ ⌊Double.round (s.scaled n)⌋ := Int.le_floor.mpr (by exact_mod_cast hone)
  have hbound := d.toNat_lt
  omega

end

/-! ## Scaling both axes -/

namespace Resampling

variable {r : Resampling} {input y : Operand} {scales : Size2d Single}

theorem axes_ne_of_allowed {axes : Dim × Dim} (h : axes ∈ allowedAxes) :
    axes.1.toNat ≠ axes.2.toNat := by
  unfold allowedAxes at h
  simp only [List.mem_cons, List.not_mem_nil, or_false] at h
  rcases h with rfl | rfl | rfl <;> decide

/-- A resampling by factors scales its first axis, then its second one, and creates the output. -/
theorem result_infer_of_scales (htarget : r.target = .scales scales) (hrank : input.rank = 4)
    (hfloat : input.dataType.isFloatingPoint) (haxes : r.axes ∈ allowedAxes) :
    ∃ n m, input.shape[r.axes.1.toNat]? = some n ∧ input.shape[r.axes.2.toNat]? = some m ∧
      (r.infer input).result = (do
        let first ← (scaledSize r.axes.1 n scales.height).result
        let second ← (scaledSize r.axes.2 m scales.width).result
        Operand.create input.dataType
          (List.set (List.set input.shape r.axes.1.toNat first) r.axes.2.toNat second)) := by
  obtain ⟨hfirst, hsecond⟩ := lt_four_of_allowed haxes
  have hlength : input.shape.length = 4 := hrank
  rw [← hlength] at hfirst hsecond
  obtain ⟨n, hn⟩ : ∃ n, input.shape[r.axes.1.toNat]? = some n :=
    ⟨_, List.getElem?_eq_getElem hfirst⟩
  obtain ⟨m, hm⟩ : ∃ m, input.shape[r.axes.2.toNat]? = some m :=
    ⟨_, List.getElem?_eq_getElem hsecond⟩
  refine ⟨n, m, hn, hm, ?_⟩
  have hrank' : input.requireRank 4 "Resample2d input" = .ok () := require_eq_ok.mpr hrank
  have hfloat' : input.requireFloatingPoint "Resample2d input" = .ok () := require_eq_ok.mpr hfloat
  have haxes' : require (r.axes ∈ allowedAxes) (.resampleAxes [r.axes.1, r.axes.2]) = .ok () :=
    require_eq_ok.mpr haxes
  unfold infer sizes
  simp only [htarget, Traced.result_bind, Traced.result_liftM, Traced.result_pure, hrank', hfloat',
    haxes', Shape.dim_eq_ok.mpr hn, Shape.dim_eq_ok.mpr hm, Infer.ok_bind, bind_assoc]
  refine Infer.bind_congr fun first _ => Infer.bind_congr fun second _ => ?_
  -- the first replacement keeps the number of axes
  have hsecond' : r.axes.2.toNat < (List.set input.shape r.axes.1.toNat first).length := by
    rw [List.length_set]
    exact hsecond
  rw [Shape.set_eq_ok.mpr ⟨hfirst, rfl⟩, Infer.ok_bind, Shape.set_eq_ok.mpr ⟨hsecond', rfl⟩,
    Infer.ok_bind]

/-- The output has the new sizes on the two axes, and is the input on the others. -/
theorem getElem?_of_create {shape : Shape} {first second : Dim} (haxes : r.axes ∈ allowedAxes)
    (hlength : shape.length = 4)
    (hy : Operand.create input.dataType
      (List.set (List.set shape r.axes.1.toNat first) r.axes.2.toNat second) = .ok y) :
    y.dataType = input.dataType ∧ y.shape[r.axes.1.toNat]? = some first ∧
      y.shape[r.axes.2.toNat]? = some second ∧
      ∀ place, place ≠ r.axes.1.toNat → place ≠ r.axes.2.toNat →
        y.shape[place]? = shape[place]? := by
  obtain ⟨hfirst, hsecond⟩ := lt_four_of_allowed haxes
  rw [← hlength] at hfirst hsecond
  obtain ⟨rfl, -⟩ := Operand.create_eq_ok.mp hy
  refine ⟨rfl, ?_, ?_, fun place hplace hplace' => ?_⟩
  · rw [List.getElem?_set_ne (axes_ne_of_allowed haxes).symm, List.getElem?_set_self hfirst]
  · rw [List.getElem?_set_self (by rwa [List.length_set])]
  · rw [List.getElem?_set_ne hplace'.symm, List.getElem?_set_ne hplace.symm]

end Resampling

/-- **Resampling by factors rounds the exact product down.** A size below `2 ^ 29` times a factor is
rejected as an empty axis exactly when the product is below 1, as too large exactly when it is
beyond the dimensions, and is otherwise the product rounded down. Any size that is accepted is this
one or the next, and a dimension other than zero. What is not a positive number is rejected. A
resampling does this to the first axis and then to the second one, and keeps the type and the other
two axes. -/
theorem resampling_scales_floor :
    (∀ (axis n : Dim) (s : Single), s.IsFactor →
      (n.toNat < 2 ^ 29 →
        (Infer.Rejected .invalidAttribute (scaledSize axis n s).result ↔ s.scaled n < 1) ∧
        (Infer.Rejected .overflow (scaledSize axis n s).result ↔ 2 ^ 32 ≤ s.scaled n) ∧
        (1 ≤ s.scaled n → s.scaled n < 2 ^ 32 →
          ∃ d : Dim, (scaledSize axis n s).result = .ok d ∧ (d.toNat : ℤ) = ⌊s.scaled n⌋)) ∧
      ∀ d : Dim, (scaledSize axis n s).result = .ok d →
        ((d.toNat : ℤ) = ⌊s.scaled n⌋ ∨ (d.toNat : ℤ) = ⌊s.scaled n⌋ + 1) ∧
          1 ≤ d.toNat ∧ d.toNat ≤ 2 ^ 32 - 1) ∧
    (∀ (axis n : Dim) (s : Single), s.isFinite = false ∨ s.value ≤ 0 →
      Infer.Rejected .invalidAttribute (scaledSize axis n s).result) ∧
    ∀ (r : Resampling) (input : Operand) (scales : Size2d Single), r.target = .scales scales →
      input.rank = 4 → input.dataType.isFloatingPoint → r.axes ∈ Resampling.allowedAxes →
      ∃ n m, input.shape[r.axes.1.toNat]? = some n ∧ input.shape[r.axes.2.toNat]? = some m ∧
        (r.infer input).result = (do
          let first ← (scaledSize r.axes.1 n scales.height).result
          let second ← (scaledSize r.axes.2 m scales.width).result
          Operand.create input.dataType
            (List.set (List.set input.shape r.axes.1.toNat first) r.axes.2.toNat second)) ∧
        ∀ y, (r.infer input).result = .ok y →
          ∃ first second, (scaledSize r.axes.1 n scales.height).result = .ok first ∧
            (scaledSize r.axes.2 m scales.width).result = .ok second ∧
            y.dataType = input.dataType ∧ y.shape[r.axes.1.toNat]? = some first ∧
            y.shape[r.axes.2.toNat]? = some second ∧
            ∀ place, place ≠ r.axes.1.toNat → place ≠ r.axes.2.toNat →
              y.shape[place]? = input.shape[place]? := by
  refine ⟨fun axis n s h => ⟨fun hn => ⟨?_, ?_, ?_⟩, fun d => scaledSize_bounds h⟩, ?_, ?_⟩
  · rw [scaledSize_rejected_invalidAttribute h, h.round_scaled hn]
  · rw [scaledSize_rejected_overflow h, h.round_scaled hn]
  · exact exists_scaledSize_of_lt h hn
  · intro axis n s hunusable
    have hfactor : ¬ s.IsFactor := by
      rintro ⟨hfinite, hpositive⟩
      rcases hunusable with hinfinite | hnegative
      · rw [hinfinite] at hfinite
        cases hfinite
      · exact not_le.mpr hpositive hnegative
    rw [scaledSize_of_not_isFactor hfactor, Infer.rejected_reject]
    rfl
  · intro r input scales htarget hrank hfloat haxes
    obtain ⟨n, m, hn, hm, hinfer⟩ :=
      Resampling.result_infer_of_scales htarget hrank hfloat haxes
    refine ⟨n, m, hn, hm, hinfer, fun y hy => ?_⟩
    rw [hinfer] at hy
    simp only [Infer.bind_eq_ok] at hy
    obtain ⟨first, hfirst, second, hsecond, hy⟩ := hy
    exact ⟨first, second, hfirst, hsecond, Resampling.getElem?_of_create haxes hrank hy⟩

/-- The product of `2 ^ 31 - 1` and the factor next to 1 lies just below an integer, which is the
double nearest to it; so the size is the next one after the exact product rounded down. The other
axis has 9 entries and is halved. A negative zero is no factor. -/
theorem resampling_scales_floor_next :
    (⟨1065353217⟩ : Single).IsFactor ∧
      (scaledSize 2 2147483647 ⟨1065353217⟩).result = .ok 2147483903 ∧
      (2147483903 : ℤ) = ⌊(⟨1065353217⟩ : Single).scaled 2147483647⌋ + 1 ∧
      (⟨1056964608⟩ : Single).IsFactor ∧
      (∃ d : Dim, (scaledSize 3 9 ⟨1056964608⟩).result = .ok d ∧
        (d.toNat : ℤ) = ⌊(⟨1056964608⟩ : Single).scaled 9⌋) ∧
      Infer.Rejected .invalidAttribute (scaledSize 2 9 ⟨2147483648⟩).result ∧
      ((⟨.linear, .scales ⟨⟨1065353217⟩, ⟨1056964608⟩⟩, (2, 3)⟩ : Resampling).infer
        ⟨.float32, [1, 3, 2147483647, 9]⟩).result = .ok ⟨.float32, [1, 3, 2147483903, 4]⟩ ∧
      (scaledSize 3 9 ⟨1056964608⟩).result = .ok 4 := by
  have hfactor : (⟨1065353217⟩ : Single).IsFactor := ⟨by decide, by decide +kernel⟩
  have hhalf : (⟨1056964608⟩ : Single).IsFactor := ⟨by decide, by decide +kernel⟩
  have hscaled : (scaledSize 2 2147483647 ⟨1065353217⟩).result = .ok 2147483903 := by
    decide +kernel
  have hexact : ⌊(⟨1065353217⟩ : Single).scaled 2147483647⌋ = 2147483902 := by decide +kernel
  have hinfer : ((⟨.linear, .scales ⟨⟨1065353217⟩, ⟨1056964608⟩⟩, (2, 3)⟩ : Resampling).infer
      ⟨.float32, [1, 3, 2147483647, 9]⟩).result = .ok ⟨.float32, [1, 3, 2147483903, 4]⟩ := by
    decide +kernel
  obtain ⟨haxis, hunusable, hcall⟩ := resampling_scales_floor
  obtain ⟨hnext, -⟩ := (haxis 2 2147483647 _ hfactor).2 _ hscaled
  obtain ⟨-, -, hfloor⟩ := (haxis 3 9 _ hhalf).1 (by decide)
  obtain ⟨_, m, -, hm, -, hsizes⟩ :=
    hcall ⟨.linear, .scales ⟨⟨1065353217⟩, ⟨1056964608⟩⟩, (2, 3)⟩
      ⟨.float32, [1, 3, 2147483647, 9]⟩ _ rfl rfl rfl (by decide)
  obtain ⟨_, second, -, hsecond, -, -, hplace, -⟩ := hsizes _ hinfer
  obtain rfl : 9 = m := Option.some.inj hm
  obtain rfl : 4 = second := Option.some.inj hplace
  refine ⟨hfactor, hscaled, ?_, hhalf, hfloor (by decide +kernel) (by decide +kernel),
    hunusable _ _ _ (.inr (by decide +kernel)), hinfer, hsecond⟩
  rcases hnext with hsame | hnext
  · rw [hexact] at hsame
    exact absurd hsame (by decide)
  · exact hnext

end TensorTyping
