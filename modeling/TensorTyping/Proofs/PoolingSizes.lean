import Mathlib
import TensorTyping.Proofs.Faultless

/-!
# The sizes of a pooling

A pooling counts the positions of its window in a fraction for each axis. Without a request the
rounding of the attributes makes sizes of both fractions; a request has to name both sizes as one of
the two roundings makes them.

* `Size2d.IsRounding` — sizes that a rounding makes of two fractions.
* `Pooling.Reaches` — what a pooling has computed when it comes to its sizes.
* `Pooling.Reaches.result_rounded`, `Pooling.Reaches.result_requesting` — what is left from there.
* `Pooling.requesting_iff_rounded` — a request is granted exactly when it names what one of the
  roundings gives.
* `Window.autoCount` — the positions on an automatically padded axis.
* `Pooling.infer_auto_rounded` — the sizes of an automatically padded pooling.
-/

namespace TensorTyping

/-! ## Roundings of two fractions -/

/-- The integer that the rounding makes of a fraction. -/
def RoundingMode.round : RoundingMode → ℚ → ℤ
  | floor, v => v.floor
  | ceil, v => v.ceil

theorem RoundingMode.exists_iff {P : RoundingMode → Prop} :
    (∃ mode, P mode) ↔ P floor ∨ P ceil := by
  constructor
  · rintro ⟨mode, h⟩
    cases mode with
    | floor => exact .inl h
    | ceil => exact .inr h
  · rintro (h | h)
    · exact ⟨floor, h⟩
    · exact ⟨ceil, h⟩

/-- The sizes that the rounding makes of the fractions of both axes. -/
def Size2d.IsRounding (mode : RoundingMode) (v : Size2d ℚ) (z : Size2d Dim) : Prop :=
  mode.round v.height = z.height.toNat ∧ mode.round v.width = z.width.toNat

theorem Size2d.IsRounding.unique {mode : RoundingMode} {v : Size2d ℚ} {z z' : Size2d Dim}
    (h : IsRounding mode v z) (h' : IsRounding mode v z') : z = z' := by
  obtain ⟨height, width⟩ := z
  obtain ⟨height', width'⟩ := z'
  obtain rfl : height = height' :=
    UInt32.toNat_inj.mp (Int.ofNat_inj.mp (h.1.symm.trans h'.1))
  obtain rfl : width = width' :=
    UInt32.toNat_inj.mp (Int.ofNat_inj.mp (h.2.symm.trans h'.2))
  rfl

/-- Positions that were computed are a dimension in every rounding. -/
theorem Window.exists_round_positions {w : Window} {p : AxisPadding} {operator : String} {v : ℚ}
    (hs : 0 < w.stride.toNat) (h : w.positions operator p = .ok v) (mode : RoundingMode) :
    ∃ d : Dim, mode.round v = d.toNat := by
  obtain ⟨hone, hle, hlargest⟩ := positions_bounds hs h
  have hbounds : 0 ≤ mode.round v ∧ mode.round v ≤ Dim.largest.toNat := by
    cases mode with
    | floor => exact ⟨by show 0 ≤ v.floor; omega, le_trans hle hlargest⟩
    | ceil => exact ⟨by show 0 ≤ v.ceil; omega, hlargest⟩
  exact ⟨_, Dim.ofInt_eq_ok.mp (if_pos hbounds)⟩

/-! ## Events of a padding -/

/-- An automatic padding puts only itself on record. -/
theorem Window.event_of_mem_samePadding {w : Window} {policy : AutoPad} {event : Event}
    (h : event ∈ (w.samePadding policy).events) :
    ∃ total padding, event = .paddingResolved .convolution policy w.input total padding := by
  unfold samePadding at h
  simp only [Traced.mem_events_bind, Traced.events_liftM, Traced.events_emit, Traced.events_pure,
    List.not_mem_nil, List.mem_singleton, false_or, or_false, and_false, exists_false] at h
  obtain ⟨_, -, padding, -, rfl⟩ := h
  exact ⟨_, padding, rfl⟩

theorem Padding.poolingSizes_not_mem_resolve {resolved : Padding} {w : Window2d} {kind : PoolKind}
    {v : Size2d ℚ} {padding : Padding2d} :
    Event.poolingSizes kind v padding ∉ (resolved.resolve w).events := by
  intro h
  cases resolved with
  | explicit given => cases h
  | auto policy =>
    unfold resolve at h
    simp only [Traced.mem_events_bind, Traced.events_pure, List.not_mem_nil, or_false, and_false,
      exists_false] at h
    rcases h with hheight | ⟨_, -, hwidth⟩
    · obtain ⟨_, _, hevent⟩ := Window.event_of_mem_samePadding hheight
      cases hevent
    · obtain ⟨_, _, hevent⟩ := Window.event_of_mem_samePadding hwidth
      cases hevent

/-! ## Coming to the sizes -/

/-- The activation with other sizes of its spatial axes. -/
def Activation.resized (x : Activation) (size : Size2d Dim) : Activation :=
  ⟨x.batches, x.channels, size.height, size.width⟩

namespace Pooling

variable {p : Pooling} {input o : Operand} {x : Activation} {padding : Padding2d} {v : Size2d ℚ}
  {mode : RoundingMode} {z : Size2d Dim}

/-- The request was found in order up to the positions of the window: the input has the sizes `x`,
the padding is settled, and the positions on both axes are `v`. -/
structure Reaches (p : Pooling) (input : Operand) (x : Activation) (padding : Padding2d)
    (v : Size2d ℚ) : Prop where
  operand : p.operand input = .ok x
  resolves : (p.padding.resolve (p.slidingWindow x)).result = .ok padding
  height : (p.slidingWindow x).height.positions p.kind.operator padding.height = .ok v.height
  width : (p.slidingWindow x).width.positions p.kind.operator padding.width = .ok v.width

/-- A pooling comes to one pair of positions only. -/
theorem Reaches.positions_unique {x' : Activation} {padding' : Padding2d} {v' : Size2d ℚ}
    (h : p.Reaches input x padding v) (h' : p.Reaches input x' padding' v') : v = v' := by
  obtain ⟨height, width⟩ := v
  obtain ⟨height', width'⟩ := v'
  obtain rfl := Except.ok.inj (h.operand.symm.trans h'.operand)
  obtain rfl := Except.ok.inj (h.resolves.symm.trans h'.resolves)
  obtain rfl := Except.ok.inj (h.height.symm.trans h'.height)
  obtain rfl := Except.ok.inj (h.width.symm.trans h'.width)
  rfl

theorem Reaches.exists_isRounding (h : p.Reaches input x padding v) (mode : RoundingMode) :
    ∃ z, Size2d.IsRounding mode v z := by
  obtain ⟨hs, hs'⟩ := strides_of_operand h.operand
  obtain ⟨height, hheight⟩ := Window.exists_round_positions hs h.height mode
  obtain ⟨width, hwidth⟩ := Window.exists_round_positions hs' h.width mode
  exact ⟨⟨height, width⟩, hheight, hwidth⟩

/-- What is left is to choose the sizes and to create the output. -/
theorem Reaches.result_infer {floor ceil : Size2d Dim} (h : p.Reaches input x padding v)
    (hfloor : Size2d.IsRounding .floor v floor) (hceil : Size2d.IsRounding .ceil v ceil) :
    (p.infer input).result = (p.choose floor ceil).result >>= fun size =>
      Operand.create input.dataType (p.layout.join (x.resized size)) := by
  have hfloor₁ : Dim.ofInt v.height.floor = .ok floor.height := Dim.ofInt_eq_ok.mpr hfloor.1
  have hfloor₂ : Dim.ofInt v.width.floor = .ok floor.width := Dim.ofInt_eq_ok.mpr hfloor.2
  have hceil₁ : Dim.ofInt v.height.ceil = .ok ceil.height := Dim.ofInt_eq_ok.mpr hceil.1
  have hceil₂ : Dim.ofInt v.width.ceil = .ok ceil.width := Dim.ofInt_eq_ok.mpr hceil.2
  unfold infer
  simp only [Traced.result_bind, Traced.result_liftM, Traced.result_emit, h.operand, h.resolves,
    h.height, h.width, hfloor₁, hfloor₂, hceil₁, hceil₂, Infer.ok_bind]
  rfl

/-- A pooling with an output came to its sizes. -/
theorem reaches_of_infer_eq_ok (h : (p.infer input).result = .ok o) :
    ∃ x padding v, p.Reaches input x padding v := by
  unfold infer at h
  simp only [Traced.result_bind, Traced.result_liftM, Infer.bind_eq_ok] at h
  obtain ⟨x, hoperand, padding, hpadding, height, hheight, width, hwidth, -⟩ := h
  exact ⟨x, padding, ⟨height, width⟩, hoperand, hpadding, hheight, hwidth⟩

theorem poolingSizes_not_mem_choose {floor ceil : Size2d Dim} {kind : PoolKind} :
    Event.poolingSizes kind v padding ∉ (p.choose floor ceil).events := by
  unfold choose
  cases p.outputSizes with
  | none => cases p.rounding <;> exact List.not_mem_nil
  | some requested =>
    dsimp only
    split_ifs
    · exact List.not_mem_nil
    · simp [Traced.mem_events_bind]

/-- A pooling that put the positions of its window on record came to its sizes. -/
theorem reaches_of_mem_events {kind : PoolKind}
    (h : Event.poolingSizes kind v padding ∈ (p.infer input).events) :
    ∃ x, p.Reaches input x padding v := by
  unfold infer at h
  simp only [Traced.mem_events_bind, Traced.events_liftM, Traced.result_liftM, Traced.events_emit,
    Traced.result_emit, List.not_mem_nil, List.mem_singleton, false_or, or_false, and_false,
    exists_false, Padding.poolingSizes_not_mem_resolve, poolingSizes_not_mem_choose,
    Event.poolingSizes.injEq] at h
  obtain ⟨x, hoperand, _, hpadding, height, hheight, width, hwidth, -, rfl, rfl⟩ := h
  exact ⟨x, hoperand, hpadding, hheight, hwidth⟩

/-! ## Roundings and requests -/

/-- The pooling with another rounding, and with another request or none. -/
def choosing (p : Pooling) (mode : RoundingMode) (sizes : Option (Size2d Dim)) : Pooling :=
  { p with rounding := mode, outputSizes := sizes }

/-- The pooling without a request, rounded in the given way. -/
def rounded (p : Pooling) (mode : RoundingMode) : Pooling :=
  p.choosing mode none

/-- The pooling that asks for an output of the given sizes, beside the rounding that it has. -/
def requesting (p : Pooling) (sizes : Size2d Dim) : Pooling :=
  p.choosing p.rounding (some sizes)

/-- How sizes are chosen does not show before there are positions. -/
theorem reaches_choosing {sizes : Option (Size2d Dim)} :
    (p.choosing mode sizes).Reaches input x padding v ↔ p.Reaches input x padding v :=
  ⟨fun h => ⟨h.operand, h.resolves, h.height, h.width⟩,
    fun h => ⟨h.operand, h.resolves, h.height, h.width⟩⟩

/-- Without a request the output has the sizes of the rounding. -/
theorem Reaches.result_rounded (h : p.Reaches input x padding v)
    (hz : Size2d.IsRounding mode v z) :
    ((p.rounded mode).infer input).result =
      Operand.create input.dataType (p.layout.join (x.resized z)) := by
  obtain ⟨floor, hfloor⟩ := h.exists_isRounding .floor
  obtain ⟨ceil, hceil⟩ := h.exists_isRounding .ceil
  refine ((reaches_choosing.mpr h).result_infer hfloor hceil).trans ?_
  cases mode with
  | floor =>
    rw [hz.unique hfloor]
    rfl
  | ceil =>
    rw [hz.unique hceil]
    rfl

/-- A request for the sizes of a rounding is granted. -/
theorem Reaches.result_requesting (h : p.Reaches input x padding v)
    (hz : Size2d.IsRounding mode v z) :
    ((p.requesting z).infer input).result =
      Operand.create input.dataType (p.layout.join (x.resized z)) := by
  obtain ⟨floor, hfloor⟩ := h.exists_isRounding .floor
  obtain ⟨ceil, hceil⟩ := h.exists_isRounding .ceil
  have hchosen : z = floor ∨ z = ceil := by
    cases mode with
    | floor => exact .inl (hz.unique hfloor)
    | ceil => exact .inr (hz.unique hceil)
  refine ((reaches_choosing.mpr h).result_infer hfloor hceil).trans ?_
  rw [show (p.choosing p.rounding (some z)).choose floor ceil = pure z from if_pos hchosen]
  rfl

/-- Any other request is turned down. -/
theorem Reaches.result_requesting_of_not (h : p.Reaches input x padding v)
    (hz : ∀ mode, ¬ Size2d.IsRounding mode v z) :
    ∃ floor ceil, ((p.requesting z).infer input).result =
      reject (.poolSizes p.kind z floor ceil) := by
  obtain ⟨floor, hfloor⟩ := h.exists_isRounding .floor
  obtain ⟨ceil, hceil⟩ := h.exists_isRounding .ceil
  have hneither : ¬ (z = floor ∨ z = ceil) := by
    rintro (rfl | rfl)
    · exact hz .floor hfloor
    · exact hz .ceil hceil
  refine ⟨floor, ceil, ((reaches_choosing.mpr h).result_infer hfloor hceil).trans ?_⟩
  rw [show (p.choosing p.rounding (some z)).choose floor ceil = _ from if_neg hneither,
    Traced.result_bind]
  rfl

/-- A request that is granted names the sizes of one rounding on both axes. -/
theorem Reaches.exists_isRounding_of_requesting (h : p.Reaches input x padding v)
    (ho : ((p.requesting z).infer input).result = .ok o) :
    ∃ mode, Size2d.IsRounding mode v z := by
  by_contra hz
  obtain ⟨_, _, hrejected⟩ := h.result_requesting_of_not (not_exists.mp hz)
  rw [hrejected] at ho
  cases ho

/-- An output that was requested is the output in one of the roundings. -/
theorem requesting_eq_ok :
    ((p.requesting z).infer input).result = .ok o ↔
      (∃ y : Activation, o.shape = p.layout.join y ∧ y.size = z) ∧
        ∃ mode, ((p.rounded mode).infer input).result = .ok o := by
  constructor
  · intro ho
    obtain ⟨x, padding, v, hreaches⟩ := reaches_of_infer_eq_ok ho
    have h := reaches_choosing.mp hreaches
    obtain ⟨mode, hz⟩ := h.exists_isRounding_of_requesting ho
    rw [h.result_requesting hz] at ho
    refine ⟨⟨x.resized z, ?_, rfl⟩, mode, (h.result_rounded hz).trans ho⟩
    rw [(Operand.create_eq_ok.mp ho).1]
  · rintro ⟨⟨y, hshape, hsize⟩, mode, ho⟩
    obtain ⟨x, padding, v, hreaches⟩ := reaches_of_infer_eq_ok ho
    have h := reaches_choosing.mp hreaches
    obtain ⟨z', hz'⟩ := h.exists_isRounding mode
    rw [h.result_rounded hz'] at ho
    -- the sizes of the rounding are those in the shape of the output
    have hjoin : p.layout.join (x.resized z') = p.layout.join y := by
      rw [← hshape, (Operand.create_eq_ok.mp ho).1]
    obtain rfl : z' = z := by
      rw [← hsize, ← p.layout.join_injective hjoin]
      rfl
    rw [h.result_requesting hz']
    exact ho

/-- **A request means one of the two roundings.** Whatever rounding stands beside it, a request is
granted with the output `o` exactly when `o` has the requested sizes and is the output without a
request in one of the roundings; on both axes these are sizes of the same rounding. When the
poolings without a request come to their positions, a request that is not granted names the sizes
of neither rounding, which is an invalid attribute, or those of a rounding whose output, with or
without the request, cannot be counted. -/
theorem requesting_iff_rounded (p : Pooling) (input : Operand) (z : Size2d Dim) :
    (∀ o, ((p.requesting z).infer input).result = .ok o ↔
      (∃ y : Activation, o.shape = p.layout.join y ∧ y.size = z) ∧
        (((p.rounded .floor).infer input).result = .ok o ∨
          ((p.rounded .ceil).infer input).result = .ok o)) ∧
    (∀ o v padding, ((p.requesting z).infer input).result = .ok o →
      .poolingSizes p.kind v padding ∈ ((p.requesting z).infer input).events →
      Size2d.IsRounding .floor v z ∨ Size2d.IsRounding .ceil v z) ∧
    ∀ v v' padding padding' failure,
      .poolingSizes p.kind v padding ∈ ((p.rounded .floor).infer input).events →
      .poolingSizes p.kind v' padding' ∈ ((p.rounded .ceil).infer input).events →
      ((p.requesting z).infer input).result = .error failure →
      ∃ cause, failure = .rejected cause ∧
        (cause.category = .invalidAttribute ∧
            ¬ Size2d.IsRounding .floor v z ∧ ¬ Size2d.IsRounding .ceil v' z ∨
          cause.category = .overflow ∧
            (∃ y : Activation, y.size = z ∧
              cause = .overflow (.operandBytes input.dataType (p.layout.join y))) ∧
            (Size2d.IsRounding .floor v z ∧
                ((p.rounded .floor).infer input).result = .error failure ∨
              Size2d.IsRounding .ceil v' z ∧
                ((p.rounded .ceil).infer input).result = .error failure)) := by
  refine ⟨fun o => ?_, fun o v padding ho hevent => ?_, ?_⟩
  · rw [requesting_eq_ok, RoundingMode.exists_iff]
  · obtain ⟨x, hreaches⟩ := reaches_of_mem_events hevent
    exact RoundingMode.exists_iff.mp
      ((reaches_choosing.mp hreaches).exists_isRounding_of_requesting ho)
  · intro v v' padding padding' failure hevent hevent' hfailure
    obtain ⟨x, hreaches⟩ := reaches_of_mem_events hevent
    obtain ⟨x', hreaches'⟩ := reaches_of_mem_events hevent'
    have h := reaches_choosing.mp hreaches
    obtain rfl := h.positions_unique (reaches_choosing.mp hreaches')
    by_cases hz : ∃ mode, Size2d.IsRounding mode v z
    · obtain ⟨mode, hz⟩ := hz
      rw [h.result_requesting hz] at hfailure
      have hrounded := (h.result_rounded hz).trans hfailure
      obtain ⟨-, rfl⟩ := Operand.create_eq_error.mp hfailure
      refine ⟨_, rfl, .inr ⟨rfl, ⟨x.resized z, rfl, rfl⟩, ?_⟩⟩
      cases mode with
      | floor => exact .inl ⟨hz, hrounded⟩
      | ceil => exact .inr ⟨hz, hrounded⟩
    · obtain ⟨floor, ceil, hrejected⟩ := h.result_requesting_of_not (not_exists.mp hz)
      rw [hrejected] at hfailure
      cases hfailure
      exact ⟨_, rfl, .inl ⟨rfl, not_exists.mp hz .floor, not_exists.mp hz .ceil⟩⟩

/-- Pairs of cells in both directions, rounded down. -/
def pairs : Pooling where
  kind := .max
  window := ⟨2, 2⟩
  padding := .explicit ⟨⟨0, 0⟩, ⟨0, 0⟩⟩
  strides := ⟨2, 2⟩
  dilations := ⟨1, 1⟩
  layout := .nhwc
  rounding := .floor
  outputSizes := none

/-- Five rows and seven columns have 2.5 and 3.5 positions. The sizes rounded up are granted, beside
the rounding down; a mix of both roundings is turned down. -/
theorem requesting_iff_rounded_mixed :
    ((pairs.requesting ⟨3, 4⟩).infer ⟨.int8, [1, 5, 7, 3]⟩).result = .ok ⟨.int8, [1, 3, 4, 3]⟩ ∧
      .poolingSizes .max ⟨5 / 2, 7 / 2⟩ ⟨⟨0, 0⟩, ⟨0, 0⟩⟩ ∈
        ((pairs.rounded .floor).infer ⟨.int8, [1, 5, 7, 3]⟩).events ∧
      .poolingSizes .max ⟨5 / 2, 7 / 2⟩ ⟨⟨0, 0⟩, ⟨0, 0⟩⟩ ∈
        ((pairs.rounded .ceil).infer ⟨.int8, [1, 5, 7, 3]⟩).events ∧
      ((pairs.requesting ⟨2, 4⟩).infer ⟨.int8, [1, 5, 7, 3]⟩).result =
        .error (.rejected (.poolSizes .max ⟨2, 4⟩ ⟨2, 3⟩ ⟨3, 4⟩)) ∧
      ¬ Size2d.IsRounding .floor ⟨5 / 2, 7 / 2⟩ ⟨2, 4⟩ ∧
      ¬ Size2d.IsRounding .ceil ⟨5 / 2, 7 / 2⟩ ⟨2, 4⟩ := by
  have hceil : ((pairs.rounded .ceil).infer ⟨.int8, [1, 5, 7, 3]⟩).result =
      .ok ⟨.int8, [1, 3, 4, 3]⟩ := by decide +kernel
  have hevent : .poolingSizes .max ⟨5 / 2, 7 / 2⟩ ⟨⟨0, 0⟩, ⟨0, 0⟩⟩ ∈
      ((pairs.rounded .floor).infer ⟨.int8, [1, 5, 7, 3]⟩).events := by decide +kernel
  have hevent' : .poolingSizes .max ⟨5 / 2, 7 / 2⟩ ⟨⟨0, 0⟩, ⟨0, 0⟩⟩ ∈
      ((pairs.rounded .ceil).infer ⟨.int8, [1, 5, 7, 3]⟩).events := by decide +kernel
  have hmixed : ((pairs.requesting ⟨2, 4⟩).infer ⟨.int8, [1, 5, 7, 3]⟩).result =
      .error (.rejected (.poolSizes .max ⟨2, 4⟩ ⟨2, 3⟩ ⟨3, 4⟩)) := by decide +kernel
  obtain ⟨cause, hcause, ⟨-, hneither⟩ | ⟨hoverflow, -⟩⟩ :=
    (requesting_iff_rounded pairs ⟨.int8, [1, 5, 7, 3]⟩ ⟨2, 4⟩).2.2 _ _ _ _ _ hevent hevent' hmixed
  · refine ⟨?_, hevent, hevent', hmixed, hneither⟩
    exact ((requesting_iff_rounded pairs ⟨.int8, [1, 5, 7, 3]⟩ ⟨3, 4⟩).1 _).mpr
      ⟨⟨⟨1, 3, 3, 4⟩, rfl, rfl⟩, .inr hceil⟩
  · cases hcause
    cases hoverflow

end Pooling

/-! ## Automatically padded axes -/

namespace Window

variable {w : Window} {policy : AutoPad} {p : AxisPadding}

/-- The positions on an automatically padded axis. The padding aims at one for each stride that the
input begins; rounded up, there is one more when the input goes on behind the last of them. -/
def autoCount (w : Window) : RoundingMode → ℕ
  | .floor => w.begun
  | .ceil => if w.input.toNat ≤ w.reach w.begun then w.begun else w.begun + 1

/-- Rounded up, the positions on the padded axis are those aimed at, or one more. -/
theorem ceil_samePadding (hs : 0 < w.stride.toNat) (h : (w.samePadding policy).result = .ok p) :
    (w.padded p - w.span) ⌈/⌉ w.stride.toNat + 1 = w.autoCount .ceil := by
  obtain ⟨-, hcount⟩ := samePadding_fits hs h
  obtain ⟨-, -, -, hshares⟩ := (samePadding_eq_ok hs).mp h
  have hpadded : w.padded p = _ := padded_of_shares hshares
  unfold autoCount
  split_ifs with hcover
  · -- the padded axis ends with the last position aimed at
    have hfree : w.padded p - w.span = (w.begun - 1) * w.stride.toNat := by
      rw [hpadded, Nat.add_sub_cancel' hcover]
      exact Nat.add_sub_cancel _ _
    rw [ceilDiv_of_dvd hs (hfree ▸ Nat.dvd_mul_left _ _), hcount]
  · -- the axis is the input and goes on behind it, so the strides do not end with the axis
    have hrest : ¬ w.stride.toNat ∣ w.padded p - w.span := by
      intro hdvd
      have hquotient : (w.padded p - w.span) / w.stride.toNat = w.begun - 1 :=
        Nat.eq_sub_of_add_eq hcount
      have hend := Nat.div_mul_cancel hdvd
      rw [hquotient] at hend
      unfold reach at hcover hpadded
      omega
    rw [ceilDiv_of_not_dvd hs hrest, hcount]

theorem round_samePadding (hs : 0 < w.stride.toNat) (h : (w.samePadding policy).result = .ok p)
    (mode : RoundingMode) : mode.round (w.ratio p) = w.autoCount mode := by
  cases mode with
  | floor => exact (floor_ratio hs).trans (congrArg _ (samePadding_fits hs h).2)
  | ceil =>
    exact (Rounding.ceil_eq _).trans ((ceil_ratio hs).trans (congrArg _ (ceil_samePadding hs h)))

end Window

namespace Pooling

variable {p : Pooling} {input y : Operand} {x : Activation} {padding : Padding2d}
  {policy : AutoPad}

theorem shape_of_operand (h : p.operand input = .ok x) : input.shape = p.layout.join x := by
  obtain ⟨_, hinput, hrest⟩ := Infer.bind_eq_ok.mp h
  simp only [Infer.bind_eq_ok] at hrest
  obtain ⟨_, -, _, -, _, -, hsplit⟩ := hrest
  exact (p.layout.split_eq_ok (PoolKind.rank_of_requireInput hinput)).mp hsplit

/-- With an automatic padding the window always has positions. -/
theorem reaches_of_auto (hpadding : p.padding = .auto policy) (hoperand : p.operand input = .ok x)
    (hresolves : (p.padding.resolve (p.slidingWindow x)).result = .ok padding) :
    p.Reaches input x padding
      ⟨(p.slidingWindow x).height.ratio padding.height,
        (p.slidingWindow x).width.ratio padding.width⟩ := by
  obtain ⟨hs, hs'⟩ := strides_of_operand hoperand
  have hauto := Padding.resolve_eq_ok.mp hresolves
  rw [hpadding] at hauto
  exact ⟨hoperand, hresolves,
    (Window.positions_eq_ok hs).mpr ⟨(Window.samePadding_fits hs hauto.1).1, rfl⟩,
    (Window.positions_eq_ok hs').mpr ⟨(Window.samePadding_fits hs' hauto.2).1, rfl⟩⟩

/-- Once the padding is settled, an automatically padded pooling comes down to creating an output of
known sizes. -/
theorem result_infer_of_auto (hpadding : p.padding = .auto policy) (hnone : p.outputSizes = none)
    (hoperand : p.operand input = .ok x)
    (hresolves : (p.padding.resolve (p.slidingWindow x)).result = .ok padding) :
    ∃ z : Size2d Dim,
      (p.infer input).result = Operand.create input.dataType (p.layout.join (x.resized z)) ∧
      z.height.toNat = (p.slidingWindow x).height.autoCount p.rounding ∧
      z.width.toNat = (p.slidingWindow x).width.autoCount p.rounding := by
  have hreaches := reaches_of_auto hpadding hoperand hresolves
  obtain ⟨z, hz⟩ := hreaches.exists_isRounding p.rounding
  have hself : p.rounded p.rounding = p := by
    unfold rounded choosing
    rw [← hnone]
  have hresult := hreaches.result_rounded hz
  rw [hself] at hresult
  obtain ⟨hs, hs'⟩ := strides_of_operand hoperand
  have hauto := Padding.resolve_eq_ok.mp hresolves
  rw [hpadding] at hauto
  refine ⟨z, hresult, ?_, ?_⟩
  · exact Int.ofNat_inj.mp (hz.1.symm.trans (Window.round_samePadding hs hauto.1 p.rounding))
  · exact Int.ofNat_inj.mp (hz.2.symm.trans (Window.round_samePadding hs' hauto.2 p.rounding))

/-- **What an automatic padding gives in each rounding.** Without a request, every output of an
automatically padded pooling has, rounded down, a cell for each stride that the input begins, and
rounded up one more exactly when the input goes on behind the last of these positions. Once the
padding is settled, only the size of this output can be in the way. -/
theorem infer_auto_rounded (p : Pooling) (input : Operand) (policy : AutoPad)
    (hpadding : p.padding = .auto policy) (hnone : p.outputSizes = none) :
    (∀ y, (p.infer input).result = .ok y →
      ∃ x z : Activation, input.shape = p.layout.join x ∧ y.shape = p.layout.join z ∧
        z.batches = x.batches ∧ z.channels = x.channels ∧
        z.height.toNat = (p.slidingWindow x).height.autoCount p.rounding ∧
        z.width.toNat = (p.slidingWindow x).width.autoCount p.rounding) ∧
    ∀ x padding failure, p.operand input = .ok x →
      (p.padding.resolve (p.slidingWindow x)).result = .ok padding →
      (p.infer input).result = .error failure →
      ∃ z : Activation, z.batches = x.batches ∧ z.channels = x.channels ∧
        z.height.toNat = (p.slidingWindow x).height.autoCount p.rounding ∧
        z.width.toNat = (p.slidingWindow x).width.autoCount p.rounding ∧
        ¬ (⟨input.dataType, p.layout.join z⟩ : Operand).Sized ∧
        failure = .rejected (.overflow (.operandBytes input.dataType (p.layout.join z))) := by
  refine ⟨fun y hy => ?_, fun x padding failure hoperand hresolves hfailure => ?_⟩
  · obtain ⟨x, padding, v, hreaches⟩ := reaches_of_infer_eq_ok hy
    obtain ⟨z, hresult, hheight, hwidth⟩ :=
      result_infer_of_auto hpadding hnone hreaches.operand hreaches.resolves
    rw [hresult] at hy
    obtain ⟨rfl, -⟩ := Operand.create_eq_ok.mp hy
    exact ⟨x, x.resized z, shape_of_operand hreaches.operand, rfl, rfl, rfl, hheight, hwidth⟩
  · obtain ⟨z, hresult, hheight, hwidth⟩ :=
      result_infer_of_auto hpadding hnone hoperand hresolves
    rw [hresult] at hfailure
    exact ⟨x.resized z, rfl, rfl, hheight, hwidth, Operand.create_eq_error.mp hfailure⟩

/-- Single rows four apart, and three columns two apart, rounded up. -/
def skipping : Pooling where
  kind := .average
  window := ⟨1, 3⟩
  padding := .auto .sameUpper
  strides := ⟨4, 2⟩
  dilations := ⟨1, 1⟩
  layout := .nchw
  rounding := .ceil
  outputSizes := none

/-- Six rows begin two strides and go on behind the second row that is taken, which makes three;
five columns begin three strides and end with them. With too many channels only the output is in
the way. -/
theorem infer_auto_rounded_skipping :
    skipping.padding = .auto .sameUpper ∧ skipping.outputSizes = none ∧
      (skipping.infer ⟨.float32, [1, 2, 6, 5]⟩).result = .ok ⟨.float32, [1, 2, 3, 3]⟩ ∧
      (∃ x z : Activation, [1, 2, 6, 5] = skipping.layout.join x ∧
        [1, 2, 3, 3] = skipping.layout.join z ∧ z.batches = x.batches ∧ z.channels = x.channels ∧
        z.height.toNat = (skipping.slidingWindow x).height.autoCount .ceil ∧
        z.width.toNat = (skipping.slidingWindow x).width.autoCount .ceil) ∧
      ∃ failure,
        (skipping.infer ⟨.float32, [4294967295, 4294967295, 6, 5]⟩).result = .error failure ∧
        ∃ z : Activation, z.batches = 4294967295 ∧ z.channels = 4294967295 ∧
          z.height.toNat = 3 ∧ z.width.toNat = 3 ∧
          ¬ (⟨.float32, skipping.layout.join z⟩ : Operand).Sized ∧
          failure = .rejected (.overflow (.operandBytes .float32 (skipping.layout.join z))) := by
  have hok : (skipping.infer ⟨.float32, [1, 2, 6, 5]⟩).result = .ok ⟨.float32, [1, 2, 3, 3]⟩ := by
    decide +kernel
  have hoperand : skipping.operand ⟨.float32, [4294967295, 4294967295, 6, 5]⟩ =
      .ok ⟨4294967295, 4294967295, 6, 5⟩ := by decide +kernel
  have hresolves : (skipping.padding.resolve
      (skipping.slidingWindow ⟨4294967295, 4294967295, 6, 5⟩)).result =
      .ok ⟨⟨0, 1⟩, ⟨0, 1⟩⟩ := by decide +kernel
  have hfailure : (skipping.infer ⟨.float32, [4294967295, 4294967295, 6, 5]⟩).result =
      .error (.rejected (.overflow
        (.operandBytes .float32 [4294967295, 4294967295, 3, 3]))) := by decide +kernel
  refine ⟨rfl, rfl, hok, ?_, _, hfailure, ?_⟩
  · exact (infer_auto_rounded skipping _ .sameUpper rfl rfl).1 _ hok
  · exact (infer_auto_rounded skipping _ .sameUpper rfl rfl).2 _ _ _ hoperand hresolves hfailure

end Pooling

end TensorTyping
