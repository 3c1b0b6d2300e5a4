import Mathlib
import TensorTyping.Operator.TransposedConvolution
import TensorTyping.Proofs.SamePadding

/-!
# Transposed convolution, and its undoing

A transposed convolution asks for an output on which the window of a convolution has one position
for each cell of the input. Several sizes do, and every one that it accepts lies within a stride
of the least. The convolution with the same attributes therefore takes the output back to the
input.

* `Window.Expands` — the sizes that an axis may be given, in natural numbers.
* `TransposedConvolution.infer_eq_ok` — when a transposed convolution succeeds, and with what.
* `TransposedConvolution.forward` — the convolution with the same attributes.
* `TransposedConvolution.forward_infer_output` — it takes every output back to the input.
-/

namespace TensorTyping

/-! ## The size of one axis -/

namespace Window

variable {w : Window} {p : AxisPadding} {outputPadding size : Dim}

theorem transposedSize_eq_ok :
    w.transposedSize p outputPadding = .ok size ↔
      1 ≤ w.input.toNat ∧ 1 ≤ w.size.toNat ∧ w.reach w.input.toNat ≤ Dim.largest.toNat ∧
        p.beginning.toNat + p.ending.toNat ≤ w.reach w.input.toNat ∧
        size.toNat + (p.beginning.toNat + p.ending.toNat) =
          w.reach w.input.toNat + outputPadding.toNat := by
  have hlargest := size.le_largest
  unfold transposedSize
  simp only [Magnitude.dimOrOverflow_eq_ok, Magnitude.value_add_ofDim, Magnitude.value_sub_ofDim,
    reach_eq_some (Magnitude.value_ofDim w.input)]
  constructor
  · rintro ⟨_, ⟨hinput, hsize, hreach, hrest⟩, hsum, -⟩
    exact ⟨hinput, hsize, hreach, by omega, by omega⟩
  · rintro ⟨hinput, hsize, hreach, hpadding, hsum⟩
    exact ⟨size.toNat - outputPadding.toNat, ⟨hinput, hsize, hreach, by omega⟩, by omega, hlargest⟩

/-- The size of an axis that a transposed window is given: the computed one, or a requested one that
is less than a stride above the one computed without padding of the output. -/
structure Expands (w : Window) (p : AxisPadding) (outputPadding : Dim) (requested : Option Dim)
    (size : Dim) : Prop where
  /-- The input has a cell. -/
  input : 1 ≤ w.input.toNat
  /-- The window has a cell. -/
  nonempty : 1 ≤ w.size.toNat
  /-- The cells under all positions are a dimension. -/
  reachBound : w.reach w.input.toNat ≤ Dim.largest.toNat
  /-- The padding takes no more than these cells. -/
  padding : p.beginning.toNat + p.ending.toNat ≤ w.reach w.input.toNat
  /-- With its padding the axis ends with the last position, or a little later. -/
  computed : requested = none →
    size.toNat + (p.beginning.toNat + p.ending.toNat) =
      w.reach w.input.toNat + outputPadding.toNat
  chosen : ∀ z ∈ requested, size = z ∧ 0 < z.toNat ∧
    w.reach w.input.toNat ≤ z.toNat + (p.beginning.toNat + p.ending.toNat) ∧
    z.toNat + (p.beginning.toNat + p.ending.toNat) <
      w.reach w.input.toNat + w.stride.toNat ∧
    w.reach w.input.toNat + w.stride.toNat ≤
      Dim.largest.toNat + (p.beginning.toNat + p.ending.toNat)

end Window

namespace TransposedConvolution

theorem requireRequested_eq_ok {axis : String} {requested computed stride : Dim} {u : Unit} :
    (requireRequested axis requested computed stride).result = .ok u ↔
      0 < requested.toNat ∧ computed.toNat ≤ requested.toNat ∧
        requested.toNat < computed.toNat + stride.toNat ∧
        computed.toNat + stride.toNat ≤ Dim.largest.toNat := by
  unfold requireRequested
  simp only [Traced.result_bind, Traced.result_liftM, Infer.bind_eq_ok, require_eq_ok,
    Dim.ne_zero_iff, Magnitude.dimOrOverflow_eq_ok, Magnitude.value_add_eq_some,
    Magnitude.value_ofDim, Option.some.injEq, Magnitude.lt_limit_dimension]
  constructor
  · rintro ⟨_, hpos, bound, ⟨_, _, rfl, rfl, hbound, hle⟩, h⟩
    split_ifs at h with hrange
    · rw [UInt32.le_iff_toNat_le, UInt32.lt_iff_toNat_lt, ← hbound] at hrange
      exact ⟨hpos, hrange.1, hrange.2, hbound ▸ hle⟩
    · simp at h
  · rintro ⟨hpos, hlo, hhi, hle⟩
    obtain ⟨bound, hbound⟩ := Dim.exists_toNat_eq hle
    refine ⟨(), hpos, bound, ⟨_, _, rfl, rfl, hbound.symm, bound.le_largest⟩, ?_⟩
    rw [if_pos ⟨UInt32.le_iff_toNat_le.mpr hlo, UInt32.lt_iff_toNat_lt.mpr (hbound ▸ hhi)⟩]
    rfl

/-- The computed size is the one given when none is requested. -/
theorem expands_none {w : Window} {p : AxisPadding} {outputPadding size : Dim} :
    w.Expands p outputPadding none size ↔ w.transposedSize p outputPadding = .ok size := by
  rw [Window.transposedSize_eq_ok]
  constructor
  · intro h
    exact ⟨h.input, h.nonempty, h.reachBound, h.padding, h.computed rfl⟩
  · rintro ⟨hinput, hsize, hreach, hpadding, hsum⟩
    exact ⟨hinput, hsize, hreach, hpadding, fun _ => hsum, nofun⟩

/-- A requested size is given when it passes its check against the computed one. -/
theorem expands_some {w : Window} {p : AxisPadding} {outputPadding size z : Dim} (axis : String) :
    w.Expands p outputPadding (some z) size ↔
      size = z ∧ ∃ computed, w.transposedSize p 0 = .ok computed ∧
        (requireRequested axis z computed w.stride).result = .ok () := by
  simp only [Window.transposedSize_eq_ok, requireRequested_eq_ok]
  constructor
  · intro h
    obtain ⟨hsize, hpos, hlo, hhi, hbound⟩ := h.chosen z rfl
    have hreach := h.reachBound
    have hpadding := h.padding
    obtain ⟨computed, hcomputed⟩ := Dim.exists_toNat_eq
      (le_trans (Nat.sub_le _ (p.beginning.toNat + p.ending.toNat)) hreach)
    refine ⟨hsize, computed, ⟨h.input, h.nonempty, hreach, hpadding, ?_⟩, hpos, ?_, ?_, ?_⟩
    · show computed.toNat + _ = w.reach w.input.toNat + 0
      omega
    · omega
    · omega
    · omega
  · rintro ⟨hsize, computed, ⟨hinput, hnonempty, hreach, hpadding, hsum⟩, hpos, hlo, hhi, hbound⟩
    replace hsum : computed.toNat + _ = w.reach w.input.toNat + 0 := hsum
    refine ⟨hinput, hnonempty, hreach, hpadding, nofun, fun z' hz' => ?_⟩
    cases hz'
    exact ⟨hsize, hpos, by omega, by omega, by omega⟩

/-! ## The specification -/

variable {c : TransposedConvolution} {input filter y : Operand} {x : Activation} {f : Filter}
  {p : Padding2d}

theorem outputSize_eq_ok {size : Size2d Dim} :
    (c.outputSize (c.window x f) p).result = .ok size ↔
      (c.window x f).height.Expands p.height c.outputPadding.height
        (c.outputSizes.map Size2d.height) size.height ∧
      (c.window x f).width.Expands p.width c.outputPadding.width
        (c.outputSizes.map Size2d.width) size.width := by
  obtain ⟨height, width⟩ := size
  unfold outputSize
  cases c.outputSizes with
  | none =>
    simp only [Option.map_none, expands_none, Traced.result_bind, Traced.result_liftM,
      Traced.result_pure, Infer.bind_eq_ok, Except.ok.injEq, Size2d.mk.injEq]
    constructor
    · rintro ⟨_, hheight, _, hwidth, rfl, rfl⟩
      exact ⟨hheight, hwidth⟩
    · rintro ⟨hheight, hwidth⟩
      exact ⟨_, hheight, _, hwidth, rfl, rfl⟩
  | some requested =>
    rw [Option.map_some, Option.map_some, expands_some "height", expands_some "width"]
    simp only [Traced.result_bind, Traced.result_liftM, Traced.result_pure, Infer.bind_eq_ok,
      Except.ok.injEq]
    constructor
    · rintro ⟨_, hheight, _, hwidth, _, hheight', _, hwidth', rfl⟩
      exact ⟨⟨rfl, _, hheight, hheight'⟩, rfl, _, hwidth, hwidth'⟩
    · rintro ⟨⟨rfl, _, hheight, hheight'⟩, rfl, _, hwidth, hwidth'⟩
      exact ⟨_, hheight, _, hwidth, (), hheight', (), hwidth', rfl⟩

/-- The input has the sizes `x`, the filter has the sizes `f`, and these fit each other and the
attributes. -/
structure Matches (c : TransposedConvolution) (input filter : Operand) (x : Activation)
    (f : Filter) : Prop where
  inputRank : input.rank = 4
  filterRank : filter.rank = 4
  inputShape : input.shape = c.layout.join x
  filterShape : filter.shape = c.filterLayout.join f
  floatingPoint : input.dataType.isFloatingPoint
  sameType : filter.dataType = input.dataType
  strides : 0 < c.strides.height.toNat ∧ 0 < c.strides.width.toNat
  dilations : 0 < c.dilations.height.toNat ∧ 0 < c.dilations.width.toNat
  groups : 0 < c.groups.toNat
  divides : c.groups.toNat ∣ x.channels.toNat
  channels : f.inputChannels = x.channels
  outputPadding : c.outputPadding.height.toNat < c.strides.height.toNat ∧
    c.outputPadding.width.toNat < c.strides.width.toNat

theorem operands_eq_ok : c.operands input filter = .ok (x, f) ↔ c.Matches input filter x f := by
  unfold operands
  simp only [Infer.bind_eq_ok, requireConvolved_eq_ok, requireSteps_eq_ok, Dim.remainder_eq_ok,
    require_eq_ok, Infer.pure_eq_ok, UInt32.lt_iff_toNat_lt]
  constructor
  · rintro ⟨_, ⟨hin, hfloat, hfil, htype⟩, _, ⟨hstrides, hdilations, hgroups⟩, x', hx, f', hf,
      rest, ⟨-, hrest⟩, _, rfl, _, hchannels, _, hpadding, hpair⟩
    obtain ⟨rfl, rfl⟩ := Prod.mk.inj hpair
    exact ⟨hin, hfil, (c.layout.split_eq_ok hin).mp hx, (c.filterLayout.split_eq_ok hfil).mp hf,
      hfloat, htype, hstrides, hdilations, hgroups, Nat.dvd_of_mod_eq_zero hrest.symm, hchannels,
      hpadding⟩
  · intro h
    exact ⟨(), ⟨h.inputRank, h.floatingPoint, h.filterRank, h.sameType⟩, (),
      ⟨h.strides, h.dilations, h.groups⟩, x, (c.layout.split_eq_ok h.inputRank).mpr h.inputShape,
      f, (c.filterLayout.split_eq_ok h.filterRank).mpr h.filterShape,
      0, ⟨Dim.ne_zero_iff.mpr h.groups, (Nat.mod_eq_zero_of_dvd h.divides).symm⟩, (), rfl,
      (), h.channels, (), h.outputPadding, rfl⟩

end TransposedConvolution

/-- The padding of a transposed convolution: as given, or as each axis computes it. -/
def Padding.ResolvesTransposed (padding : Padding) (w : Window2d) (outputPadding : Size2d Dim)
    (p : Padding2d) : Prop :=
  match padding with
  | explicit given => p = given
  | auto policy =>
    (w.height.transposedSamePadding policy outputPadding.height).result = .ok p.height ∧
      (w.width.transposedSamePadding policy outputPadding.width).result = .ok p.width

theorem Padding.resolveTransposed_eq_ok {padding : Padding} {w : Window2d}
    {outputPadding : Size2d Dim} {p : Padding2d} :
    (padding.resolveTransposed w outputPadding).result = .ok p ↔
      padding.ResolvesTransposed w outputPadding p := by
  cases padding with
  | explicit given =>
    unfold resolveTransposed ResolvesTransposed
    rw [Traced.result_pure, Except.ok.injEq]
    exact eq_comm
  | auto policy => exact Padding2d.result_ofAxes_eq_ok

namespace TransposedConvolution

variable {c : TransposedConvolution} {input filter y : Operand}

/-- All that a transposed convolution asks of a request before it looks at the size of the output:
`z` are the sizes of that output. -/
structure Accepts (c : TransposedConvolution) (input filter : Operand) (x z : Activation)
    (f : Filter) (p : Padding2d) : Prop extends c.Matches input filter x f where
  padding : c.padding.ResolvesTransposed (c.window x f) c.outputPadding p
  batches : z.batches = x.batches
  height : (c.window x f).height.Expands p.height c.outputPadding.height
    (c.outputSizes.map Size2d.height) z.height
  width : (c.window x f).width.Expands p.width c.outputPadding.width
    (c.outputSizes.map Size2d.width) z.width
  outputChannels : z.channels.toNat = f.outputChannels.toNat * c.groups.toNat
  bias : ∀ b ∈ c.bias, b.dataType = input.dataType ∧ b.shape = [z.channels]

/-- A transposed convolution succeeds for the accepted requests whose output can be counted. -/
theorem infer_eq_ok :
    (c.infer input filter).result = .ok y ↔
      ∃ x z f p, c.Accepts input filter x z f p ∧
        Operand.create input.dataType (c.layout.join z) = .ok y := by
  unfold infer
  simp only [Traced.result_bind, Traced.result_liftM, Infer.bind_eq_ok,
    Padding.resolveTransposed_eq_ok, requireBias_eq_ok, Magnitude.dimOrOverflow_eq_ok,
    Magnitude.value_mul_eq_some, Magnitude.value_ofDim, Option.some.injEq]
  constructor
  · rintro ⟨⟨x, f⟩, hoperands, p, hpadding, size, hsize, channels, ⟨_, _, rfl, rfl, hchannels, -⟩,
      _, hbias, hy⟩
    obtain ⟨hheight, hwidth⟩ := outputSize_eq_ok.mp hsize
    exact ⟨x, ⟨x.batches, channels, size.height, size.width⟩, f, p,
      ⟨operands_eq_ok.mp hoperands, hpadding, rfl, hheight, hwidth, hchannels.symm, hbias⟩, hy⟩
  · rintro ⟨x, ⟨batches, channels, height, width⟩, f, p, h, hy⟩
    obtain rfl : batches = x.batches := h.batches
    exact ⟨(x, f), operands_eq_ok.mpr h.toMatches, p, h.padding, ⟨height, width⟩,
      outputSize_eq_ok.mpr ⟨h.height, h.width⟩, channels,
      ⟨_, _, rfl, rfl, h.outputChannels.symm, channels.toNat_lt⟩, (), h.bias, hy⟩

end TransposedConvolution

/-! ## Back to the input -/

namespace Window

variable {w : Window} {p : AxisPadding} {outputPadding size : Dim} {requested : Option Dim}
  {policy : AutoPad}

/-- The same window on an axis of another size. -/
def onto (w : Window) (size : Dim) : Window :=
  { w with input := size }

theorem reach_onto (w : Window) (size : Dim) (n : ℕ) : (w.onto size).reach n = w.reach n := rfl

/-- On the axis that a transposed window was given, and under the same padding, the window has a
position for each cell of the input. -/
theorem Expands.fits_onto (h : w.Expands p outputPadding requested size)
    (hpadding : outputPadding.toNat < w.stride.toNat) :
    (w.onto size).Fits p ∧
      ((w.onto size).padded p - (w.onto size).span) / w.stride.toNat + 1 = w.input.toNat := by
  have hpadded : (w.onto size).padded p = size.toNat + (p.beginning.toNat + p.ending.toNat) :=
    Nat.add_assoc _ _ _
  -- computed or requested, the axis ends less than a stride after the last position
  have hrange : w.reach w.input.toNat ≤ (w.onto size).padded p ∧
      (w.onto size).padded p < w.reach w.input.toNat + w.stride.toNat := by
    rw [hpadded]
    cases requested with
    | none =>
      have hsize := h.computed rfl
      omega
    | some z =>
      obtain ⟨rfl, -, hlo, hhi, -⟩ := h.chosen z rfl
      exact ⟨hlo, hhi⟩
  exact Fits.of_reach h.input h.nonempty h.reachBound hrange.1 hrange.2

/-- Under an automatic padding a transposed window is given a stride for each cell of the input. -/
theorem Expands.size_of_auto (h : w.Expands p outputPadding none size)
    (hp : (w.transposedSamePadding policy outputPadding).result = .ok p) :
    size.toNat = w.input.toNat * w.stride.toNat := by
  obtain ⟨-, -, -, -, hle, hshares⟩ := transposedSamePadding_eq_ok.mp hp
  have hsize := h.computed rfl
  have htotal := hshares.add_eq
  omega

/-- On that axis the automatic padding aims at the input, whatever the padding of the transposed
window was. -/
theorem Expands.samePadding_onto (hs : 0 < w.stride.toNat)
    (h : w.Expands p outputPadding none size)
    (hp : (w.transposedSamePadding policy outputPadding).result = .ok p) :
    (w.onto size).begun = w.input.toNat ∧
      ∃ q, ((w.onto size).samePadding policy).result = .ok q := by
  have hsize := h.size_of_auto hp
  have hbegun : (w.onto size).begun = w.input.toNat := by
    show size.toNat ⌈/⌉ w.stride.toNat = w.input.toNat
    rw [hsize, Nat.mul_comm, ← smul_eq_mul, smul_ceilDiv hs]
  have hs' : 0 < (w.onto size).stride.toNat := hs
  refine ⟨hbegun, (exists_samePadding_iff policy hs').mpr ⟨?_, h.nonempty, ?_⟩⟩
  · show 1 ≤ size.toNat
    rw [hsize]
    exact Nat.mul_pos h.input hs
  · rw [hbegun, reach_onto]
    exact h.reachBound

end Window

/-- The layout under which a convolution reads the same filter: the two kinds of channels trade
their roles. -/
def TransposedFilterLayout.forward : TransposedFilterLayout → FilterLayout
  | iohw => .oihw
  | hwoi => .hwio
  | ohwi => .ihwo

/-- The sizes of a filter with the two kinds of channels exchanged. -/
def Filter.transposed (f : Filter) : Filter :=
  ⟨f.outputChannels, f.inputChannels, f.height, f.width⟩

theorem TransposedFilterLayout.join_forward (layout : TransposedFilterLayout) (f : Filter) :
    layout.forward.join f.transposed = layout.join f := by
  cases layout <;> rfl

namespace TransposedConvolution

variable {c : TransposedConvolution} {input filter y : Operand} {x z : Activation} {f : Filter}
  {p : Padding2d}

/-- The convolution with the attributes of a transposed one, and no bias. -/
def forward (c : TransposedConvolution) : Convolution where
  padding := c.padding
  strides := c.strides
  dilations := c.dilations
  groups := c.groups
  layout := c.layout
  filterLayout := c.filterLayout.forward
  bias := none

/-- The output fits the filter again, with input and output exchanged. -/
theorem Matches.forward (h : c.Matches input filter x f) (hshape : y.shape = c.layout.join z)
    (htype : y.dataType = input.dataType)
    (hchannels : z.channels.toNat = f.outputChannels.toNat * c.groups.toNat) :
    c.forward.Matches y filter z f.transposed where
  inputRank := by
    unfold Operand.rank
    rw [hshape, c.layout.length_join]
  filterRank := h.filterRank
  inputShape := hshape
  filterShape := h.filterShape.trans (c.filterLayout.join_forward f).symm
  floatingPoint := htype ▸ h.floatingPoint
  sameType := h.sameType.trans htype.symm
  strides := h.strides
  dilations := h.dilations
  groups := h.groups
  divides := ⟨f.outputChannels.toNat, by rw [hchannels, Nat.mul_comm]; rfl⟩
  share := by
    show f.outputChannels.toNat = z.channels.toNat / c.groups.toNat
    rw [hchannels, Nat.mul_div_cancel _ h.groups]

/-- The padding resolves again, and the window has a position for each cell of the input. -/
theorem Accepts.forward_padding (h : c.Accepts input filter x z f p)
    (hmode : (∃ given, c.padding = .explicit given) ∨ c.outputSizes = none) :
    ∃ q, c.padding.Resolves (c.forward.window z f.transposed) q ∧
      ((c.window x f).height.onto z.height).Fits q.height ∧
      (((c.window x f).height.onto z.height).padded q.height - (c.window x f).height.span)
        / c.strides.height.toNat + 1 = x.height.toNat ∧
      ((c.window x f).width.onto z.width).Fits q.width ∧
      (((c.window x f).width.onto z.width).padded q.width - (c.window x f).width.span)
        / c.strides.width.toNat + 1 = x.width.toNat := by
  have hresolves := h.padding
  cases hpadding : c.padding with
  | explicit given =>
    rw [hpadding] at hresolves
    obtain ⟨hheight, hheight'⟩ := h.height.fits_onto h.outputPadding.1
    obtain ⟨hwidth, hwidth'⟩ := h.width.fits_onto h.outputPadding.2
    exact ⟨p, hresolves, hheight, hheight', hwidth, hwidth'⟩
  | auto policy =>
    have hnone : c.outputSizes = none := by
      refine hmode.resolve_left fun ⟨given, hgiven⟩ => ?_
      rw [hpadding] at hgiven
      cases hgiven
    have hheight := h.height
    have hwidth := h.width
    rw [hnone] at hheight hwidth
    rw [hpadding] at hresolves
    obtain ⟨hbegun, q, hq⟩ := hheight.samePadding_onto h.strides.1 hresolves.1
    obtain ⟨hbegun', q', hq'⟩ := hwidth.samePadding_onto h.strides.2 hresolves.2
    obtain ⟨hfits, hcount⟩ := Window.samePadding_fits h.strides.1 hq
    obtain ⟨hfits', hcount'⟩ := Window.samePadding_fits h.strides.2 hq'
    exact ⟨.ofAxes q q', ⟨hq, hq'⟩, hfits, hcount.trans hbegun, hfits', hcount'.trans hbegun'⟩

/-- **A transposed convolution is undone by the convolution with the same attributes**, under any
given padding, and under an automatic one unless the size of the output was requested. -/
theorem forward_infer_output (c : TransposedConvolution) (input filter y : Operand)
    (hsized : input.Sized)
    (hmode : (∃ given, c.padding = .explicit given) ∨ c.outputSizes = none)
    (h : (c.infer input filter).result = .ok y) :
    (c.forward.infer y filter).result = .ok input := by
  obtain ⟨x, z, f, p, haccepts, hy⟩ := infer_eq_ok.mp h
  obtain ⟨rfl, -⟩ := Operand.create_eq_ok.mp hy
  obtain ⟨q, hresolves, hheight, hheight', hwidth, hwidth'⟩ := haccepts.forward_padding hmode
  refine Convolution.infer_eq_ok.mpr ⟨z, f.transposed, q,
    ⟨haccepts.toMatches.forward rfl rfl haccepts.outputChannels, hresolves, hheight, hwidth, nofun⟩,
    x.height, x.width, hheight'.symm, hwidth'.symm, Operand.create_eq_ok.mpr ⟨?_, hsized⟩⟩
  -- batches and channels come back as they were, so the shape is that of the input
  have hshape : input.shape = c.layout.join ⟨z.batches, f.inputChannels, x.height, x.width⟩ := by
    rw [haccepts.inputShape, haccepts.batches, haccepts.channels]
  exact congrArg (Operand.mk input.dataType) hshape

/-- Two groups, a dilated window, uneven padding and the largest size that can be requested on each
axis. -/
def grouped : TransposedConvolution where
  padding := .explicit ⟨⟨1, 0⟩, ⟨0, 1⟩⟩
  strides := ⟨2, 3⟩
  dilations := ⟨1, 2⟩
  outputPadding := ⟨1, 2⟩
  outputSizes := some ⟨6, 9⟩
  groups := 2
  layout := .nhwc
  filterLayout := .hwoi
  bias := some ⟨.float32, [10]⟩

theorem forward_infer_output_grouped :
    (⟨.float32, [1, 3, 2, 4]⟩ : Operand).Sized ∧
      (grouped.infer ⟨.float32, [1, 3, 2, 4]⟩ ⟨.float32, [2, 3, 5, 4]⟩).result =
        .ok ⟨.float32, [1, 6, 9, 10]⟩ ∧
      (grouped.forward.infer ⟨.float32, [1, 6, 9, 10]⟩ ⟨.float32, [2, 3, 5, 4]⟩).result =
        .ok ⟨.float32, [1, 3, 2, 4]⟩ := by
  have hsized : (⟨.float32, [1, 3, 2, 4]⟩ : Operand).Sized := by decide
  have hok : (grouped.infer ⟨.float32, [1, 3, 2, 4]⟩ ⟨.float32, [2, 3, 5, 4]⟩).result =
      .ok ⟨.float32, [1, 6, 9, 10]⟩ := by decide
  exact ⟨hsized, hok, forward_infer_output grouped _ _ _ hsized (.inl ⟨_, rfl⟩) hok⟩

end TransposedConvolution

end TensorTyping
