import Mathlib
import TensorTyping.Proofs.TransposedConvolution

/-!
# A convolution, taken back to its input

The positions of a window leave up to a stride of unused cells at the end of an axis, so several
inputs of a convolution share the sizes of one output. A transposed convolution that is told the
size of the input finds it again: all sizes with the same positions are the `stride` ones that it
accepts. Only the 32 bits in which it counts, and a padding that leaves nothing of the axis, can
keep it from that.

* `Window.Fits.reach_bounds` — an axis ends within a stride of the last position.
* `Window.Recoverable` — the cells of an axis can be counted back from its positions.
* `Window.expands_onto_iff` — the transposed window accepts the size of such an axis, and no other.
* `Convolution.backward` — the transposed convolution with the same attributes and a given size.
* `Convolution.backward_infer_output` — when it takes an output back to the input.
-/

namespace TensorTyping

/-! ## One axis -/

namespace Window

variable {w : Window} {p : AxisPadding} {n : ℕ}

/-- The padded axis ends with the last position, or less than a stride after it. -/
theorem Fits.reach_bounds (h : w.Fits p) (hs : 0 < w.stride.toNat)
    (hn : n = (w.padded p - w.span) / w.stride.toNat + 1) :
    w.reach n ≤ w.padded p ∧ w.padded p < w.reach n + w.stride.toNat := by
  have hroom := h.room
  have hlo : (n - 1) * w.stride.toNat ≤ w.padded p - w.span := by
    rw [hn, Nat.add_sub_cancel]
    exact Nat.div_mul_le_self _ _
  have hhi : w.padded p - w.span < (n - 1) * w.stride.toNat + w.stride.toNat := by
    rw [hn, Nat.add_sub_cancel]
    exact Nat.lt_div_mul_add hs
  show (n - 1) * w.stride.toNat + w.span ≤ w.padded p ∧
    w.padded p < (n - 1) * w.stride.toNat + w.span + w.stride.toNat
  omega

/-- The cells under `n` positions can be counted in 32 bits, and so can the size that is left of
them without the padding, a stride further. -/
structure Recoverable (w : Window) (p : AxisPadding) (n : ℕ) : Prop where
  reachBound : w.reach n < 2 ^ 32
  padding : p.beginning.toNat + p.ending.toNat ≤ w.reach n
  sizeBound : w.reach n - p.beginning.toNat - p.ending.toNat + w.stride.toNat < 2 ^ 32

/-- The transposed window that is given the positions of a window accepts the size of the axis on
which these were counted, exactly when the axis is not empty and its cells can be counted back. -/
theorem expands_onto_iff {d : Dim} (h : w.Fits p) (hs : 0 < w.stride.toNat)
    (hd : d.toNat = (w.padded p - w.span) / w.stride.toNat + 1) :
    (w.onto d).Expands p 0 (some w.input) w.input ↔ w.input ≠ 0 ∧ w.Recoverable p d.toNat := by
  have hlargest : Dim.largest.toNat = 2 ^ 32 - 1 := rfl
  obtain ⟨hlo, hhi⟩ := h.reach_bounds hs hd
  have hpadded : w.padded p = w.input.toNat + (p.beginning.toNat + p.ending.toNat) :=
    Nat.add_assoc _ _ _
  rw [hpadded] at hlo hhi
  constructor
  · intro hexpands
    obtain ⟨-, hpos, -, -, hbound⟩ := hexpands.chosen w.input rfl
    have hreach : w.reach d.toNat ≤ Dim.largest.toNat := hexpands.reachBound
    have hpadding : p.beginning.toNat + p.ending.toNat ≤ w.reach d.toNat := hexpands.padding
    replace hbound : w.reach d.toNat + w.stride.toNat ≤
      Dim.largest.toNat + (p.beginning.toNat + p.ending.toNat) := hbound
    exact ⟨Dim.ne_zero_iff.mpr hpos, by omega, hpadding, by omega⟩
  · rintro ⟨hne, hrec⟩
    have hreach := hrec.reachBound
    have hpadding := hrec.padding
    have hsize := hrec.sizeBound
    have hinput : 1 ≤ d.toNat := by
      rw [hd]
      exact Nat.le_add_left 1 _
    have hreach' : w.reach d.toNat ≤ Dim.largest.toNat := by omega
    have hbound : w.reach d.toNat + w.stride.toNat ≤
      Dim.largest.toNat + (p.beginning.toNat + p.ending.toNat) := by omega
    refine ⟨hinput, h.nonempty, hreach', hpadding, nofun, fun z hz => ?_⟩
    cases hz
    exact ⟨rfl, Dim.ne_zero_iff.mp hne, hlo, hhi, hbound⟩

end Window

/-! ## Filters -/

/-- The layout under which a transposed convolution reads the same filter, with the two kinds of
channels in each other's role. There is none with the output channels first and the input channels
last. -/
def FilterLayout.backward? : FilterLayout → Option TransposedFilterLayout
  | oihw => some .iohw
  | hwio => some .hwoi
  | ihwo => some .ohwi
  | ohwi => none

theorem FilterLayout.backward?_eq_some {layout : FilterLayout} {back : TransposedFilterLayout} :
    layout.backward? = some back ↔ layout = back.forward := by
  cases layout <;> cases back <;> decide

/-! ## The convolution -/

namespace Convolution

variable {c : Convolution} {input filter y : Operand} {x z : Activation} {f : Filter}
  {layout : TransposedFilterLayout} {given : Padding2d}

/-- The transposed convolution with the attributes of a convolution, that is asked for an output of
the given sizes. -/
def backward (c : Convolution) (layout : TransposedFilterLayout) (sizes : Size2d Dim) :
    TransposedConvolution where
  padding := c.padding
  strides := c.strides
  dilations := c.dilations
  outputPadding := ⟨0, 0⟩
  outputSizes := some sizes
  groups := c.groups
  layout := c.layout
  filterLayout := layout
  bias := none

/-- The transposed convolution reads the filter with the two kinds of channels exchanged. -/
theorem Matches.filterShape_backward (h : c.Matches input filter x f)
    (hlayout : c.filterLayout = layout.forward) : filter.shape = layout.join f.transposed := by
  rw [h.filterShape, hlayout]
  exact layout.join_forward f.transposed

/-- The output fits the filter again, with input and output exchanged, when it can be shared out
among the groups. -/
theorem Matches.backward_iff (sizes : Size2d Dim) (h : c.Matches input filter x f)
    (hlayout : c.filterLayout = layout.forward) (hshape : y.shape = c.layout.join z)
    (htype : y.dataType = input.dataType) (hchannels : z.channels = f.outputChannels) :
    (c.backward layout sizes).Matches y filter z f.transposed ↔
      c.groups.toNat ∣ f.outputChannels.toNat := by
  constructor
  · intro hback
    have hdivides : c.groups.toNat ∣ z.channels.toNat := hback.divides
    rwa [hchannels] at hdivides
  · intro hdivides
    have hrank : y.rank = 4 := by
      show y.shape.length = 4
      rw [hshape, c.layout.length_join]
    exact {
      inputRank := hrank
      filterRank := h.filterRank
      inputShape := hshape
      filterShape := h.filterShape_backward hlayout
      floatingPoint := htype ▸ h.floatingPoint
      sameType := h.sameType.trans htype.symm
      strides := h.strides
      dilations := h.dilations
      groups := h.groups
      divides := hchannels ▸ hdivides
      channels := hchannels.symm
      outputPadding := h.strides }

/-- The transposed convolution accepts an output together with the size of the input, exactly when
that input is not empty, the groups divide the output channels, and both axes can be counted
back. -/
theorem Accepts.backward_iff (h : c.Accepts input filter x f given)
    (hpadding : c.padding = .explicit given) (hlayout : c.filterLayout = layout.forward)
    (hshape : y.shape = c.layout.join z) (htype : y.dataType = input.dataType)
    (hbatches : z.batches = x.batches) (hchannels : z.channels = f.outputChannels)
    (hheight : z.height.toNat = ((c.window x f).height.padded given.height
      - (c.window x f).height.span) / c.strides.height.toNat + 1)
    (hwidth : z.width.toNat = ((c.window x f).width.padded given.width
      - (c.window x f).width.span) / c.strides.width.toNat + 1) :
    (c.backward layout x.size).Accepts y filter z x f.transposed given ↔
      (x.height ≠ 0 ∧ x.width ≠ 0) ∧ c.groups.toNat ∣ f.outputChannels.toNat ∧
        (c.window x f).height.Recoverable given.height z.height.toNat ∧
        (c.window x f).width.Recoverable given.width z.width.toNat := by
  have hmatches := h.toMatches.backward_iff x.size hlayout hshape htype hchannels
  have hrows := Window.expands_onto_iff h.height h.strides.1 hheight
  have hcolumns := Window.expands_onto_iff h.width h.strides.2 hwidth
  constructor
  · intro hback
    obtain ⟨hheight', hrecover⟩ := hrows.mp hback.height
    obtain ⟨hwidth', hrecover'⟩ := hcolumns.mp hback.width
    exact ⟨⟨hheight', hwidth'⟩, hmatches.mp hback.toMatches, hrecover, hrecover'⟩
  · rintro ⟨⟨hheight', hwidth'⟩, hdivides, hrecover, hrecover'⟩
    have hresolves : c.padding.ResolvesTransposed
        ((c.backward layout x.size).window z f.transposed) ⟨0, 0⟩ given := by
      rw [hpadding]
      rfl
    -- each group has its share of the input channels, and together they are all of them
    have hall : x.channels.toNat = f.inputChannels.toNat * c.groups.toNat := by
      rw [h.share, Nat.div_mul_cancel h.divides]
    exact ⟨hmatches.mpr hdivides, hresolves, hbatches.symm, hrows.mpr ⟨hheight', hrecover⟩,
      hcolumns.mpr ⟨hwidth', hrecover'⟩, hall, nofun⟩

/-- **A convolution is taken back to its input by the transposed convolution that is asked for the
sizes of the input**, under a given padding. The input has to be without an empty spatial axis, the
groups have to divide the output channels, and the cells of both axes have to be countable in 32
bits; no other condition is needed, and none of these can be spared. -/
theorem backward_infer_output (c : Convolution) (given : Padding2d)
    (layout : TransposedFilterLayout) (input filter y : Operand) (x z : Activation) (f : Filter)
    (hpadding : c.padding = .explicit given) (hlayout : c.filterLayout.backward? = some layout)
    (hsized : input.Sized) (hinput : input.shape = c.layout.join x)
    (hfilter : filter.shape = c.filterLayout.join f) (houtput : y.shape = c.layout.join z)
    (h : (c.infer input filter).result = .ok y) :
    ((c.backward layout x.size).infer y filter).result = .ok input ↔
      (x.height ≠ 0 ∧ x.width ≠ 0) ∧ c.groups.toNat ∣ f.outputChannels.toNat ∧
        (c.window x f).height.Recoverable given.height z.height.toNat ∧
        (c.window x f).width.Recoverable given.width z.width.toNat := by
  have hforward := FilterLayout.backward?_eq_some.mp hlayout
  -- the sizes that the convolution read and gave are those of the statement
  obtain ⟨x', f', p, haccepts, height, width, hheight, hwidth, hcreate⟩ := infer_eq_ok.mp h
  obtain ⟨rfl, -⟩ := Operand.create_eq_ok.mp hcreate
  obtain rfl : x' = x := c.layout.join_injective (haccepts.inputShape.symm.trans hinput)
  obtain rfl : f' = f := c.filterLayout.join_injective (haccepts.filterShape.symm.trans hfilter)
  obtain rfl : ⟨x'.batches, f'.outputChannels, height, width⟩ = z :=
    c.layout.join_injective houtput
  have hresolves := haccepts.padding
  rw [hpadding] at hresolves
  obtain rfl : p = given := hresolves
  rw [← haccepts.backward_iff hpadding hforward houtput rfl rfl rfl hheight hwidth,
    TransposedConvolution.infer_eq_ok]
  constructor
  · rintro ⟨u, v, g, q, hback, hcreate'⟩
    -- and so are those that the transposed convolution read and gave
    have hread := haccepts.toMatches.filterShape_backward hforward
    obtain ⟨hgiven, -⟩ := Operand.create_eq_ok.mp hcreate'
    have hshape : c.layout.join v = c.layout.join x' :=
      (congrArg Operand.shape hgiven).symm.trans hinput
    obtain rfl : u = _ := c.layout.join_injective (hback.inputShape.symm.trans houtput)
    obtain rfl : g = _ := layout.join_injective (hback.filterShape.symm.trans hread)
    obtain rfl : v = x' := c.layout.join_injective hshape
    have hresolves' : c.padding.ResolvesTransposed _ _ q := hback.padding
    rw [hpadding] at hresolves'
    obtain rfl : q = p := hresolves'
    exact hback
  · intro hback
    have hwritten : input = ⟨input.dataType, c.layout.join x'⟩ := by
      rw [← hinput]
    exact ⟨_, _, _, _, hback, Operand.create_eq_ok.mpr ⟨hwritten, hsized⟩⟩

/-- Two groups, a dilated window and uneven padding. -/
def grouped : Convolution where
  padding := .explicit ⟨⟨1, 0⟩, ⟨0, 1⟩⟩
  strides := ⟨2, 3⟩
  dilations := ⟨1, 2⟩
  groups := 2
  layout := .nhwc
  filterLayout := .hwio
  bias := none

/-- On both axes the input is the largest of those that share the output. -/
theorem backward_infer_output_grouped :
    (⟨.float32, [1, 6, 9, 10]⟩ : Operand).Sized ∧
      (grouped.infer ⟨.float32, [1, 6, 9, 10]⟩ ⟨.float32, [2, 3, 5, 4]⟩).result =
        .ok ⟨.float32, [1, 3, 2, 4]⟩ ∧
      ((grouped.backward .hwoi ⟨6, 9⟩).infer ⟨.float32, [1, 3, 2, 4]⟩
        ⟨.float32, [2, 3, 5, 4]⟩).result = .ok ⟨.float32, [1, 6, 9, 10]⟩ := by
  have hsized : (⟨.float32, [1, 6, 9, 10]⟩ : Operand).Sized := by decide
  have hok : (grouped.infer ⟨.float32, [1, 6, 9, 10]⟩ ⟨.float32, [2, 3, 5, 4]⟩).result =
      .ok ⟨.float32, [1, 3, 2, 4]⟩ := by decide +kernel
  have hrows : (grouped.window ⟨1, 10, 6, 9⟩ ⟨5, 4, 2, 3⟩).height.Recoverable ⟨1, 0⟩ 3 :=
    ⟨by decide, by decide, by decide⟩
  have hcolumns : (grouped.window ⟨1, 10, 6, 9⟩ ⟨5, 4, 2, 3⟩).width.Recoverable ⟨0, 1⟩ 2 :=
    ⟨by decide, by decide, by decide⟩
  have hback := backward_infer_output grouped _ .hwoi _ _ _ ⟨1, 10, 6, 9⟩ ⟨1, 4, 3, 2⟩ ⟨5, 4, 2, 3⟩
    rfl rfl hsized rfl rfl rfl hok
  exact ⟨hsized, hok, hback.mpr ⟨by decide, by decide, hrows, hcolumns⟩⟩

end Convolution

end TensorTyping
