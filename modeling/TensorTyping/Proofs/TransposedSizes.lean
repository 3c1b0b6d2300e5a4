import Mathlib
import TensorTyping.Proofs.TransposedConvolution

/-!
# The sizes of a transposed convolution

Two rules meet in the sizes of a transposed convolution. An automatic padding takes away what the
window has too much, so that a stride is left for each cell of the input; the size is then computed
from that padding, in another order and with limits of its own. A request may also name the sizes:
it is held against the least possible ones, and the sizes that would have been computed pass that
check whenever the end of the range that it allows can be counted.

* `Window.exists_transposedSamePadding_iff` — when there is an automatic padding.
* `Window.transposedSize_of_samePadding` — the size that it leaves.
* `TransposedConvolution.conclude` — the steps that follow the sizes: channels, bias and bytes.
* `Window.transposedSamePadding_multiplies` — an automatic padding multiplies the sizes by the
  strides, and only those steps can fail after it.
* `TransposedConvolution.restating` — a request that names the sizes of the output.
* `TransposedConvolution.infer_restated_iff` — when the computed sizes can be named.
-/

namespace TensorTyping

namespace Window

variable {w : Window} {policy : AutoPad} {p : AxisPadding} {outputPadding : Dim}

/-! ## Automatic padding of one axis -/

/-- All positions together cover a stride for each cell of the input when the last of them covers
its own. -/
theorem mul_stride_le_reach_iff {extra : ℕ} (hinput : 1 ≤ w.input.toNat) :
    w.input.toNat * w.stride.toNat ≤ w.reach w.input.toNat + extra ↔
      w.stride.toNat ≤ w.span + extra := by
  have hlast : w.input.toNat * w.stride.toNat =
      (w.input.toNat - 1) * w.stride.toNat + w.stride.toNat := by
    rw [Nat.sub_mul, Nat.one_mul, Nat.sub_add_cancel (Nat.le_mul_of_pos_left _ hinput)]
  rw [hlast]
  unfold reach
  omega

/-- There is an automatic padding exactly when the cells under all positions and the size aimed at
can be counted, and the last position covers its stride. -/
theorem exists_transposedSamePadding_iff (policy : AutoPad) (outputPadding : Dim) :
    (∃ p, (w.transposedSamePadding policy outputPadding).result = .ok p) ↔
      1 ≤ w.input.toNat ∧ 1 ≤ w.size.toNat ∧
        w.reach w.input.toNat + outputPadding.toNat ≤ Dim.largest.toNat ∧
        w.input.toNat * w.stride.toNat ≤ Dim.largest.toNat ∧
        w.stride.toNat ≤ w.span + outputPadding.toNat := by
  simp only [transposedSamePadding_eq_ok]
  constructor
  · rintro ⟨p, hinput, hsize, hsum, hprod, hle, -⟩
    exact ⟨hinput, hsize, hsum, hprod, (mul_stride_le_reach_iff hinput).mp hle⟩
  · rintro ⟨hinput, hsize, hsum, hprod, hstride⟩
    obtain ⟨p, hp⟩ := policy.exists_shares (le_trans (Nat.sub_le _ _) hsum)
    exact ⟨p, hinput, hsize, hsum, hprod, (mul_stride_le_reach_iff hinput).mpr hstride, hp⟩

/-- The size computed with an automatic padding is a stride for each cell of the input, and none of
the steps that lead to it can fail. -/
theorem transposedSize_of_samePadding (hstride : outputPadding.toNat < w.stride.toNat)
    (hp : (w.transposedSamePadding policy outputPadding).result = .ok p) :
    ∃ size, w.transposedSize p outputPadding = .ok size ∧
      size.toNat = w.input.toNat * w.stride.toNat := by
  obtain ⟨hinput, hsize, hsum, hprod, hle, hshares⟩ := transposedSamePadding_eq_ok.mp hp
  have htotal := hshares.add_eq
  have hone : w.stride.toNat ≤ w.input.toNat * w.stride.toNat := Nat.le_mul_of_pos_left _ hinput
  obtain ⟨size, hsize'⟩ := Dim.exists_toNat_eq hprod
  -- the padding of the output is less than a stride, so the padding fits without it as well
  exact ⟨size, transposedSize_eq_ok.mpr ⟨hinput, hsize, by omega, by omega, by omega⟩, hsize'⟩

end Window

namespace TransposedConvolution

variable {c : TransposedConvolution} {input filter : Operand} {x : Activation} {f : Filter}
  {p : Padding2d} {dataType : DataType} {size : Size2d Dim} {failure : Failure}

/-! ## The steps after the sizes -/

/-- What follows when the sizes are known: the output channels, the bias, and the bytes of the
output. -/
def conclude (c : TransposedConvolution) (dataType : DataType) (x : Activation) (f : Filter)
    (size : Size2d Dim) : Infer Operand := do
  let channels ← (Magnitude.ofDim f.outputChannels * .ofDim c.groups).dimOrOverflow
    (.transposedChannels f.outputChannels c.groups)
  requireBias "ConvTranspose2d" c.bias dataType channels
  Operand.create dataType (c.layout.join ⟨x.batches, channels, size.height, size.width⟩)

/-- Once operands and padding are settled, the sizes and these steps are left. -/
theorem result_infer (hoperands : c.operands input filter = .ok (x, f))
    (hpadding : (c.padding.resolveTransposed (c.window x f) c.outputPadding).result = .ok p) :
    (c.infer input filter).result =
      (c.outputSize (c.window x f) p).result >>= c.conclude input.dataType x f := by
  unfold infer conclude
  simp only [Traced.result_bind, Traced.result_liftM, hoperands, hpadding, Infer.ok_bind]

/-- These steps fail only because the output channels cannot be counted, because of the bias, or
because the bytes of the output cannot be counted. -/
theorem conclude_eq_error (h : c.conclude dataType x f size = .error failure) :
    (Dim.largest.toNat < f.outputChannels.toNat * c.groups.toNat ∧
      failure = .rejected (.overflow (.transposedChannels f.outputChannels c.groups))) ∨
    ∃ channels : Dim, channels.toNat = f.outputChannels.toNat * c.groups.toNat ∧
      (requireBias "ConvTranspose2d" c.bias dataType channels = .error failure ∨
        failure = .rejected (.overflow (.operandBytes dataType
          (c.layout.join ⟨x.batches, channels, size.height, size.width⟩)))) := by
  rcases Infer.bind_eq_error.mp h with hproduct | ⟨channels, hchannels, h⟩
  · obtain ⟨hnone, rfl⟩ := Magnitude.dimOrOverflow_eq_error.mp hproduct
    refine .inl ⟨?_, rfl⟩
    by_contra hle
    have hvalue : (Magnitude.ofDim f.outputChannels * .ofDim c.groups).value =
        some (f.outputChannels.toNat * c.groups.toNat) :=
      Magnitude.value_mul_eq_some.mpr
        ⟨_, _, rfl, rfl, rfl, Magnitude.lt_limit_dimension.mpr (not_lt.mp hle)⟩
    rw [hnone] at hvalue
    cases hvalue
  · obtain ⟨_, _, hleft, hright, hproduct, -⟩ :=
      Magnitude.value_mul_eq_some.mp (Magnitude.dimOrOverflow_eq_ok.mp hchannels)
    cases hleft
    cases hright
    refine .inr ⟨channels, hproduct.symm, ?_⟩
    rcases Infer.bind_eq_error.mp h with hbias | ⟨_, -, hcreate⟩
    · exact .inl hbias
    · exact .inr (Operand.create_eq_error.mp hcreate).2

/-- Under an automatic padding the sizes are a stride for each cell of the input. -/
theorem outputSize_of_auto {policy : AutoPad} (hpadding : c.padding = .auto policy)
    (hnone : c.outputSizes = none) (hmatches : c.Matches input filter x f)
    (hp : (c.padding.resolveTransposed (c.window x f) c.outputPadding).result = .ok p) :
    ∃ size, (c.outputSize (c.window x f) p).result = .ok size ∧
      size.height.toNat = x.height.toNat * c.strides.height.toNat ∧
      size.width.toNat = x.width.toNat * c.strides.width.toNat := by
  rw [Padding.resolveTransposed_eq_ok, hpadding] at hp
  obtain ⟨height, hheight, hrows⟩ :=
    Window.transposedSize_of_samePadding hmatches.outputPadding.1 hp.1
  obtain ⟨width, hwidth, hcolumns⟩ :=
    Window.transposedSize_of_samePadding hmatches.outputPadding.2 hp.2
  refine ⟨⟨height, width⟩, ?_, hrows, hcolumns⟩
  rw [outputSize_eq_ok, hnone]
  exact ⟨expands_none.mpr hheight, expands_none.mpr hwidth⟩

/-- With operands and padding settled, such a transposed convolution comes down to the steps after
the sizes. -/
theorem result_infer_of_auto {policy : AutoPad} (hpadding : c.padding = .auto policy)
    (hnone : c.outputSizes = none) (hoperands : c.operands input filter = .ok (x, f))
    (hp : (c.padding.resolveTransposed (c.window x f) c.outputPadding).result = .ok p) :
    ∃ size : Size2d Dim, (c.infer input filter).result = c.conclude input.dataType x f size ∧
      size.height.toNat = x.height.toNat * c.strides.height.toNat ∧
      size.width.toNat = x.width.toNat * c.strides.width.toNat := by
  obtain ⟨size, hsize, hsizes⟩ :=
    outputSize_of_auto hpadding hnone (operands_eq_ok.mp hoperands) hp
  refine ⟨size, ?_, hsizes⟩
  rw [result_infer hoperands hp, hsize, Infer.ok_bind]

end TransposedConvolution

/-- **An automatic padding multiplies the sizes by the strides.** It exists exactly when the sums it
is made of can be counted and the window, with the padding of the output, covers a stride. The size
is then computed without fail and is a stride for each cell of the input. So every automatically
padded transposed convolution without requested sizes has these sizes, and once its padding is
settled it can fail only for the product of the channels, the bias, or the size of the output. -/
theorem Window.transposedSamePadding_multiplies :
    (∀ (w : Window) (policy : AutoPad) (outputPadding : Dim),
      outputPadding.toNat < w.stride.toNat →
      ((∃ p, (w.transposedSamePadding policy outputPadding).result = .ok p) ↔
        1 ≤ w.input.toNat ∧ 1 ≤ w.size.toNat ∧ w.span ≤ Dim.largest.toNat ∧
          w.stride.toNat * (w.input.toNat - 1) + w.span + outputPadding.toNat ≤
            Dim.largest.toNat ∧
          w.input.toNat * w.stride.toNat ≤ Dim.largest.toNat ∧
          w.stride.toNat ≤ w.span + outputPadding.toNat) ∧
      ∀ p, (w.transposedSamePadding policy outputPadding).result = .ok p →
        ∃ size, w.transposedSize p outputPadding = .ok size ∧
          size.toNat = w.input.toNat * w.stride.toNat) ∧
    ∀ (c : TransposedConvolution) (input filter : Operand) (policy : AutoPad),
      c.padding = .auto policy → c.outputSizes = none →
      (∀ y, (c.infer input filter).result = .ok y →
        ∃ x z : Activation, input.shape = c.layout.join x ∧ y.shape = c.layout.join z ∧
          z.height.toNat = x.height.toNat * c.strides.height.toNat ∧
          z.width.toNat = x.width.toNat * c.strides.width.toNat) ∧
      ∀ x f p failure, c.operands input filter = .ok (x, f) →
        (c.padding.resolveTransposed (c.window x f) c.outputPadding).result = .ok p →
        (c.infer input filter).result = .error failure →
        (Dim.largest.toNat < f.outputChannels.toNat * c.groups.toNat ∧
          failure = .rejected (.overflow (.transposedChannels f.outputChannels c.groups))) ∨
        ∃ z : Activation, z.batches = x.batches ∧
          z.channels.toNat = f.outputChannels.toNat * c.groups.toNat ∧
          z.height.toNat = x.height.toNat * c.strides.height.toNat ∧
          z.width.toNat = x.width.toNat * c.strides.width.toNat ∧
          (requireBias "ConvTranspose2d" c.bias input.dataType z.channels = .error failure ∨
            failure = .rejected (.overflow
              (.operandBytes input.dataType (c.layout.join z)))) := by
  refine ⟨fun w policy outputPadding hstride => ⟨?_, fun p hp => ?_⟩,
    fun c input filter policy hpadding hnone => ⟨fun y hy => ?_, ?_⟩⟩
  · rw [exists_transposedSamePadding_iff]
    unfold reach
    rw [Nat.mul_comm w.stride.toNat]
    constructor
    · rintro ⟨hinput, hsize, hsum, hrest⟩
      exact ⟨hinput, hsize, by omega, hsum, hrest⟩
    · rintro ⟨hinput, hsize, -, hrest⟩
      exact ⟨hinput, hsize, hrest⟩
  · exact transposedSize_of_samePadding hstride hp
  · obtain ⟨x, z, f, p, haccepts, hcreate⟩ := TransposedConvolution.infer_eq_ok.mp hy
    obtain ⟨rfl, -⟩ := Operand.create_eq_ok.mp hcreate
    have hresolves := haccepts.padding
    rw [hpadding] at hresolves
    have hheight := haccepts.height
    have hwidth := haccepts.width
    rw [hnone] at hheight hwidth
    exact ⟨x, z, haccepts.inputShape, rfl, hheight.size_of_auto hresolves.1,
      hwidth.size_of_auto hresolves.2⟩
  · intro x f p failure hoperands hp hfailure
    obtain ⟨size, hresult, hrows, hcolumns⟩ :=
      TransposedConvolution.result_infer_of_auto hpadding hnone hoperands hp
    rw [hresult] at hfailure
    rcases TransposedConvolution.conclude_eq_error hfailure with h | ⟨channels, hchannels, h⟩
    · exact .inl h
    · exact .inr
        ⟨⟨x.batches, channels, size.height, size.width⟩, rfl, hchannels, hrows, hcolumns, h⟩

/-- Two groups, dilated rows, another stride on each axis, and padding of the output. -/
def TransposedConvolution.enlarging : TransposedConvolution where
  padding := .auto .sameLower
  strides := ⟨2, 3⟩
  dilations := ⟨2, 1⟩
  outputPadding := ⟨1, 1⟩
  outputSizes := none
  groups := 2
  layout := .nhwc
  filterLayout := .ohwi
  bias := some ⟨.float32, [6]⟩

theorem Window.transposedSamePadding_multiplies_enlarging :
    (1 : Dim).toNat < (⟨5, 3, 3, 1⟩ : Window).stride.toNat ∧
      ((⟨5, 3, 3, 1⟩ : Window).transposedSamePadding .sameLower 1).result = .ok ⟨1, 0⟩ ∧
      (∃ size, (⟨5, 3, 3, 1⟩ : Window).transposedSize ⟨1, 0⟩ 1 = .ok size ∧ size.toNat = 15) ∧
      (TransposedConvolution.enlarging.infer ⟨.float32, [1, 4, 5, 2]⟩
        ⟨.float32, [3, 3, 3, 2]⟩).result = .ok ⟨.float32, [1, 8, 15, 6]⟩ ∧
      ∃ x z : Activation, [1, 4, 5, 2] = ActivationLayout.nhwc.join x ∧
        [1, 8, 15, 6] = ActivationLayout.nhwc.join z ∧
        z.height.toNat = x.height.toNat * 2 ∧ z.width.toNat = x.width.toNat * 3 := by
  have hstride : (1 : Dim).toNat < (⟨5, 3, 3, 1⟩ : Window).stride.toNat := by decide
  have hp : ((⟨5, 3, 3, 1⟩ : Window).transposedSamePadding .sameLower 1).result = .ok ⟨1, 0⟩ := by
    decide
  have hok : (TransposedConvolution.enlarging.infer ⟨.float32, [1, 4, 5, 2]⟩
      ⟨.float32, [3, 3, 3, 2]⟩).result = .ok ⟨.float32, [1, 8, 15, 6]⟩ := by decide +kernel
  exact ⟨hstride, hp, (transposedSamePadding_multiplies.1 _ _ _ hstride).2 _ hp, hok,
    (transposedSamePadding_multiplies.2 .enlarging _ _ _ rfl rfl).1 _ hok⟩

/-! ## Naming the computed sizes -/

namespace TransposedConvolution

variable {c : TransposedConvolution} {input filter : Operand} {x z : Activation} {f : Filter}
  {p : Padding2d} {w : Window} {q : AxisPadding} {size outputPadding : Dim}

/-- The transposed convolution that asks for an output of the given sizes. -/
def restating (c : TransposedConvolution) (sizes : Size2d Dim) : TransposedConvolution :=
  { c with outputSizes := some sizes }

/-- A computed size can be named when the range that is allowed for it, one stride long from the
size without the padding of the output on, ends within the dimensions. -/
def Nameable (size outputPadding stride : Dim) : Prop :=
  size.toNat - outputPadding.toNat + stride.toNat ≤ Dim.largest.toNat

/-- A requested size is not looked at when the end of the allowed range cannot be counted. -/
theorem requireRequested_of_large {axis : String} {requested computed stride : Dim}
    (hpos : requested ≠ 0) (hlarge : Dim.largest.toNat < computed.toNat + stride.toNat) :
    (requireRequested axis requested computed stride).result =
      reject (.overflow (.transposedBound axis computed stride)) := by
  have hnone : (Magnitude.ofDim computed + .ofDim stride).value = none := by
    refine Option.eq_none_iff_forall_ne_some.mpr fun n hn => ?_
    obtain ⟨_, hcomputed, rfl, hle⟩ := Magnitude.value_add_ofDim.mp hn
    cases hcomputed
    omega
  unfold requireRequested
  simp only [Traced.result_bind, Traced.result_liftM]
  refine Infer.bind_eq_error.mpr (.inr ⟨(), require_eq_ok.mpr hpos, ?_⟩)
  exact Infer.bind_eq_error.mpr (.inl (Magnitude.dimOrOverflow_eq_error.mpr ⟨hnone, rfl⟩))

/-- The padding of the output is part of the computed size. -/
theorem outputPadding_le_of_expands (h : w.Expands q outputPadding none size) :
    outputPadding ≤ size := by
  have hsize := h.computed rfl
  have hpadding := h.padding
  exact UInt32.le_iff_toNat_le.mpr (by omega)

/-- The least size of an axis lies below the computed one by the padding of the output, and the
computed one passes the check against it when the allowed range can be counted. -/
theorem requireRequested_of_expands (axis : String)
    (h : w.Expands q outputPadding none size) (hstride : outputPadding.toNat < w.stride.toNat)
    (hpos : size ≠ 0) :
    w.transposedSize q 0 = .ok (size - outputPadding) ∧
      (Nameable size outputPadding w.stride →
        (requireRequested axis size (size - outputPadding) w.stride).result = .ok ()) ∧
      (¬ Nameable size outputPadding w.stride →
        (requireRequested axis size (size - outputPadding) w.stride).result =
          reject (.overflow (.transposedBound axis (size - outputPadding) w.stride))) := by
  have hsize := h.computed rfl
  have hpadding := h.padding
  have hleast : (size - outputPadding).toNat = size.toNat - outputPadding.toNat :=
    UInt32.toNat_sub_of_le size outputPadding (outputPadding_le_of_expands h)
  unfold Nameable
  refine ⟨Window.transposedSize_eq_ok.mpr ⟨h.input, h.nonempty, h.reachBound, hpadding, ?_⟩,
    fun hbound => ?_, fun hlarge => ?_⟩
  · show (size - outputPadding).toNat + _ = w.reach w.input.toNat + 0
    omega
  · exact requireRequested_eq_ok.mpr ⟨Dim.ne_zero_iff.mp hpos, by omega, by omega, by omega⟩
  · exact requireRequested_of_large hpos (by omega)

/-- Named again, the computed sizes are taken over, or the end of the first allowed range that
cannot be counted is reported. -/
theorem outputSize_restating (h : c.Accepts input filter x z f p) (hnone : c.outputSizes = none)
    (hheight : z.height ≠ 0) (hwidth : z.width ≠ 0) :
    (Nameable z.height c.outputPadding.height c.strides.height →
      Nameable z.width c.outputPadding.width c.strides.width →
        ((c.restating z.size).outputSize (c.window x f) p).result = .ok z.size) ∧
    (¬ Nameable z.height c.outputPadding.height c.strides.height →
      ((c.restating z.size).outputSize (c.window x f) p).result = reject (.overflow
        (.transposedBound "height" (z.height - c.outputPadding.height) c.strides.height))) ∧
    (Nameable z.height c.outputPadding.height c.strides.height →
      ¬ Nameable z.width c.outputPadding.width c.strides.width →
        ((c.restating z.size).outputSize (c.window x f) p).result = reject (.overflow
          (.transposedBound "width" (z.width - c.outputPadding.width) c.strides.width))) := by
  have hrows := h.height
  have hcolumns := h.width
  rw [hnone] at hrows hcolumns
  obtain ⟨hleast, hpass, hfail⟩ :=
    requireRequested_of_expands "height" hrows h.outputPadding.1 hheight
  obtain ⟨hleast', hpass', hfail'⟩ :=
    requireRequested_of_expands "width" hcolumns h.outputPadding.2 hwidth
  unfold outputSize restating
  simp only [Traced.result_bind, Traced.result_liftM, Traced.result_pure, hleast, hleast',
    Infer.ok_bind]
  refine ⟨fun hrow hcolumn => ?_, fun hrow => ?_, fun hrow hcolumn => ?_⟩
  · exact Infer.bind_eq_ok.mpr
      ⟨(), hpass hrow, Infer.bind_eq_ok.mpr ⟨(), hpass' hcolumn, rfl⟩⟩
  · exact Infer.bind_eq_error.mpr (.inl (hfail hrow))
  · exact Infer.bind_eq_error.mpr
      (.inr ⟨(), hpass hrow, Infer.bind_eq_error.mpr (.inl (hfail' hcolumn))⟩)

/-- **The computed sizes can be named in the request**, with the same output, exactly when on both
axes the allowed range ends within the dimensions. Otherwise the request is rejected because that
end cannot be counted, on the first axis of which this is true: the range begins at the size
computed without the padding of the output, and is one stride long. -/
theorem infer_restated_iff (c : TransposedConvolution) (input filter o : Operand) (z : Activation)
    (hnone : c.outputSizes = none) (h : (c.infer input filter).result = .ok o)
    (hshape : o.shape = c.layout.join z) (hheight : z.height ≠ 0) (hwidth : z.width ≠ 0) :
    (((c.restating z.size).infer input filter).result = .ok o ↔
      Nameable z.height c.outputPadding.height c.strides.height ∧
        Nameable z.width c.outputPadding.width c.strides.width) ∧
    (c.outputPadding.height ≤ z.height ∧ c.outputPadding.width ≤ z.width) ∧
    (¬ Nameable z.height c.outputPadding.height c.strides.height →
      ((c.restating z.size).infer input filter).result = reject (.overflow
        (.transposedBound "height" (z.height - c.outputPadding.height) c.strides.height))) ∧
    (Nameable z.height c.outputPadding.height c.strides.height →
      ¬ Nameable z.width c.outputPadding.width c.strides.width →
        ((c.restating z.size).infer input filter).result = reject (.overflow
          (.transposedBound "width" (z.width - c.outputPadding.width) c.strides.width))) := by
  obtain ⟨x, z', f, p, haccepts, hcreate⟩ := infer_eq_ok.mp h
  obtain ⟨rfl, -⟩ := Operand.create_eq_ok.mp hcreate
  obtain rfl : z' = z := c.layout.join_injective hshape
  have hoperands := operands_eq_ok.mpr haccepts.toMatches
  have hpadding := Padding.resolveTransposed_eq_ok.mpr haccepts.padding
  -- the steps after the sizes are the same, and gave the output from these sizes
  have hconclude : c.conclude input.dataType x f z'.size =
      .ok ⟨input.dataType, c.layout.join z'⟩ := by
    have hsize : (c.outputSize (c.window x f) p).result = .ok z'.size :=
      outputSize_eq_ok.mpr ⟨haccepts.height, haccepts.width⟩
    rwa [result_infer hoperands hpadding, hsize, Infer.ok_bind] at h
  have hresult : ((c.restating z'.size).infer input filter).result =
      ((c.restating z'.size).outputSize (c.window x f) p).result >>=
        c.conclude input.dataType x f :=
    result_infer (c := c.restating z'.size) hoperands hpadding
  obtain ⟨htaken, hfirst, hsecond⟩ := outputSize_restating haccepts hnone hheight hwidth
  have hrows := haccepts.height
  have hcolumns := haccepts.width
  rw [hnone] at hrows hcolumns
  rw [hresult]
  refine ⟨⟨fun hok => ?_, ?_⟩,
    ⟨outputPadding_le_of_expands hrows, outputPadding_le_of_expands hcolumns⟩, ?_, ?_⟩
  · -- an axis that cannot be named has ended the request before
    by_cases hrow : Nameable z'.height c.outputPadding.height c.strides.height
    · refine ⟨hrow, by_contra fun hcolumn => ?_⟩
      rw [hsecond hrow hcolumn] at hok
      cases hok
    · rw [hfirst hrow] at hok
      cases hok
  · rintro ⟨hrow, hcolumn⟩
    rw [htaken hrow hcolumn, Infer.ok_bind, hconclude]
  · intro hrow
    rw [hfirst hrow]
    rfl
  · intro hrow hcolumn
    rw [hsecond hrow hcolumn]
    rfl

/-- A window of one cell that leaves every size as it is. -/
def unchanging : TransposedConvolution where
  padding := .explicit ⟨⟨0, 0⟩, ⟨0, 0⟩⟩
  strides := ⟨1, 1⟩
  dilations := ⟨1, 1⟩
  outputPadding := ⟨0, 0⟩
  outputSizes := none
  groups := 1
  layout := .nchw
  filterLayout := .iohw
  bias := none

/-- The sizes 8 and 15, a cell of padding of the output in each, can be named; a height of 1 with
the largest width cannot. -/
theorem infer_restated_iff_enlarging :
    enlarging.outputSizes = none ∧
      (enlarging.infer ⟨.float32, [1, 4, 5, 2]⟩ ⟨.float32, [3, 3, 3, 2]⟩).result =
        .ok ⟨.float32, [1, 8, 15, 6]⟩ ∧
      ((enlarging.restating ⟨8, 15⟩).infer ⟨.float32, [1, 4, 5, 2]⟩
        ⟨.float32, [3, 3, 3, 2]⟩).result = .ok ⟨.float32, [1, 8, 15, 6]⟩ ∧
      unchanging.outputSizes = none ∧
      (unchanging.infer ⟨.float32, [1, 1, 1, 4294967295]⟩ ⟨.float32, [1, 1, 1, 1]⟩).result =
        .ok ⟨.float32, [1, 1, 1, 4294967295]⟩ ∧
      ((unchanging.restating ⟨1, 4294967295⟩).infer ⟨.float32, [1, 1, 1, 4294967295]⟩
        ⟨.float32, [1, 1, 1, 1]⟩).result =
        reject (.overflow (.transposedBound "width" 4294967295 1)) := by
  have hok : (enlarging.infer ⟨.float32, [1, 4, 5, 2]⟩ ⟨.float32, [3, 3, 3, 2]⟩).result =
      .ok ⟨.float32, [1, 8, 15, 6]⟩ := by decide +kernel
  have hok' : (unchanging.infer ⟨.float32, [1, 1, 1, 4294967295]⟩
      ⟨.float32, [1, 1, 1, 1]⟩).result = .ok ⟨.float32, [1, 1, 1, 4294967295]⟩ := by decide +kernel
  have hnameable : Nameable 8 1 2 ∧ Nameable 15 1 3 := by
    unfold Nameable
    decide
  have hlarge : Nameable 1 0 1 ∧ ¬ Nameable 4294967295 0 1 := by
    unfold Nameable
    decide
  refine ⟨rfl, hok, ?_, rfl, hok', ?_⟩
  · exact (infer_restated_iff enlarging _ _ _ ⟨1, 6, 8, 15⟩ rfl hok rfl (by decide)
      (by decide)).1.mpr hnameable
  · exact (infer_restated_iff unchanging _ _ _ ⟨1, 1, 1, 4294967295⟩ rfl hok' rfl (by decide)
      (by decide)).2.2.2 hlarge.1 hlarge.2

/-- The largest height is computed, but it cannot be named. -/
theorem infer_restated_overflows :
    unchanging.outputSizes = none ∧
      (unchanging.infer ⟨.float32, [1, 1, 4294967295, 1]⟩ ⟨.float32, [1, 1, 1, 1]⟩).result =
        .ok ⟨.float32, [1, 1, 4294967295, 1]⟩ ∧
      (4294967295 : Dim) ≠ 0 ∧ (1 : Dim) ≠ 0 ∧
      ((unchanging.restating ⟨4294967295, 1⟩).infer ⟨.float32, [1, 1, 4294967295, 1]⟩
        ⟨.float32, [1, 1, 1, 1]⟩).result =
        reject (.overflow (.transposedBound "height" 4294967295 1)) := by
  decide +kernel

end TransposedConvolution

end TensorTyping
