import Mathlib
import TensorTyping.Operator.Normalization
import TensorTyping.Proofs.Agreement
import TensorTyping.Proofs.OperandSize

/-!
# Layouts do not matter

A layout is a way to write named sizes as a shape. The operators over two spatial axes read the
sizes, compute with them by name, and write the result in the layout of the input. One tensor in two
layouts therefore meets the same rules in the same order. The layouts meet once more at the end,
where the bytes of the output are counted in the order of its axes; without an empty axis the order
does not matter there either.

* `Infer.computedShape?` — the shape of an operand, before its bytes are counted.
* `Operand.SameTensor` — one tensor, written in two ways.
* `ActivationLayout.Computes` — what holds of the sizes that an inference computed.
* `Convolution.agrees_inLayouts`, … — each operator in two layouts.
* `infer_agrees_in_layouts` — all of them together.
-/

namespace TensorTyping

/-! ## Computed shapes -/

namespace Infer

/-- The shape that was computed for an operand, whether or not its bytes could be counted. -/
def computedShape? : Infer Operand → Option Shape
  | .ok y => some y.shape
  | .error (.rejected (.overflow (.operandBytes _ s))) => some s
  | _ => none

theorem computedShape?_create (dataType : DataType) (s : Shape) :
    computedShape? (Operand.create dataType s) = some s := by
  unfold Operand.create require
  dsimp only
  split_ifs
  · rfl
  · rfl

end Infer

open Infer (Agrees)

/-! ## One tensor in two layouts -/

/-- One tensor, with its sizes written as a shape in two ways. -/
structure Operand.SameTensor {α : Type} (write write' : α → Shape) (a b : Operand) : Prop where
  sameType : a.dataType = b.dataType
  sameSizes : ∃ x, a.shape = write x ∧ b.shape = write' x

/-- The sizes that were computed for an output in the layout satisfy `P`. -/
def ActivationLayout.Computes (layout : ActivationLayout) (P : Activation → Prop)
    (y : Infer Operand) : Prop :=
  ∀ z, y.computedShape? = some (layout.join z) → P z

/-- An activation with a batch and a channel. -/
def Activation.Populated (z : Activation) : Prop :=
  z.batches ≠ 0 ∧ z.channels ≠ 0

/-- An activation without an empty axis. -/
def Activation.Nonempty (z : Activation) : Prop :=
  z.Populated ∧ z.height ≠ 0 ∧ z.width ≠ 0

namespace ActivationLayout

variable {layout layout' : ActivationLayout} {x z : Activation}

/-- Every layout writes the same dimensions. -/
theorem join_perm (layout layout' : ActivationLayout) (z : Activation) :
    (layout.join z).Perm (layout'.join z) := by
  have hlast : ([z.channels] ++ [z.height, z.width]).Perm ([z.height, z.width] ++ [z.channels]) :=
    List.perm_append_comm
  cases layout with
  | nchw =>
    cases layout' with
    | nchw => exact .refl _
    | nhwc => exact hlast.cons z.batches
  | nhwc =>
    cases layout' with
    | nchw => exact hlast.symm.cons z.batches
    | nhwc => exact .refl _

theorem zero_not_mem_join (layout : ActivationLayout) (hz : z.Nonempty) : 0 ∉ layout.join z := by
  obtain ⟨⟨hbatches, hchannels⟩, hheight, hwidth⟩ := hz
  cases layout with
  | nchw => simp [join, hbatches.symm, hchannels.symm, hheight.symm, hwidth.symm]
  | nhwc => simp [join, hbatches.symm, hchannels.symm, hheight.symm, hwidth.symm]

/-- The size of an output without an empty axis is judged alike in both layouts. -/
theorem create_agrees (layout layout' : ActivationLayout) (dataType : DataType) (hz : z.Nonempty) :
    Agrees (Operand.SameTensor layout.join layout'.join)
      (Operand.create dataType (layout.join z)) (Operand.create dataType (layout'.join z)) := by
  have hsized := Operand.sized_iff_of_perm (x := ⟨dataType, layout.join z⟩)
    (y := ⟨dataType, layout'.join z⟩) rfl (layout.join_perm layout' z)
    (layout.zero_not_mem_join hz)
  unfold Operand.create require
  dsimp only
  by_cases h : (⟨dataType, layout.join z⟩ : Operand).Sized
  · rw [if_pos h, if_pos (hsized.mp h)]
    exact .ok ⟨rfl, z, rfl, rfl⟩
  · rw [if_neg h, if_neg (fun h' => h (hsized.mpr h'))]
    exact .rejected rfl

/-- A guard on an output at its creation is one on its sizes. -/
theorem Computes.create {P : Activation → Prop} {dataType : DataType}
    (h : layout.Computes P (Operand.create dataType (layout.join z))) : P z :=
  h z (Infer.computedShape?_create dataType _)

/-- The sizes of an output that was created are those computed for it. -/
theorem Computes.of_eq_ok {P : Activation → Prop} {dataType : DataType} {y : Infer Operand}
    (z : Activation) (hy : y = .ok ⟨dataType, layout.join z⟩) (hz : P z) :
    layout.Computes P y := by
  rw [hy]
  intro z' hz'
  obtain rfl : z = z' := layout.join_injective (Option.some.inj hz')
  exact hz

end ActivationLayout

theorem Operand.requireRank_of_length {type : DataType} {s : Shape} {n : ℕ} {subject : String}
    (h : s.length = n) : (⟨type, s⟩ : Operand).requireRank n subject = .ok () :=
  if_pos h

/-! ## Convolution -/

/-- Shapes of rank 4 do not matter to the rules on ranks and types. -/
theorem requireConvolved_congr {operator : String} {type filterType : DataType}
    {s s' t t' : Shape} (hs : s.length = 4) (hs' : s'.length = 4) (ht : t.length = 4)
    (ht' : t'.length = 4) :
    requireConvolved operator ⟨type, s⟩ ⟨filterType, t⟩ =
      requireConvolved operator ⟨type, s'⟩ ⟨filterType, t'⟩ := by
  unfold requireConvolved
  rw [Operand.requireRank_of_length hs, Operand.requireRank_of_length hs',
    Operand.requireRank_of_length ht, Operand.requireRank_of_length ht']
  rfl

namespace Convolution

variable {c : Convolution} {L L' : ActivationLayout} {F F' : FilterLayout} {x : Activation}
  {f : Filter} {type filterType : DataType}

/-- The convolution for operands in other layouts. -/
def inLayouts (c : Convolution) (layout : ActivationLayout) (filterLayout : FilterLayout) :
    Convolution :=
  { c with layout := layout, filterLayout := filterLayout }

/-- The sizes that are read do not depend on the layouts in which they were written. -/
theorem operands_inLayouts :
    (c.inLayouts L F).operands ⟨type, L.join x⟩ ⟨filterType, F.join f⟩ =
      (c.inLayouts L' F').operands ⟨type, L'.join x⟩ ⟨filterType, F'.join f⟩ := by
  unfold operands inLayouts
  rw [requireConvolved_congr L.length_join (L'.length_join (x := x)) F.length_join
    (F'.length_join (f := f))]
  simp only [ActivationLayout.split_join, FilterLayout.split_join]

theorem agrees_inLayouts (c : Convolution)
    (hguard : L.Computes Activation.Populated
      ((c.inLayouts L F).infer ⟨type, L.join x⟩ ⟨filterType, F.join f⟩).result) :
    Agrees (Operand.SameTensor L.join L'.join)
      ((c.inLayouts L F).infer ⟨type, L.join x⟩ ⟨filterType, F.join f⟩).result
      ((c.inLayouts L' F').infer ⟨type, L'.join x⟩ ⟨filterType, F'.join f⟩).result := by
  unfold infer at hguard ⊢
  rw [@operands_inLayouts c L L' F F'] at hguard ⊢
  simp only [Traced.result_bind, Traced.result_liftM, Traced.result_emit] at hguard ⊢
  refine .bind_common (operands_faultless _ _ _) (fun (x, f) hoperands hguard => ?_) hguard
  have hstrides := (operands_eq_ok.mp hoperands).strides
  refine .bind_common (Padding.resolve_faultless _ _) (fun p _ hguard => ?_) hguard
  refine .bind_common (Window.positions_faultless _ _ _) (fun _ hheight hguard => ?_) hguard
  refine .bind_common (Window.positions_faultless _ _ _) (fun _ hwidth hguard => ?_) hguard
  refine .bind_common (.of_eq_ok rfl) (fun _ _ hguard => ?_) hguard
  refine .bind_common (requireBias_faultless _ _ _ _) (fun _ _ hguard => ?_) hguard
  -- the positions are dimensions other than zero, so only batches and channels need the guard
  obtain ⟨hfloor, hheight⟩ := (Window.ofInt_positions hstrides.1 hheight).1
  obtain ⟨hfloor', hwidth⟩ := (Window.ofInt_positions hstrides.2 hwidth).1
  refine .bind_common hfloor (fun height hheight' hguard => ?_) hguard
  refine .bind_common hfloor' (fun width hwidth' hguard => ?_) hguard
  exact L.create_agrees L' type ⟨hguard.create, hheight _ hheight', hwidth _ hwidth'⟩

end Convolution

/-! ## Transposed convolution -/

namespace TransposedConvolution

variable {c : TransposedConvolution} {L L' : ActivationLayout} {F F' : TransposedFilterLayout}
  {x : Activation} {f : Filter} {type filterType : DataType}

/-- The transposed convolution for operands in other layouts. -/
def inLayouts (c : TransposedConvolution) (layout : ActivationLayout)
    (filterLayout : TransposedFilterLayout) : TransposedConvolution :=
  { c with layout := layout, filterLayout := filterLayout }

theorem operands_inLayouts :
    (c.inLayouts L F).operands ⟨type, L.join x⟩ ⟨filterType, F.join f⟩ =
      (c.inLayouts L' F').operands ⟨type, L'.join x⟩ ⟨filterType, F'.join f⟩ := by
  unfold operands inLayouts
  rw [requireConvolved_congr L.length_join (L'.length_join (x := x)) F.length_join
    (F'.length_join (f := f))]
  simp only [ActivationLayout.split_join, TransposedFilterLayout.split_join]

theorem agrees_inLayouts (c : TransposedConvolution)
    (hguard : L.Computes Activation.Nonempty
      ((c.inLayouts L F).infer ⟨type, L.join x⟩ ⟨filterType, F.join f⟩).result) :
    Agrees (Operand.SameTensor L.join L'.join)
      ((c.inLayouts L F).infer ⟨type, L.join x⟩ ⟨filterType, F.join f⟩).result
      ((c.inLayouts L' F').infer ⟨type, L'.join x⟩ ⟨filterType, F'.join f⟩).result := by
  unfold infer at hguard ⊢
  rw [@operands_inLayouts c L L' F F'] at hguard ⊢
  simp only [Traced.result_bind, Traced.result_liftM] at hguard ⊢
  refine .bind_common (operands_faultless _ _ _) (fun (x, f) _ hguard => ?_) hguard
  refine .bind_common (Padding.resolveTransposed_faultless _ _ _) (fun p _ hguard => ?_) hguard
  refine .bind_common (outputSize_faultless _ _ _) (fun size _ hguard => ?_) hguard
  refine .bind_common (Magnitude.dimOrOverflow_faultless _ _) (fun channels _ hguard => ?_) hguard
  refine .bind_common (requireBias_faultless _ _ _ _) (fun _ _ hguard => ?_) hguard
  exact L.create_agrees L' type hguard.create

-- A filter without output channels: the layouts disagree on where the empty axis of the output is
-- met, so only the one that meets it early can count the bytes.
example :
    let c : TransposedConvolution :=
      { padding := .explicit ⟨⟨0, 0⟩, ⟨0, 0⟩⟩, strides := ⟨1, 1⟩, dilations := ⟨1, 1⟩,
        outputPadding := ⟨0, 0⟩, outputSizes := none, groups := 1, layout := .nchw,
        filterLayout := .iohw, bias := none }
    let n : Dim := 4294967295
    ((c.inLayouts .nchw .iohw).infer ⟨.float32, [n, 1, n, n]⟩ ⟨.float32, [1, 0, 1, 1]⟩).result =
        .ok ⟨.float32, [n, 0, n, n]⟩ ∧
      ((c.inLayouts .nhwc .iohw).infer ⟨.float32, [n, n, n, 1]⟩ ⟨.float32, [1, 0, 1, 1]⟩).result =
        .error (.rejected (.overflow (.operandBytes .float32 [n, n, n, 0]))) := by
  decide +kernel

end TransposedConvolution

/-! ## Pooling -/

theorem PoolKind.requireInput_congr {kind : PoolKind} {type : DataType} {s s' : Shape}
    (hs : s.length = 4) (hs' : s'.length = 4) :
    kind.requireInput ⟨type, s⟩ = kind.requireInput ⟨type, s'⟩ := by
  unfold requireInput
  rw [Operand.requireRank_of_length hs, Operand.requireRank_of_length hs']
  rfl

namespace Pooling

variable {p : Pooling} {L L' : ActivationLayout} {x : Activation} {type : DataType}

/-- The pooling for an operand in another layout. -/
def inLayout (p : Pooling) (layout : ActivationLayout) : Pooling :=
  { p with layout := layout }

theorem operand_inLayout :
    (p.inLayout L).operand ⟨type, L.join x⟩ = (p.inLayout L').operand ⟨type, L'.join x⟩ := by
  unfold operand inLayout
  rw [PoolKind.requireInput_congr L.length_join (L'.length_join (x := x))]
  simp only [ActivationLayout.split_join]

/-- The sizes that are chosen are those of one of the two roundings. -/
theorem eq_or_eq_of_choose {floor ceil size : Size2d Dim}
    (h : (p.choose floor ceil).result = .ok size) : size = floor ∨ size = ceil := by
  unfold choose at h
  cases hsizes : p.outputSizes with
  | none =>
    rw [hsizes] at h
    cases hrounding : p.rounding with
    | floor =>
      rw [hrounding] at h
      exact .inl (Except.ok.inj h).symm
    | ceil =>
      rw [hrounding] at h
      exact .inr (Except.ok.inj h).symm
  | some requested =>
    rw [hsizes] at h
    dsimp only at h
    split_ifs at h with hrequested
    · rw [← Except.ok.inj h]
      exact hrequested
    · rw [Traced.result_bind] at h
      cases h

theorem agrees_inLayout (p : Pooling)
    (hguard : L.Computes Activation.Populated ((p.inLayout L).infer ⟨type, L.join x⟩).result) :
    Agrees (Operand.SameTensor L.join L'.join) ((p.inLayout L).infer ⟨type, L.join x⟩).result
      ((p.inLayout L').infer ⟨type, L'.join x⟩).result := by
  unfold infer at hguard ⊢
  rw [@operand_inLayout p L L'] at hguard ⊢
  simp only [Traced.result_bind, Traced.result_liftM, Traced.result_emit] at hguard ⊢
  refine .bind_common (operand_faultless _ _) (fun x hoperand hguard => ?_) hguard
  have hstrides := strides_of_operand hoperand
  refine .bind_common (Padding.resolve_faultless _ _) (fun p _ hguard => ?_) hguard
  refine .bind_common (Window.positions_faultless _ _ _) (fun _ hheight hguard => ?_) hguard
  refine .bind_common (Window.positions_faultless _ _ _) (fun _ hwidth hguard => ?_) hguard
  refine .bind_common (.of_eq_ok rfl) (fun _ _ hguard => ?_) hguard
  obtain ⟨⟨hfloor, hheight⟩, hceil, hheight'⟩ := Window.ofInt_positions hstrides.1 hheight
  obtain ⟨⟨hfloor', hwidth⟩, hceil', hwidth'⟩ := Window.ofInt_positions hstrides.2 hwidth
  refine .bind_common hfloor (fun _ hfloor hguard => ?_) hguard
  refine .bind_common hfloor' (fun _ hfloor' hguard => ?_) hguard
  refine .bind_common hceil (fun _ hceil hguard => ?_) hguard
  refine .bind_common hceil' (fun _ hceil' hguard => ?_) hguard
  refine .bind_common (choose_faultless _ _ _) (fun size hsize hguard => ?_) hguard
  -- whichever rounding was chosen, its sizes are not zero
  have hnonzero : size.height ≠ 0 ∧ size.width ≠ 0 := by
    rcases eq_or_eq_of_choose hsize with rfl | rfl
    · exact ⟨hheight _ hfloor, hwidth _ hfloor'⟩
    · exact ⟨hheight' _ hceil, hwidth' _ hceil'⟩
  exact L.create_agrees L' type ⟨hguard.create, hnonzero⟩

end Pooling

theorem globalPooling_agrees {kind : PoolKind} {L L' : ActivationLayout} {x : Activation}
    {type : DataType}
    (hguard : L.Computes Activation.Populated (globalPooling kind L ⟨type, L.join x⟩)) :
    Agrees (Operand.SameTensor L.join L'.join) (globalPooling kind L ⟨type, L.join x⟩)
      (globalPooling kind L' ⟨type, L'.join x⟩) := by
  unfold globalPooling at hguard ⊢
  rw [PoolKind.requireInput_congr L.length_join (L'.length_join (x := x)), L.split_join]
    at hguard ⊢
  rw [L'.split_join]
  refine .bind_common (kind.requireInput_faultless _) (fun _ _ hguard => ?_) hguard
  refine .bind_common (.of_eq_ok rfl) (fun x _ hguard => ?_) hguard
  have hone : (1 : Dim) ≠ 0 := by decide
  exact L.create_agrees L' type ⟨hguard.create, hone, hone⟩

/-! ## Instance normalization -/

namespace InstanceNormalization

variable {n : InstanceNormalization} {L L' : ActivationLayout} {x : Activation} {type : DataType}

/-- The instance normalization for an operand in another layout. -/
def inLayout (n : InstanceNormalization) (layout : ActivationLayout) : InstanceNormalization :=
  { n with layout := layout }

theorem dim_channelAxis (L : ActivationLayout) (x : Activation) :
    Shape.dim (L.join x) L.channelAxis = .ok x.channels := by
  cases L <;> rfl

/-- What is asked of scale and bias depends on the number of channels only. -/
theorem exists_infer_inLayout_iff :
    (∃ y, (n.inLayout L).infer ⟨type, L.join x⟩ = .ok y) ↔
      type.isFloatingPoint ∧
        requireOptionalFeature n.scale type x.channels "InstanceNormalization scale" = .ok () ∧
        requireOptionalFeature n.bias type x.channels "InstanceNormalization bias" = .ok () := by
  unfold infer inLayout Operand.requireFloatingPoint
  rw [Operand.requireRank_of_length L.length_join]
  simp only [Infer.bind_eq_ok, require_eq_ok, dim_channelAxis, Except.ok.injEq, Infer.pure_eq_ok]
  constructor
  · rintro ⟨_, _, -, _, hfloat, _, rfl, _, hscale, _, hbias, -⟩
    exact ⟨hfloat, hscale, hbias⟩
  · rintro ⟨hfloat, hscale, hbias⟩
    exact ⟨_, (), trivial, (), hfloat, _, rfl, (), hscale, (), hbias, rfl⟩

end InstanceNormalization

/-! ## All operators -/

/-- **Layouts do not matter.** Take one input in two activation layouts, and one filter in two filter
layouts. The operators over two spatial axes end the same way on both, with one output in the two
layouts or with causes of one category, unless the sizes computed for the output have an empty axis;
a window always has a position, so for convolutions and poolings only the batches and the channels
could be empty. Instance normalization accepts both or none. -/
theorem infer_agrees_in_layouts (L L' : ActivationLayout) (input input' : Operand)
    (hinput : Operand.SameTensor L.join L'.join input input') :
    (∀ (c : Convolution) (F F' : FilterLayout) (filter filter' : Operand),
      Operand.SameTensor F.join F'.join filter filter' →
      L.Computes Activation.Populated ((c.inLayouts L F).infer input filter).result →
      Agrees (Operand.SameTensor L.join L'.join) ((c.inLayouts L F).infer input filter).result
        ((c.inLayouts L' F').infer input' filter').result) ∧
    (∀ (c : TransposedConvolution) (F F' : TransposedFilterLayout) (filter filter' : Operand),
      Operand.SameTensor F.join F'.join filter filter' →
      L.Computes Activation.Nonempty ((c.inLayouts L F).infer input filter).result →
      Agrees (Operand.SameTensor L.join L'.join) ((c.inLayouts L F).infer input filter).result
        ((c.inLayouts L' F').infer input' filter').result) ∧
    (∀ p : Pooling,
      L.Computes Activation.Populated ((p.inLayout L).infer input).result →
      Agrees (Operand.SameTensor L.join L'.join) ((p.inLayout L).infer input).result
        ((p.inLayout L').infer input').result) ∧
    (∀ kind : PoolKind,
      L.Computes Activation.Populated (globalPooling kind L input) →
      Agrees (Operand.SameTensor L.join L'.join) (globalPooling kind L input)
        (globalPooling kind L' input')) ∧
    ∀ n : InstanceNormalization,
      (∃ y, (n.inLayout L).infer input = .ok y) ↔ ∃ y, (n.inLayout L').infer input' = .ok y := by
  obtain ⟨type, shape⟩ := input
  obtain ⟨type', shape'⟩ := input'
  obtain ⟨htype, x, hshape, hshape'⟩ := hinput
  dsimp only at htype hshape hshape'
  subst htype hshape hshape'
  refine ⟨?_, ?_, fun p => p.agrees_inLayout, fun kind => globalPooling_agrees, fun n => ?_⟩
  · rintro c F F' ⟨filterType, _⟩ ⟨_, _⟩ ⟨rfl, f, rfl, rfl⟩ hguard
    exact c.agrees_inLayouts hguard
  · rintro c F F' ⟨filterType, _⟩ ⟨_, _⟩ ⟨rfl, f, rfl, rfl⟩ hguard
    exact c.agrees_inLayouts hguard
  · rw [InstanceNormalization.exists_infer_inLayout_iff,
      InstanceNormalization.exists_infer_inLayout_iff]

/-- A convolution in two groups that halves both axes. -/
def Convolution.halving : Convolution where
  padding := .auto .sameUpper
  strides := ⟨2, 2⟩
  dilations := ⟨1, 1⟩
  groups := 2
  layout := .nchw
  filterLayout := .oihw
  bias := none

/-- A transposed convolution that doubles both axes and has padding of the output. -/
def TransposedConvolution.doubling : TransposedConvolution where
  padding := .explicit ⟨⟨1, 1⟩, ⟨1, 1⟩⟩
  strides := ⟨2, 2⟩
  dilations := ⟨1, 1⟩
  outputPadding := ⟨1, 1⟩
  outputSizes := none
  groups := 2
  layout := .nchw
  filterLayout := .iohw
  bias := none

/-- A pooling that halves both axes and rounds up. -/
def Pooling.halving : Pooling where
  kind := .max
  window := ⟨2, 2⟩
  padding := .explicit ⟨⟨0, 0⟩, ⟨0, 0⟩⟩
  strides := ⟨2, 2⟩
  dilations := ⟨1, 1⟩
  layout := .nchw
  rounding := .ceil
  outputSizes := none

/-- One input in two layouts, convolved, convolved the other way round, and pooled. -/
theorem infer_agrees_in_layouts_halving :
    Operand.SameTensor ActivationLayout.nchw.join ActivationLayout.nhwc.join
      ⟨.float32, [1, 4, 5, 6]⟩ ⟨.float32, [1, 5, 6, 4]⟩ ∧
    Operand.SameTensor FilterLayout.oihw.join FilterLayout.ihwo.join
      ⟨.float32, [8, 2, 3, 3]⟩ ⟨.float32, [2, 3, 3, 8]⟩ ∧
    ((Convolution.halving.inLayouts .nchw .oihw).infer
      ⟨.float32, [1, 4, 5, 6]⟩ ⟨.float32, [8, 2, 3, 3]⟩).result = .ok ⟨.float32, [1, 8, 3, 3]⟩ ∧
    Agrees (Operand.SameTensor ActivationLayout.nchw.join ActivationLayout.nhwc.join)
      ((Convolution.halving.inLayouts .nchw .oihw).infer
        ⟨.float32, [1, 4, 5, 6]⟩ ⟨.float32, [8, 2, 3, 3]⟩).result
      ((Convolution.halving.inLayouts .nhwc .ihwo).infer
        ⟨.float32, [1, 5, 6, 4]⟩ ⟨.float32, [2, 3, 3, 8]⟩).result ∧
    Operand.SameTensor TransposedFilterLayout.iohw.join TransposedFilterLayout.hwoi.join
      ⟨.float32, [4, 3, 3, 3]⟩ ⟨.float32, [3, 3, 3, 4]⟩ ∧
    ((TransposedConvolution.doubling.inLayouts .nchw .iohw).infer
      ⟨.float32, [1, 4, 5, 6]⟩ ⟨.float32, [4, 3, 3, 3]⟩).result = .ok ⟨.float32, [1, 6, 10, 12]⟩ ∧
    Agrees (Operand.SameTensor ActivationLayout.nchw.join ActivationLayout.nhwc.join)
      ((TransposedConvolution.doubling.inLayouts .nchw .iohw).infer
        ⟨.float32, [1, 4, 5, 6]⟩ ⟨.float32, [4, 3, 3, 3]⟩).result
      ((TransposedConvolution.doubling.inLayouts .nhwc .hwoi).infer
        ⟨.float32, [1, 5, 6, 4]⟩ ⟨.float32, [3, 3, 3, 4]⟩).result ∧
    ((Pooling.halving.inLayout .nchw).infer ⟨.float32, [1, 4, 5, 6]⟩).result =
      .ok ⟨.float32, [1, 4, 3, 3]⟩ ∧
    Agrees (Operand.SameTensor ActivationLayout.nchw.join ActivationLayout.nhwc.join)
      ((Pooling.halving.inLayout .nchw).infer ⟨.float32, [1, 4, 5, 6]⟩).result
      ((Pooling.halving.inLayout .nhwc).infer ⟨.float32, [1, 5, 6, 4]⟩).result := by
  have hinput : Operand.SameTensor ActivationLayout.nchw.join ActivationLayout.nhwc.join
      ⟨.float32, [1, 4, 5, 6]⟩ ⟨.float32, [1, 5, 6, 4]⟩ := ⟨rfl, ⟨1, 4, 5, 6⟩, rfl, rfl⟩
  have hfilter : Operand.SameTensor FilterLayout.oihw.join FilterLayout.ihwo.join
      ⟨.float32, [8, 2, 3, 3]⟩ ⟨.float32, [2, 3, 3, 8]⟩ := ⟨rfl, ⟨2, 8, 3, 3⟩, rfl, rfl⟩
  have hfilter' : Operand.SameTensor TransposedFilterLayout.iohw.join
      TransposedFilterLayout.hwoi.join ⟨.float32, [4, 3, 3, 3]⟩ ⟨.float32, [3, 3, 3, 4]⟩ :=
    ⟨rfl, ⟨4, 3, 3, 3⟩, rfl, rfl⟩
  obtain ⟨hconvolved, htransposed, hpooled, -⟩ := infer_agrees_in_layouts _ _ _ _ hinput
  have hok : ((Convolution.halving.inLayouts .nchw .oihw).infer
      ⟨.float32, [1, 4, 5, 6]⟩ ⟨.float32, [8, 2, 3, 3]⟩).result =
        .ok ⟨.float32, [1, 8, 3, 3]⟩ := by decide +kernel
  have hok' : ((TransposedConvolution.doubling.inLayouts .nchw .iohw).infer
      ⟨.float32, [1, 4, 5, 6]⟩ ⟨.float32, [4, 3, 3, 3]⟩).result =
        .ok ⟨.float32, [1, 6, 10, 12]⟩ := by decide +kernel
  have hok'' : ((Pooling.halving.inLayout .nchw).infer ⟨.float32, [1, 4, 5, 6]⟩).result =
      .ok ⟨.float32, [1, 4, 3, 3]⟩ := by decide +kernel
  refine ⟨hinput, hfilter, hok, hconvolved _ _ _ _ _ hfilter ?_, hfilter', hok',
    htransposed _ _ _ _ _ hfilter' ?_, hok'', hpooled _ ?_⟩
  · exact .of_eq_ok ⟨1, 8, 3, 3⟩ hok ⟨by decide, by decide⟩
  · exact .of_eq_ok ⟨1, 6, 10, 12⟩ hok' ⟨⟨by decide, by decide⟩, by decide, by decide⟩
  · exact .of_eq_ok ⟨1, 4, 3, 3⟩ hok'' ⟨by decide, by decide⟩

end TensorTyping
