import Mathlib
import TensorTyping.Operator.Normalization
import TensorTyping.Proofs.Axes

/-!
# One rule for the operands beside a normalized input

The three normalizations word their rule for mean, variance, scale and bias in two ways. Batch and
instance normalization ask for a list with an entry for each feature, layer normalization for the
shape that the input has along its axes. On a single axis these are the same rule, so the first two
accept what layer normalization accepts there.

* `Operand.Accompanies` — the rule: the type of the input, and its sizes along the axes.
* `LayerNormalization.infer_eq_ok`, … — what each normalization accepts.
* `normalizations_share_rule` — the first two normalizations as layer normalizations of one axis.
-/

namespace TensorTyping

/-- The operand has the type of the input, and for each of the axes, in their order, the size that
the input has there. -/
structure Operand.Accompanies (h input : Operand) (axes : List Dim) : Prop where
  dataType : h.dataType = input.dataType
  sizes : List.Forall₂ (fun axis d => input.shape[axis.toNat]? = some d) axes h.shape

/-- Every operand that is given accompanies the input. -/
def Operand.AllAccompany (given : List (Option Operand)) (input : Operand) (axes : List Dim) :
    Prop :=
  ∀ h, some h ∈ given → h.Accompanies input axes

section

variable {h input y mean variance : Operand} {x : Option Operand} {axes : List Dim} {axis : Dim}
  {dataType : DataType} {feature : Dim} {expected : Shape} {subject : String} {u : Unit}

namespace Operand

@[simp] theorem allAccompany_nil : AllAccompany [] input axes := by
  intro h hmem
  cases hmem

@[simp] theorem allAccompany_none {rest : List (Option Operand)} :
    AllAccompany (none :: rest) input axes ↔ AllAccompany rest input axes := by
  simp [AllAccompany]

@[simp] theorem allAccompany_some {rest : List (Option Operand)} :
    AllAccompany (some h :: rest) input axes ↔
      h.Accompanies input axes ∧ AllAccompany rest input axes := by
  simp [AllAccompany]

/-- Operands that are given or not are looked at one after the other. -/
theorem allAccompany_pair {x' : Option Operand} :
    AllAccompany [x, x'] input axes ↔
      AllAccompany [x] input axes ∧ AllAccompany [x'] input axes := by
  cases x with
  | none => simp
  | some h => simp

end Operand

/-! ## Two wordings -/

/-- The sizes of a shape along axes, read in the order of the axes. -/
theorem Shape.mapM_dim_axes_eq_ok {s : Shape} :
    (axes.mapM fun axis => s.dim axis.toNat) = .ok expected ↔
      List.Forall₂ (fun axis d => s[axis.toNat]? = some d) axes expected := by
  simp only [Infer.mapM_eq_ok, Shape.dim_eq_ok]

/-- With the sizes at hand, the rule compares shapes. -/
theorem Operand.accompanies_iff
    (hexpected : (axes.mapM fun axis => input.shape.dim axis.toNat) = .ok expected) :
    h.Accompanies input axes ↔ h.dataType = input.dataType ∧ h.shape = expected := by
  constructor
  · rintro ⟨htype, hsizes⟩
    rw [← Shape.mapM_dim_axes_eq_ok, hexpected] at hsizes
    exact ⟨htype, (Except.ok.inj hsizes).symm⟩
  · rintro ⟨htype, rfl⟩
    exact ⟨htype, Shape.mapM_dim_axes_eq_ok.mp hexpected⟩

/-- The wording with a shape. -/
theorem LayerNormalization.requireShape_eq_ok
    (hexpected : (axes.mapM fun axis => input.shape.dim axis.toNat) = .ok expected) :
    requireShape axes input.dataType expected subject x = .ok u ↔
      Operand.AllAccompany [x] input axes := by
  cases x with
  | none => simp [requireShape]
  | some h => simp [requireShape, Operand.requireType, Operand.accompanies_iff hexpected]

/-- The wording with a rank and a length. -/
theorem Operand.requireFeature_eq_ok :
    h.requireFeature dataType feature subject = .ok u ↔
      h.dataType = dataType ∧ h.shape = [feature] := by
  simp only [requireFeature, requireType, requireRank, Infer.bind_eq_ok, require_eq_ok,
    Shape.dim_eq_ok, exists_const]
  refine and_congr_right fun _ => ?_
  constructor
  · rintro ⟨hrank, length, hlength, rfl⟩
    obtain ⟨d, hd⟩ := List.length_eq_one_iff.mp hrank
    rw [hd] at hlength ⊢
    rw [← Option.some.inj hlength]
  · intro hshape
    rw [Operand.rank, hshape]
    exact ⟨rfl, feature, rfl, rfl⟩

theorem Operand.requireFeature_iff_accompanies
    (hfeature : input.shape[axis.toNat]? = some feature) :
    h.requireFeature input.dataType feature subject = .ok u ↔ h.Accompanies input [axis] := by
  have hexpected : ([axis].mapM fun axis => input.shape.dim axis.toNat) = .ok [feature] :=
    Shape.mapM_dim_axes_eq_ok.mpr (.cons hfeature .nil)
  rw [requireFeature_eq_ok, accompanies_iff hexpected]

theorem requireOptionalFeature_iff_accompany (hfeature : input.shape[axis.toNat]? = some feature) :
    requireOptionalFeature x input.dataType feature subject = .ok u ↔
      Operand.AllAccompany [x] input [axis] := by
  cases x with
  | none => simp [requireOptionalFeature]
  | some h => simp [requireOptionalFeature, Operand.requireFeature_iff_accompanies hfeature]

/-! ## What each normalization accepts -/

theorem LayerNormalization.infer_eq_ok {n : LayerNormalization} :
    n.infer input = .ok y ↔
      y = input ∧ input.dataType.isFloatingPoint ∧ DistinctAxes n.axes input.rank ∧
        Operand.AllAccompany [n.scale, n.bias] input n.axes := by
  simp only [infer, Operand.requireFloatingPoint, Infer.bind_eq_ok, require_eq_ok,
    requireAxes_eq_ok, Infer.pure_eq_ok, exists_const, Operand.allAccompany_pair]
  constructor
  · rintro ⟨hfloat, haxes, expected, hexpected, _, hscale, _, hbias, rfl⟩
    exact ⟨rfl, hfloat, haxes, (requireShape_eq_ok hexpected).mp hscale,
      (requireShape_eq_ok hexpected).mp hbias⟩
  · rintro ⟨rfl, hfloat, haxes, hscale, hbias⟩
    -- axes in range have sizes, with which both operands are compared
    obtain ⟨expected, hexpected⟩ : ∃ expected,
        (n.axes.mapM fun axis => y.shape.dim axis.toNat) = .ok expected := by
      refine Infer.exists_mapM_eq_ok.mpr fun axis haxis => ?_
      exact ⟨_, Shape.dim_eq_ok.mpr (List.getElem?_eq_getElem (haxes.inRange axis haxis))⟩
    exact ⟨hfloat, haxes, expected, hexpected, (), (requireShape_eq_ok hexpected).mpr hscale, (),
      (requireShape_eq_ok hexpected).mpr hbias, rfl⟩

theorem BatchNormalization.infer_eq_ok {n : BatchNormalization} :
    n.infer input mean variance = .ok y ↔
      y = input ∧ input.dataType.isFloatingPoint ∧ DistinctAxes [n.axis] input.rank ∧
        Operand.AllAccompany [some mean, some variance] input [n.axis] ∧
        Operand.AllAccompany [n.scale, n.bias] input [n.axis] := by
  simp only [infer, Operand.requireFloatingPoint, requireAxis, Infer.bind_eq_ok, require_eq_ok,
    Shape.dim_eq_ok, Infer.pure_eq_ok, exists_const, distinctAxes_singleton]
  rw [Operand.allAccompany_pair (x := n.scale), Operand.allAccompany_some,
    Operand.allAccompany_some, and_iff_left Operand.allAccompany_nil]
  constructor
  · rintro ⟨hfloat, haxis, feature, hfeature, _, hmean, _, hvariance, _, hscale, _, hbias, rfl⟩
    exact ⟨rfl, hfloat, haxis,
      ⟨(Operand.requireFeature_iff_accompanies hfeature).mp hmean,
        (Operand.requireFeature_iff_accompanies hfeature).mp hvariance⟩,
      (requireOptionalFeature_iff_accompany hfeature).mp hscale,
      (requireOptionalFeature_iff_accompany hfeature).mp hbias⟩
  · rintro ⟨rfl, hfloat, haxis, ⟨hmean, hvariance⟩, hscale, hbias⟩
    have hfeature := List.getElem?_eq_getElem haxis
    exact ⟨hfloat, haxis, _, hfeature,
      (), (Operand.requireFeature_iff_accompanies hfeature).mpr hmean,
      (), (Operand.requireFeature_iff_accompanies hfeature).mpr hvariance,
      (), (requireOptionalFeature_iff_accompany hfeature).mpr hscale,
      (), (requireOptionalFeature_iff_accompany hfeature).mpr hbias, rfl⟩

/-- The axis of the channels, as an axis that attributes can name. -/
def ActivationLayout.channelDim (layout : ActivationLayout) : Dim :=
  .ofNat layout.channelAxis

theorem ActivationLayout.toNat_channelDim (layout : ActivationLayout) :
    layout.channelDim.toNat = layout.channelAxis := by
  cases layout <;> rfl

theorem ActivationLayout.distinctAxes_channelDim (layout : ActivationLayout)
    (hrank : input.rank = 4) : DistinctAxes [layout.channelDim] input.rank := by
  rw [distinctAxes_singleton, hrank, layout.toNat_channelDim]
  cases layout <;> decide

theorem InstanceNormalization.infer_eq_ok {n : InstanceNormalization} :
    n.infer input = .ok y ↔
      y = input ∧ input.rank = 4 ∧ input.dataType.isFloatingPoint ∧
        Operand.AllAccompany [n.scale, n.bias] input [n.layout.channelDim] := by
  simp only [infer, Operand.requireRank, Operand.requireFloatingPoint, Infer.bind_eq_ok,
    require_eq_ok, Shape.dim_eq_ok, Infer.pure_eq_ok, exists_const, Operand.allAccompany_pair,
    ← n.layout.toNat_channelDim]
  constructor
  · rintro ⟨hrank, hfloat, feature, hfeature, _, hscale, _, hbias, rfl⟩
    exact ⟨rfl, hrank, hfloat, (requireOptionalFeature_iff_accompany hfeature).mp hscale,
      (requireOptionalFeature_iff_accompany hfeature).mp hbias⟩
  · rintro ⟨rfl, hrank, hfloat, hscale, hbias⟩
    have haxis : n.layout.channelDim.toNat < y.shape.length :=
      distinctAxes_singleton.mp (n.layout.distinctAxes_channelDim hrank)
    have hfeature := List.getElem?_eq_getElem haxis
    exact ⟨hrank, hfloat, _, hfeature,
      (), (requireOptionalFeature_iff_accompany hfeature).mpr hscale,
      (), (requireOptionalFeature_iff_accompany hfeature).mpr hbias, rfl⟩

end

/-- **The three normalizations apply one rule.** A batch normalization accepts what two layer
normalizations of its axis accept, one with mean and variance and one with scale and bias. An
instance normalization accepts the inputs of rank 4 that a layer normalization of the channels
accepts. A layer normalization accepts an input of a floating-point type, different axes of it, and
operands that have its sizes along the axes. The output of each is its input. -/
theorem normalizations_share_rule :
    (∀ (input mean variance : Operand) (scale bias : Option Operand) (axis : Dim) (y : Operand),
      (⟨scale, bias, axis⟩ : BatchNormalization).infer input mean variance = .ok y ↔
        y = input ∧
          (∃ z, (⟨some mean, some variance, [axis]⟩ : LayerNormalization).infer input = .ok z) ∧
          ∃ z, (⟨scale, bias, [axis]⟩ : LayerNormalization).infer input = .ok z) ∧
    (∀ (input : Operand) (scale bias : Option Operand) (layout : ActivationLayout) (y : Operand),
      (⟨scale, bias, layout⟩ : InstanceNormalization).infer input = .ok y ↔
        y = input ∧ input.rank = 4 ∧
          ∃ z, (⟨scale, bias, [layout.channelDim]⟩ : LayerNormalization).infer input = .ok z) ∧
    ∀ (input : Operand) (scale bias : Option Operand) (axes : List Dim) (y : Operand),
      (⟨scale, bias, axes⟩ : LayerNormalization).infer input = .ok y ↔
        y = input ∧ input.dataType.isFloatingPoint ∧ (∀ axis ∈ axes, axis.toNat < input.rank) ∧
          axes.Nodup ∧ Operand.AllAccompany [scale, bias] input axes := by
  refine ⟨fun input mean variance scale bias axis y => ?_, fun input scale bias layout y => ?_,
    fun input scale bias axes y => ?_⟩
  · simp only [BatchNormalization.infer_eq_ok, LayerNormalization.infer_eq_ok, exists_eq_left]
    constructor
    · rintro ⟨hy, hfloat, haxis, hstatistics, hoptions⟩
      exact ⟨hy, ⟨hfloat, haxis, hstatistics⟩, hfloat, haxis, hoptions⟩
    · rintro ⟨hy, ⟨hfloat, haxis, hstatistics⟩, -, -, hoptions⟩
      exact ⟨hy, hfloat, haxis, hstatistics, hoptions⟩
  · simp only [InstanceNormalization.infer_eq_ok, LayerNormalization.infer_eq_ok, exists_eq_left]
    constructor
    · rintro ⟨hy, hrank, hfloat, hoptions⟩
      exact ⟨hy, hrank, hfloat, layout.distinctAxes_channelDim hrank, hoptions⟩
    · rintro ⟨hy, hrank, hfloat, -, hoptions⟩
      exact ⟨hy, hrank, hfloat, hoptions⟩
  · rw [LayerNormalization.infer_eq_ok]
    constructor
    · rintro ⟨hy, hfloat, haxes, hoptions⟩
      exact ⟨hy, hfloat, haxes.inRange, haxes.nodup, hoptions⟩
    · rintro ⟨hy, hfloat, hrange, hnodup, hoptions⟩
      exact ⟨hy, hfloat, ⟨hnodup, hrange⟩, hoptions⟩

/-- The sizes along the axes are compared in the order of the axes, and along no axis a scalar is
asked for. -/
example :
    (⟨some ⟨.float32, [5, 4]⟩, none, [3, 2]⟩ : LayerNormalization).infer
        ⟨.float32, [2, 3, 4, 5]⟩ = .ok ⟨.float32, [2, 3, 4, 5]⟩ ∧
      (⟨some ⟨.float32, [4, 5]⟩, none, [3, 2]⟩ : LayerNormalization).infer
        ⟨.float32, [2, 3, 4, 5]⟩ = reject (.normalizedShape "LayerNormalization scale" [4, 5] [5, 4]
          [3, 2]) ∧
      (⟨some ⟨.float32, []⟩, none, []⟩ : LayerNormalization).infer
        ⟨.float32, [2, 3, 4, 5]⟩ = .ok ⟨.float32, [2, 3, 4, 5]⟩ := by
  decide

end TensorTyping
