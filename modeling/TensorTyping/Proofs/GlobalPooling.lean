import Mathlib
import TensorTyping.Proofs.Agreement
import TensorTyping.Proofs.FaultlessCalls
import TensorTyping.Proofs.PoolingSizes
import TensorTyping.Proofs.Reductions

/-!
# Global pooling in other words

A global pooling leaves one cell for each batch and channel. So does the reduction along both
spatial axes, and so does a pooling whose window is as large as the input: it has one position,
whatever the strides, and one position is not a fraction, so that both roundings agree on it.

* `PoolKind.reduction`, `ActivationLayout.spatialAxes` — the reduction that says the same.
* `Pooling.covering` — the pooling that says the same.
* `Window.positions_covering` — a window as large as its axis has one position.
* `globalPooling_reduces_or_covers` — all three end the same way.
-/

namespace TensorTyping

open Infer (Agrees)

/-- The places of height and width. -/
def ActivationLayout.spatialAxes : ActivationLayout → List Dim
  | nchw => [2, 3]
  | nhwc => [1, 2]

/-- What the pooling computes from the cells under its window. -/
def PoolKind.reduction : PoolKind → ReduceKind
  | average => .mean
  | l2 => .l2
  | max => .max

/-- The pooling whose window is as large as an input of the given size, without padding. -/
def Pooling.covering (kind : PoolKind) (layout : ActivationLayout) (size strides : Size2d Dim)
    (rounding : RoundingMode) : Pooling where
  kind := kind
  window := size
  padding := .explicit ⟨⟨0, 0⟩, ⟨0, 0⟩⟩
  strides := strides
  dilations := ⟨1, 1⟩
  layout := layout
  rounding := rounding
  outputSizes := none

section

variable {kind : PoolKind} {layout : ActivationLayout} {x : Operand} {a : Activation}
  {strides : Size2d Dim} {rounding : RoundingMode}

/-! ## The reduction along the spatial axes -/

theorem ActivationLayout.spatialAxes_distinct (layout : ActivationLayout) :
    DistinctAxes layout.spatialAxes 4 := by
  cases layout with
  | nchw => exact ⟨by decide, by simp [spatialAxes]⟩
  | nhwc => exact ⟨by decide, by simp [spatialAxes]⟩

theorem ActivationLayout.reduce_join :
    Shape.reduce (layout.join a) layout.spatialAxes true = layout.join (a.resized ⟨1, 1⟩) := by
  cases layout with
  | nchw => rfl
  | nhwc => rfl

theorem PoolKind.requiresFloatingPoint_reduction (kind : PoolKind) :
    kind.reduction.requiresFloatingPoint = kind.requiresFloatingPoint := by
  cases kind <;> rfl

/-- A pooling of an activation takes the types that its reduction takes. -/
theorem PoolKind.requireInput_of_rank (h : x.rank = 4) :
    kind.requireInput x =
      require (kind.reduction.Accepts x.dataType)
        (.notFloatingPoint (kind.operator ++ " input") x.dataType) := by
  have hrank : x.requireRank 4 (kind.operator ++ " input") = .ok () := require_eq_ok.mpr h
  unfold requireInput ReduceKind.Accepts
  simp only [hrank, kind.requiresFloatingPoint_reduction, Infer.ok_bind]
  by_cases hfloat : kind.requiresFloatingPoint
  · simp only [hfloat, if_true, true_imp_iff]
    rfl
  · simp only [hfloat]
    rfl

/-- One cell is left for each batch and channel. -/
theorem globalPooling_of_shape (h : x.shape = layout.join a) :
    globalPooling kind layout x = (do
      kind.requireInput x
      Operand.create x.dataType (layout.join (a.resized ⟨1, 1⟩))) := by
  unfold globalPooling
  rw [h, layout.split_join]
  rfl

theorem globalPooling_agrees_reduction {axes : List Dim} (hrank : x.rank = 4)
    (haxes : axes.Perm layout.spatialAxes) :
    Agrees Eq (globalPooling kind layout x)
      ((⟨kind.reduction, axes, true⟩ : Reduction).infer x) := by
  obtain ⟨a, ha⟩ := layout.exists_join hrank
  have hdistinct : DistinctAxes axes x.rank := hrank ▸ layout.spatialAxes_distinct.perm haxes.symm
  have hshape : x.shape.reduce axes true = layout.join (a.resized ⟨1, 1⟩) := by
    rw [Shape.reduce_congr fun _ => haxes.mem_iff, ha, layout.reduce_join]
  rw [globalPooling_of_shape ha, PoolKind.requireInput_of_rank hrank,
    Reduction.infer_of_distinctAxes hdistinct, hshape]
  exact .bind (.require Iff.rfl rfl) fun _ => .refl (Operand.create_faultless _ _)

/-! ## The window that covers the input -/

/-- A window as large as its axis has one position, which is no fraction. -/
theorem Window.positions_covering {w : Window} (hs : 0 < w.stride.toNat) (hsize : w.size = w.input)
    (hinput : 1 ≤ w.input.toNat) (hdilation : w.dilation = 1) :
    w.Fits ⟨0, 0⟩ ∧ ∀ mode : RoundingMode, mode.round (w.ratio ⟨0, 0⟩) = (1 : Dim).toNat := by
  have hspan : w.span = w.input.toNat := by
    unfold span
    rw [hsize, hdilation]
    show (w.input.toNat - 1) * 1 + 1 = _
    omega
  have hpadded : w.padded ⟨0, 0⟩ = w.input.toNat := rfl
  have hfree : w.padded ⟨0, 0⟩ - w.span = 0 := by omega
  refine ⟨⟨hsize ▸ hinput, hspan ▸ w.input.le_largest, by omega, by omega⟩, fun mode => ?_⟩
  cases mode with
  | floor =>
    refine (floor_ratio hs).trans ?_
    rw [hfree, Nat.zero_div]
    rfl
  | ceil =>
    refine (Rounding.ceil_eq _).trans ((ceil_ratio hs).trans ?_)
    rw [hfree, zero_ceilDiv]
    rfl

namespace Pooling

theorem covering_operand (ha : x.shape = layout.join a) (hsize : a.height ≠ 0 ∧ a.width ≠ 0)
    (hstrides : strides.height ≠ 0 ∧ strides.width ≠ 0) :
    (covering kind layout a.size strides rounding).operand x = (do
      kind.requireInput x
      return a) := by
  have hsplit : layout.split x.shape = .ok a := by rw [ha, layout.split_join]
  have hdilations : (1 : Dim) ≠ 0 ∧ (1 : Dim) ≠ 0 := by decide
  exact Infer.bind_congr fun _ _ => Infer.bind_eq_ok.mpr ⟨(), require_eq_ok.mpr hsize,
    Infer.bind_eq_ok.mpr ⟨(), require_eq_ok.mpr hstrides,
      Infer.bind_eq_ok.mpr ⟨(), require_eq_ok.mpr hdilations, hsplit⟩⟩⟩

/-- On an input that it accepts, the pooling comes to one position on each axis. -/
theorem covering_reaches (ha : x.shape = layout.join a) (hsize : a.height ≠ 0 ∧ a.width ≠ 0)
    (hstrides : strides.height ≠ 0 ∧ strides.width ≠ 0) (hinput : kind.requireInput x = .ok ()) :
    ∃ v, (covering kind layout a.size strides rounding).Reaches x a ⟨⟨0, 0⟩, ⟨0, 0⟩⟩ v ∧
      Size2d.IsRounding rounding v ⟨1, 1⟩ := by
  have hoperand : (covering kind layout a.size strides rounding).operand x = .ok a := by
    rw [covering_operand ha hsize hstrides, hinput]
    rfl
  obtain ⟨hs, hs'⟩ := strides_of_operand hoperand
  obtain ⟨hfits, hround⟩ := Window.positions_covering
    (w := ((covering kind layout a.size strides rounding).slidingWindow a).height) hs rfl
    (Dim.ne_zero_iff.mp hsize.1) rfl
  obtain ⟨hfits', hround'⟩ := Window.positions_covering
    (w := ((covering kind layout a.size strides rounding).slidingWindow a).width) hs' rfl
    (Dim.ne_zero_iff.mp hsize.2) rfl
  exact ⟨⟨_, _⟩, ⟨hoperand, rfl, (Window.positions_eq_ok hs).mpr ⟨hfits, rfl⟩,
    (Window.positions_eq_ok hs').mpr ⟨hfits', rfl⟩⟩, hround rounding, hround' rounding⟩

/-- So it leaves what the global pooling leaves, and is rejected for the same causes. -/
theorem result_infer_covering (ha : x.shape = layout.join a) (hsize : a.height ≠ 0 ∧ a.width ≠ 0)
    (hstrides : strides.height ≠ 0 ∧ strides.width ≠ 0) :
    ((covering kind layout a.size strides rounding).infer x).result =
      globalPooling kind layout x := by
  rw [globalPooling_of_shape ha]
  cases hinput : kind.requireInput x with
  | ok u =>
    obtain ⟨v, hreaches, hone⟩ := covering_reaches ha hsize hstrides hinput
    exact hreaches.result_rounded hone
  | error failure =>
    unfold infer
    rw [Traced.result_bind, Traced.result_liftM, covering_operand ha hsize hstrides, hinput]
    rfl

end Pooling

end

/-- **Global pooling agrees with the two other ways to express it.** Whatever the layout and the
kind, the global pooling of an operand of rank 4 ends as the reduction of the same kind along both
spatial axes, listed in either order; and when neither of these axes is empty, it ends as the
pooling with a window of their sizes, for all strides and in both roundings. -/
theorem globalPooling_reduces_or_covers (kind : PoolKind) (layout : ActivationLayout) (x : Operand)
    (hrank : x.rank = 4) :
    (∀ axes, axes.Perm layout.spatialAxes →
      Agrees Eq (globalPooling kind layout x)
        ((⟨kind.reduction, axes, true⟩ : Reduction).infer x)) ∧
    ∀ (a : Activation) (strides : Size2d Dim) (rounding : RoundingMode),
      x.shape = layout.join a → 1 ≤ a.height.toNat → 1 ≤ a.width.toNat →
      0 < strides.height.toNat → 0 < strides.width.toNat →
      Agrees Eq (globalPooling kind layout x)
        ((Pooling.covering kind layout a.size strides rounding).infer x).result := by
  refine ⟨fun axes haxes => globalPooling_agrees_reduction hrank haxes, ?_⟩
  intro a strides rounding ha hheight hwidth hstride hstride'
  rw [Pooling.result_infer_covering ha ⟨Dim.ne_zero_iff.mpr hheight, Dim.ne_zero_iff.mpr hwidth⟩
    ⟨Dim.ne_zero_iff.mpr hstride, Dim.ne_zero_iff.mpr hstride'⟩]
  exact .refl (globalPooling_faultless kind layout x)

/-- Maxima of integers over five rows and seven columns, with the axes in the other order and with
strides that are larger than some of the sizes, rounded up; and averages of integers, which all
three reject. -/
theorem globalPooling_reduces_or_covers_integers :
    (⟨.int8, [2, 5, 7, 3]⟩ : Operand).rank = 4 ∧
      globalPooling .max .nhwc ⟨.int8, [2, 5, 7, 3]⟩ = .ok ⟨.int8, [2, 1, 1, 3]⟩ ∧
      Agrees Eq (globalPooling .max .nhwc ⟨.int8, [2, 5, 7, 3]⟩)
        ((⟨.max, [2, 1], true⟩ : Reduction).infer ⟨.int8, [2, 5, 7, 3]⟩) ∧
      Agrees Eq (globalPooling .max .nhwc ⟨.int8, [2, 5, 7, 3]⟩)
        ((Pooling.covering .max .nhwc ⟨5, 7⟩ ⟨6, 2⟩ .ceil).infer ⟨.int8, [2, 5, 7, 3]⟩).result ∧
      (∃ cause, globalPooling .average .nhwc ⟨.int8, [2, 5, 7, 3]⟩ = reject cause ∧
        cause.category = .typeMismatch) ∧
      Agrees Eq (globalPooling .average .nhwc ⟨.int8, [2, 5, 7, 3]⟩)
        ((⟨.mean, [2, 1], true⟩ : Reduction).infer ⟨.int8, [2, 5, 7, 3]⟩) ∧
      Agrees Eq (globalPooling .average .nhwc ⟨.int8, [2, 5, 7, 3]⟩)
        ((Pooling.covering .average .nhwc ⟨5, 7⟩ ⟨6, 2⟩ .ceil).infer
          ⟨.int8, [2, 5, 7, 3]⟩).result := by
  obtain ⟨hreduces, hcovers⟩ :=
    globalPooling_reduces_or_covers .max .nhwc ⟨.int8, [2, 5, 7, 3]⟩ rfl
  obtain ⟨hreduces', hcovers'⟩ :=
    globalPooling_reduces_or_covers .average .nhwc ⟨.int8, [2, 5, 7, 3]⟩ rfl
  have horder : [2, 1].Perm ActivationLayout.nhwc.spatialAxes := by decide
  exact ⟨rfl, by decide, hreduces _ horder,
    hcovers ⟨2, 3, 5, 7⟩ ⟨6, 2⟩ .ceil rfl (by decide) (by decide) (by decide) (by decide),
    ⟨_, rfl, rfl⟩, hreduces' _ horder,
    hcovers' ⟨2, 3, 5, 7⟩ ⟨6, 2⟩ .ceil rfl (by decide) (by decide) (by decide) (by decide)⟩

end TensorTyping
