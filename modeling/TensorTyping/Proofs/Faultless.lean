import Mathlib
import TensorTyping.Operator.Pooling
import TensorTyping.Proofs.TransposedConvolution

/-!
# Window operators never fault

A step with a domain faults when it is taken outside of it. In the operators over two spatial axes
every such step comes after a rule that keeps it inside: a rank before a dimension is read, positive
groups before they divide, a bound on the positions before they become a dimension. So these
operators have a value or reject the request.

* `Infer.Faultless` — an inference that ends without a fault, with rules for sequences.
* `Window.positions_bounds` — positions that were computed are dimensions other than zero, whichever
  way they are rounded.
* `Convolution.operands_faultless`, … — the steps of the operators.
-/

namespace TensorTyping

namespace Infer

variable {α β : Type} {x : Infer α}

/-- The inference ends with a value or with a rejection. -/
def Faultless (x : Infer α) : Prop :=
  ∀ fault, x ≠ .error (.fault fault)

namespace Faultless

theorem of_eq_ok {a : α} (h : x = .ok a) : Faultless x := by
  intro fault hfault
  rw [h] at hfault
  cases hfault

theorem of_rejectsAs {category : Category} (h : RejectsAs category x) : Faultless x := by
  intro fault hfault
  obtain ⟨cause, hcause, -⟩ := h _ hfault
  cases hcause

theorem pure (a : α) : Faultless (Pure.pure a : Infer α) :=
  of_eq_ok rfl

theorem reject (cause : Cause) : Faultless (TensorTyping.reject cause : Infer α) :=
  nofun

theorem require (p : Prop) [Decidable p] (cause : Cause) :
    Faultless (TensorTyping.require p cause) := by
  unfold TensorTyping.require
  split_ifs
  · exact of_eq_ok rfl
  · exact reject cause

/-- A sequence ends without a fault when its first step does, and the rest does after it. -/
theorem bind {f : α → Infer β} (hx : Faultless x) (hf : ∀ a, x = .ok a → Faultless (f a)) :
    Faultless (x >>= f) := by
  cases x with
  | ok a => exact hf a rfl
  | error failure =>
    cases failure with
    | rejected cause => exact nofun
    | fault fault => exact absurd rfl (hx fault)

end Faultless

end Infer

open Infer (Faultless)

/-! ## Steps -/

theorem Magnitude.dimOrOverflow_faultless (a : Magnitude .dimension) (name : Overflow) :
    Faultless (a.dimOrOverflow name) := by
  unfold Magnitude.dimOrOverflow Magnitude.orOverflow
  cases a.value with
  | none => exact nofun
  | some n => exact nofun

theorem Dim.remainder_faultless {m n : Dim} (hn : n ≠ 0) : Faultless (remainder m n) :=
  .of_eq_ok (if_neg hn)

theorem Dim.quotient_faultless {m n : Dim} (hn : n ≠ 0) : Faultless (quotient m n) :=
  .of_eq_ok (if_neg hn)

/-- An integer between 1 and the largest dimension is a dimension other than zero. -/
theorem Dim.ofInt_of_bounds {n : ℤ} (hpos : 1 ≤ n) (hle : n ≤ largest.toNat) :
    Faultless (ofInt n) ∧ ∀ d, ofInt n = .ok d → d ≠ 0 := by
  have hrange : 0 ≤ n ∧ n ≤ largest.toNat := ⟨le_trans zero_le_one hpos, hle⟩
  refine ⟨.of_eq_ok (if_pos hrange), fun d hd => ne_zero_iff.mpr ?_⟩
  rw [ofInt_eq_ok.mp hd] at hpos
  exact Int.ofNat_le.mp hpos

theorem ActivationLayout.split_faultless (layout : ActivationLayout) {s : Shape}
    (h : s.length = 4) : Faultless (layout.split s) := by
  obtain ⟨x, rfl⟩ := layout.exists_join h
  exact .of_eq_ok layout.split_join

theorem FilterLayout.split_faultless (layout : FilterLayout) {s : Shape} (h : s.length = 4) :
    Faultless (layout.split s) := by
  obtain ⟨f, rfl⟩ := layout.exists_join h
  exact .of_eq_ok layout.split_join

theorem TransposedFilterLayout.split_faultless (layout : TransposedFilterLayout) {s : Shape}
    (h : s.length = 4) : Faultless (layout.split s) := by
  obtain ⟨f, rfl⟩ := layout.exists_join h
  exact .of_eq_ok layout.split_join

/-! ## Windows and paddings -/

theorem AutoPad.distribute_faultless (policy : AutoPad) (total : Dim) :
    Faultless (policy.distribute total) := by
  obtain ⟨p, hp⟩ := policy.exists_shares total.le_largest
  exact .of_eq_ok (distribute_eq_ok.mpr hp)

namespace Window

variable {w : Window} {p : AxisPadding}

theorem positions_faultless (w : Window) (operator : String) (p : AxisPadding) :
    Faultless (w.positions operator p) :=
  .bind (Magnitude.dimOrOverflow_faultless _ _) fun _ _ => .bind (.require _ _) fun _ _ =>
    .bind (.require _ _) fun _ _ => .pure _

/-- Positions that were computed are dimensions other than zero, rounded down or up. -/
theorem positions_bounds {operator : String} {v : ℚ} (hs : 0 < w.stride.toNat)
    (h : w.positions operator p = .ok v) :
    1 ≤ v.floor ∧ v.floor ≤ v.ceil ∧ v.ceil ≤ Dim.largest.toNat := by
  obtain ⟨hfits, rfl⟩ := (positions_eq_ok hs).mp h
  rw [Rounding.floor_eq, Rounding.ceil_eq]
  refine ⟨?_, Int.floor_le_ceil _, ?_⟩
  · rw [floor_ratio hs]
    exact Int.ofNat_le.mpr (Nat.le_add_left 1 _)
  · rw [Int.ceil_le, Int.cast_natCast]
    exact (ratio_le_largest_iff hs).mpr hfits.countBound

/-- So both roundings succeed, with dimensions other than zero. -/
theorem ofInt_positions {operator : String} {v : ℚ} (hs : 0 < w.stride.toNat)
    (h : w.positions operator p = .ok v) :
    (Faultless (Dim.ofInt v.floor) ∧ ∀ d, Dim.ofInt v.floor = .ok d → d ≠ 0) ∧
      Faultless (Dim.ofInt v.ceil) ∧ ∀ d, Dim.ofInt v.ceil = .ok d → d ≠ 0 := by
  obtain ⟨hfloor, hle, hceil⟩ := positions_bounds hs h
  exact ⟨Dim.ofInt_of_bounds hfloor (le_trans hle hceil),
    Dim.ofInt_of_bounds (le_trans hfloor hle) hceil⟩

theorem samePadding_faultless (w : Window) (policy : AutoPad) :
    Faultless (w.samePadding policy).result := by
  unfold samePadding
  simp only [Traced.result_bind, Traced.result_liftM, Traced.result_emit, Traced.result_pure]
  exact .bind (Magnitude.dimOrOverflow_faultless _ _) fun _ _ =>
    .bind (policy.distribute_faultless _) fun _ _ => .bind (.of_eq_ok rfl) fun _ _ => .of_eq_ok rfl

theorem transposedSamePadding_faultless (w : Window) (policy : AutoPad) (outputPadding : Dim) :
    Faultless (w.transposedSamePadding policy outputPadding).result := by
  unfold transposedSamePadding
  simp only [Traced.result_bind, Traced.result_liftM, Traced.result_emit, Traced.result_pure]
  exact .bind (Magnitude.dimOrOverflow_faultless _ _) fun _ _ =>
    .bind (policy.distribute_faultless _) fun _ _ => .bind (.of_eq_ok rfl) fun _ _ => .of_eq_ok rfl

theorem transposedSize_faultless (w : Window) (p : AxisPadding) (outputPadding : Dim) :
    Faultless (w.transposedSize p outputPadding) :=
  Magnitude.dimOrOverflow_faultless _ _

end Window

/-- The paddings of both axes end without a fault when each of them does. -/
theorem Padding2d.ofAxes_faultless {h w : Traced AxisPadding} (hh : Faultless h.result)
    (hw : Faultless w.result) :
    Faultless (do return ofAxes (← h) (← w) : Traced Padding2d).result := by
  simp only [Traced.result_bind, Traced.result_pure]
  exact .bind hh fun _ _ => .bind hw fun _ _ => .of_eq_ok rfl

theorem Padding.resolve_faultless (padding : Padding) (w : Window2d) :
    Faultless (padding.resolve w).result := by
  cases padding with
  | explicit given => exact .of_eq_ok rfl
  | auto policy =>
    exact Padding2d.ofAxes_faultless (w.height.samePadding_faultless policy)
      (w.width.samePadding_faultless policy)

theorem Padding.resolveTransposed_faultless (padding : Padding) (w : Window2d)
    (outputPadding : Size2d Dim) : Faultless (padding.resolveTransposed w outputPadding).result := by
  cases padding with
  | explicit given => exact .of_eq_ok rfl
  | auto policy =>
    exact Padding2d.ofAxes_faultless
      (w.height.transposedSamePadding_faultless policy outputPadding.height)
      (w.width.transposedSamePadding_faultless policy outputPadding.width)

/-! ## Convolutions -/

theorem requireConvolved_faultless (operator : String) (input filter : Operand) :
    Faultless (requireConvolved operator input filter) :=
  .bind (.require _ _) fun _ _ => .bind (.require _ _) fun _ _ =>
    .bind (.require _ _) fun _ _ => .require _ _

theorem requireSteps_faultless (operator : String) (strides dilations : Size2d Dim) (groups : Dim) :
    Faultless (requireSteps operator strides dilations groups) :=
  .bind (.require _ _) fun _ _ => .bind (.require _ _) fun _ _ => .require _ _

theorem Shape.dim_faultless {s : Shape} {place : ℕ} (h : place < s.length) :
    Faultless (s.dim place) :=
  .of_eq_ok (dim_eq_ok.mpr (List.getElem?_eq_getElem h))

theorem requireBias_faultless (operator : String) (bias : Option Operand) (dataType : DataType)
    (channels : Dim) : Faultless (requireBias operator bias dataType channels) := by
  cases bias with
  | none => exact .of_eq_ok rfl
  | some bias =>
    refine .bind (.require _ _) fun _ _ => .bind (.require _ _) fun _ hrank => ?_
    have hlength : bias.shape.length = 1 := require_eq_ok.mp hrank
    exact .bind (Shape.dim_faultless (by omega)) fun _ _ => .require _ _

theorem Convolution.operands_faultless (c : Convolution) (input filter : Operand) :
    Faultless (c.operands input filter) := by
  refine .bind (requireConvolved_faultless _ _ _) fun _ hconvolved => ?_
  obtain ⟨hinput, -, hfilter, -⟩ := requireConvolved_eq_ok.mp hconvolved
  refine .bind (requireSteps_faultless _ _ _ _) fun _ hsteps => ?_
  have hgroups := Dim.ne_zero_iff.mpr (requireSteps_eq_ok.mp hsteps).2.2
  exact .bind (c.layout.split_faultless hinput) fun _ _ =>
    .bind (c.filterLayout.split_faultless hfilter) fun _ _ =>
    .bind (Dim.remainder_faultless hgroups) fun _ _ => .bind (.require _ _) fun _ _ =>
    .bind (Dim.quotient_faultless hgroups) fun _ _ => .bind (.require _ _) fun _ _ => .pure _

namespace TransposedConvolution

theorem operands_faultless (c : TransposedConvolution) (input filter : Operand) :
    Faultless (c.operands input filter) := by
  refine .bind (requireConvolved_faultless _ _ _) fun _ hconvolved => ?_
  obtain ⟨hinput, -, hfilter, -⟩ := requireConvolved_eq_ok.mp hconvolved
  refine .bind (requireSteps_faultless _ _ _ _) fun _ hsteps => ?_
  have hgroups := Dim.ne_zero_iff.mpr (requireSteps_eq_ok.mp hsteps).2.2
  exact .bind (c.layout.split_faultless hinput) fun _ _ =>
    .bind (c.filterLayout.split_faultless hfilter) fun _ _ =>
    .bind (Dim.remainder_faultless hgroups) fun _ _ => .bind (.require _ _) fun _ _ =>
    .bind (.require _ _) fun _ _ => .bind (.require _ _) fun _ _ => .pure _

theorem requireRequested_faultless (axis : String) (requested computed stride : Dim) :
    Faultless (requireRequested axis requested computed stride).result := by
  unfold requireRequested
  simp only [Traced.result_bind, Traced.result_liftM]
  refine .bind (.require _ _) fun _ _ => .bind (Magnitude.dimOrOverflow_faultless _ _) fun _ _ => ?_
  split_ifs
  · exact .of_eq_ok rfl
  · rw [Traced.result_bind]
    exact .bind (.of_eq_ok rfl) fun _ _ => .reject _

theorem outputSize_faultless (c : TransposedConvolution) (w : Window2d) (p : Padding2d) :
    Faultless (c.outputSize w p).result := by
  unfold outputSize
  cases c.outputSizes with
  | none =>
    simp only [Traced.result_bind, Traced.result_liftM, Traced.result_pure]
    exact .bind (w.height.transposedSize_faultless _ _) fun _ _ =>
      .bind (w.width.transposedSize_faultless _ _) fun _ _ => .of_eq_ok rfl
  | some requested =>
    simp only [Traced.result_bind, Traced.result_liftM, Traced.result_pure]
    exact .bind (w.height.transposedSize_faultless _ _) fun _ _ =>
      .bind (w.width.transposedSize_faultless _ _) fun _ _ =>
      .bind (requireRequested_faultless _ _ _ _) fun _ _ =>
      .bind (requireRequested_faultless _ _ _ _) fun _ _ => .of_eq_ok rfl

end TransposedConvolution

/-! ## Poolings -/

theorem PoolKind.requireInput_faultless (kind : PoolKind) (input : Operand) :
    Faultless (kind.requireInput input) := by
  refine .bind (.require _ _) fun _ _ => ?_
  split_ifs
  · exact .require _ _
  · exact .pure _

theorem PoolKind.rank_of_requireInput {kind : PoolKind} {input : Operand} {u : Unit}
    (h : kind.requireInput input = .ok u) : input.rank = 4 := by
  obtain ⟨_, hrank, -⟩ := Infer.bind_eq_ok.mp h
  exact require_eq_ok.mp hrank

namespace Pooling

theorem operand_faultless (p : Pooling) (input : Operand) : Faultless (p.operand input) :=
  .bind (p.kind.requireInput_faultless input) fun _ hinput => .bind (.require _ _) fun _ _ =>
    .bind (.require _ _) fun _ _ => .bind (.require _ _) fun _ _ =>
    p.layout.split_faultless (PoolKind.rank_of_requireInput hinput)

theorem strides_of_operand {p : Pooling} {input : Operand} {x : Activation}
    (h : p.operand input = .ok x) :
    0 < p.strides.height.toNat ∧ 0 < p.strides.width.toNat := by
  unfold operand Size2d.requirePositive at h
  simp only [Infer.bind_eq_ok, require_eq_ok, Dim.ne_zero_iff] at h
  obtain ⟨_, -, _, -, _, hstrides, -⟩ := h
  exact hstrides

theorem choose_faultless (p : Pooling) (floor ceil : Size2d Dim) :
    Faultless (p.choose floor ceil).result := by
  unfold choose
  cases p.outputSizes with
  | none =>
    cases p.rounding with
    | floor => exact .of_eq_ok rfl
    | ceil => exact .of_eq_ok rfl
  | some requested =>
    dsimp only
    split_ifs
    · exact .of_eq_ok rfl
    · rw [Traced.result_bind]
      exact .bind (.of_eq_ok rfl) fun _ _ => .reject _

end Pooling

end TensorTyping
