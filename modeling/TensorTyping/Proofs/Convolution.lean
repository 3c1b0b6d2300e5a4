import Mathlib
import TensorTyping.Operator.Convolution
import TensorTyping.Proofs.Layout
import TensorTyping.Proofs.Window

/-!
# Convolution against a specification in natural numbers

A convolution divides doubles and checks its request in a fixed order. The specification here does
neither: it names the sizes, lists what has to hold of them, and counts window positions.

* `Convolution.Matches` — the input and the filter fit each other and the attributes.
* `Padding.Resolves` — the padding as given, or as computed for both axes.
* `Convolution.Accepts` — all that a convolution asks, up to the size of its output.
* `Convolution.infer_iff_accepts_counted` — a convolution succeeds exactly for the accepted requests
  with an output that can be counted, and gives one cell for each position of the window.
-/

namespace TensorTyping

/-! ## Rules shared by both directions -/

theorem requireConvolved_eq_ok {operator : String} {input filter : Operand} {u : Unit} :
    requireConvolved operator input filter = .ok u ↔
      input.rank = 4 ∧ input.dataType.isFloatingPoint ∧ filter.rank = 4 ∧
        filter.dataType = input.dataType := by
  unfold requireConvolved Operand.requireRank Operand.requireFloatingPoint Operand.requireType
  simp

theorem requireSteps_eq_ok {operator : String} {strides dilations : Size2d Dim} {groups : Dim}
    {u : Unit} :
    requireSteps operator strides dilations groups = .ok u ↔
      (0 < strides.height.toNat ∧ 0 < strides.width.toNat) ∧
        (0 < dilations.height.toNat ∧ 0 < dilations.width.toNat) ∧ 0 < groups.toNat := by
  unfold requireSteps Size2d.requirePositive
  simp only [Infer.bind_eq_ok, require_eq_ok, Dim.ne_zero_iff, exists_const]

/-- A bias is absent, or has the type of the input and one entry for each output channel. -/
theorem requireBias_eq_ok {operator : String} {bias : Option Operand} {dataType : DataType}
    {channels : Dim} {u : Unit} :
    requireBias operator bias dataType channels = .ok u ↔
      ∀ b ∈ bias, b.dataType = dataType ∧ b.shape = [channels] := by
  cases bias with
  | none => simp [requireBias]
  | some b =>
    obtain ⟨type, shape⟩ := b
    unfold requireBias Operand.requireRank Operand.requireType Operand.rank
    match shape with
    | [] => simp
    | [d] => simp
    | d :: e :: rest => simp

/-! ## Padding -/

/-- The paddings of both axes are computed one after the other. -/
theorem Padding2d.result_ofAxes_eq_ok {h w : Traced AxisPadding} {p : Padding2d} :
    (do return ofAxes (← h) (← w) : Traced Padding2d).result = .ok p ↔
      h.result = .ok p.height ∧ w.result = .ok p.width := by
  simp only [Traced.result_bind, Traced.result_pure, Infer.bind_eq_ok, Except.ok.injEq]
  constructor
  · rintro ⟨height, hheight, width, hwidth, rfl⟩
    exact ⟨hheight, hwidth⟩
  · rintro ⟨hheight, hwidth⟩
    exact ⟨p.height, hheight, p.width, hwidth, rfl⟩

/-- The padding of a convolution: as given, or as each axis computes it. -/
def Padding.Resolves (padding : Padding) (w : Window2d) (p : Padding2d) : Prop :=
  match padding with
  | explicit given => p = given
  | auto policy =>
    (w.height.samePadding policy).result = .ok p.height ∧
      (w.width.samePadding policy).result = .ok p.width

theorem Padding.resolve_eq_ok {padding : Padding} {w : Window2d} {p : Padding2d} :
    (padding.resolve w).result = .ok p ↔ padding.Resolves w p := by
  cases padding with
  | explicit given =>
    unfold resolve Resolves
    rw [Traced.result_pure, Except.ok.injEq]
    exact eq_comm
  | auto policy => exact Padding2d.result_ofAxes_eq_ok

/-! ## The specification -/

namespace Convolution

variable {c : Convolution} {input filter y : Operand} {x : Activation} {f : Filter} {p : Padding2d}

/-- The input has the sizes `x`, the filter has the sizes `f`, and these fit each other and the
attributes. -/
structure Matches (c : Convolution) (input filter : Operand) (x : Activation) (f : Filter) :
    Prop where
  inputRank : input.rank = 4
  filterRank : filter.rank = 4
  inputShape : input.shape = c.layout.join x
  filterShape : filter.shape = c.filterLayout.join f
  floatingPoint : input.dataType.isFloatingPoint
  sameType : filter.dataType = input.dataType
  strides : 0 < c.strides.height.toNat ∧ 0 < c.strides.width.toNat
  dilations : 0 < c.dilations.height.toNat ∧ 0 < c.dilations.width.toNat
  groups : 0 < c.groups.toNat
  divides : c.groups.toNat ∣ x.channels.toNat
  share : f.inputChannels.toNat = x.channels.toNat / c.groups.toNat

theorem operands_eq_ok : c.operands input filter = .ok (x, f) ↔ c.Matches input filter x f := by
  unfold operands
  simp only [Infer.bind_eq_ok, requireConvolved_eq_ok, requireSteps_eq_ok, Dim.remainder_eq_ok,
    Dim.quotient_eq_ok, require_eq_ok, Infer.pure_eq_ok]
  constructor
  · rintro ⟨_, ⟨hin, hfloat, hfil, htype⟩, _, ⟨hstrides, hdilations, hgroups⟩, x', hx, f', hf,
      rest, ⟨-, hrest⟩, _, rfl, share, ⟨-, hshare⟩, _, rfl, hpair⟩
    obtain ⟨rfl, rfl⟩ := Prod.mk.inj hpair
    exact ⟨hin, hfil, (c.layout.split_eq_ok hin).mp hx, (c.filterLayout.split_eq_ok hfil).mp hf,
      hfloat, htype, hstrides, hdilations, hgroups, Nat.dvd_of_mod_eq_zero hrest.symm, hshare⟩
  · intro h
    have hgroups := Dim.ne_zero_iff.mpr h.groups
    refine ⟨(), ⟨h.inputRank, h.floatingPoint, h.filterRank, h.sameType⟩, (),
      ⟨h.strides, h.dilations, h.groups⟩, x, (c.layout.split_eq_ok h.inputRank).mpr h.inputShape,
      f, (c.filterLayout.split_eq_ok h.filterRank).mpr h.filterShape,
      0, ⟨hgroups, (Nat.mod_eq_zero_of_dvd h.divides).symm⟩, (), rfl,
      f.inputChannels, ⟨hgroups, h.share⟩, (), rfl, rfl⟩

/-- All that a convolution asks of a request before it looks at the size of the output. -/
structure Accepts (c : Convolution) (input filter : Operand) (x : Activation) (f : Filter)
    (p : Padding2d) : Prop extends c.Matches input filter x f where
  padding : c.padding.Resolves (c.window x f) p
  height : (c.window x f).height.Fits p.height
  width : (c.window x f).width.Fits p.width
  bias : ∀ b ∈ c.bias, b.dataType = input.dataType ∧ b.shape = [f.outputChannels]

/-- A convolution succeeds for the accepted requests whose output can be counted. -/
theorem infer_eq_ok :
    (c.infer input filter).result = .ok y ↔
      ∃ x f p, c.Accepts input filter x f p ∧ ∃ h w : Dim,
        h.toNat = ((c.window x f).height.padded p.height - (c.window x f).height.span)
          / c.strides.height.toNat + 1 ∧
        w.toNat = ((c.window x f).width.padded p.width - (c.window x f).width.span)
          / c.strides.width.toNat + 1 ∧
        Operand.create input.dataType
          (c.layout.join ⟨x.batches, f.outputChannels, h, w⟩) = .ok y := by
  unfold infer
  simp only [Traced.result_bind, Traced.result_liftM, Traced.result_emit, Infer.bind_eq_ok,
    Padding.resolve_eq_ok, requireBias_eq_ok, Dim.ofInt_eq_ok]
  constructor
  · rintro ⟨⟨x, f⟩, hoperands, p, hpadding, v, hv, v', hv', _, -, _, hbias, h, hh, w, hw, hy⟩
    have hmatches := operands_eq_ok.mp hoperands
    obtain ⟨hfit, rfl⟩ := (Window.positions_eq_ok hmatches.strides.1).mp hv
    obtain ⟨hfit', rfl⟩ := (Window.positions_eq_ok hmatches.strides.2).mp hv'
    rw [Rounding.floor_eq, Window.floor_ratio hmatches.strides.1] at hh
    rw [Rounding.floor_eq, Window.floor_ratio hmatches.strides.2] at hw
    exact ⟨x, f, p, ⟨hmatches, hpadding, hfit, hfit', hbias⟩, h, w, (Int.ofNat.inj hh).symm,
      (Int.ofNat.inj hw).symm, hy⟩
  · rintro ⟨x, f, p, haccepts, h, w, hh, hw, hy⟩
    refine ⟨(x, f), operands_eq_ok.mpr haccepts.toMatches, p, haccepts.padding,
      _, (Window.positions_eq_ok haccepts.strides.1).mpr ⟨haccepts.height, rfl⟩,
      _, (Window.positions_eq_ok haccepts.strides.2).mpr ⟨haccepts.width, rfl⟩,
      (), trivial, (), haccepts.bias, h, ?_, w, ?_, hy⟩
    · rw [Rounding.floor_eq, Window.floor_ratio haccepts.strides.1, hh]
      rfl
    · rw [Rounding.floor_eq, Window.floor_ratio haccepts.strides.2, hw]
      rfl

/-- **A convolution is sound and complete for counting.** It succeeds exactly when the request is
accepted and the output, with one cell for each position of the window on the padded axes, is an
operand. The counts of an accepted request are always dimensions. -/
theorem infer_iff_accepts_counted (c : Convolution) (input filter : Operand) :
    (∀ y, (c.infer input filter).result = .ok y ↔
      ∃ x f p, c.Accepts input filter x f p ∧ ∃ h w : Dim,
        h.toNat = ((c.window x f).height.placements
          ((c.window x f).height.padded p.height)).ncard ∧
        w.toNat = ((c.window x f).width.placements
          ((c.window x f).width.padded p.width)).ncard ∧
        Operand.create input.dataType
          (c.layout.join ⟨x.batches, f.outputChannels, h, w⟩) = .ok y) ∧
    ∀ x f p, c.Accepts input filter x f p →
      ((c.window x f).height.placements
        ((c.window x f).height.padded p.height)).ncard ≤ Dim.largest.toNat ∧
      ((c.window x f).width.placements
        ((c.window x f).width.padded p.width)).ncard ≤ Dim.largest.toNat := by
  refine ⟨fun y => ?_, fun x f p h =>
    ⟨h.height.ncard_le h.strides.1, h.width.ncard_le h.strides.2⟩⟩
  rw [infer_eq_ok]
  refine exists₃_congr fun x f p => and_congr_right fun h => ?_
  have hheight := Window.ncard_placements h.strides.1 h.height.room
  have hwidth := Window.ncard_placements h.strides.2 h.width.room
  rw [hheight, hwidth]
  rfl

end Convolution

end TensorTyping
