import Mathlib
import TensorTyping.Call
import TensorTyping.Proofs.Axes
import TensorTyping.Proofs.Broadcast
import TensorTyping.Proofs.Faultless
import TensorTyping.Proofs.Joining

/-!
# No call faults

The operations with a domain fault exactly outside of it, and the operators take them on places,
divisors and numbers of every origin: axes from attributes, ranks of operands, rounded products. In
each operator the rules that come first leave only those inside the domain. So a call has outputs
or is rejected for a cause, whatever operands and attributes it is given.

* `DomainFaults` — the operations with a domain, and where they fault.
* `requireAxes_faultless`, `broadcast_faultless`, … — the steps that operators share.
* `Call.infer_faultless` — the operators.
* `inference_never_faults` — all of it.
-/

namespace TensorTyping

namespace Infer.Faultless

variable {α β : Type}

/-- A guarded value faults exactly when its guard fails. -/
theorem guard_iff {p : Prop} [Decidable p] {a : α} {fault : Fault} :
    Faultless (if p then .ok a else fault.raise) ↔ p := by
  by_cases h : p
  · rw [if_pos h]
    exact iff_of_true (of_eq_ok rfl) h
  · rw [if_neg h]
    exact iff_of_false (fun hx => hx fault rfl) h

theorem traced_bind {x : Traced α} {f : α → Traced β} (hx : Faultless x.result)
    (hf : ∀ a, x.result = .ok a → Faultless (f a).result) : Faultless (x >>= f).result := by
  rw [Traced.result_bind]
  exact bind hx hf

/-- A traversal ends without a fault when each of its steps does. -/
theorem mapM {f : α → Infer β} {l : List α} (h : ∀ a ∈ l, Faultless (f a)) :
    Faultless (l.mapM f) := by
  induction l with
  | nil => exact pure []
  | cons a l ih =>
    obtain ⟨ha, hl⟩ := List.forall_mem_cons.mp h
    rw [List.mapM_cons]
    exact bind ha fun _ _ => bind (ih hl) fun _ _ => pure _

end Infer.Faultless

/-- The inference ends with a value, or with a rejection for a cause of one of the categories. -/
def Infer.Concludes {α : Type} (x : Infer α) : Prop :=
  (∃ a, x = .ok a) ∨ ∃ cause, x = reject cause

/-- Without a fault these two ends are left. -/
theorem Infer.Faultless.concludes {α : Type} {x : Infer α} (h : Faultless x) : Concludes x := by
  cases x with
  | ok a => exact .inl ⟨a, rfl⟩
  | error failure =>
    cases failure with
    | rejected cause => exact .inr ⟨cause, rfl⟩
    | fault fault => exact absurd rfl (h fault)

open Infer (Faultless Concludes)

/-! ## Operations with a domain -/

/-- Every operation with a domain faults outside of it, and only there. -/
structure DomainFaults : Prop where
  place (s : Shape) (place : ℕ) : Faultless (s.dim place) ↔ place < s.length
  replaced (s : Shape) (place : ℕ) (d : Dim) : Faultless (s.set place d) ↔ place < s.length
  before (s : Shape) (place : ℕ) : Faultless (s.before place) ↔ place ≤ s.length
  onward (s : Shape) (place : ℕ) : Faultless (s.onward place) ↔ place ≤ s.length
  flag {rank : ℕ} (flags : AxisFlags rank) (axis : Dim) :
    Faultless (flags.read axis) ↔ axis.toNat < rank
  flagged {rank : ℕ} (flags : AxisFlags rank) (axis : Dim) :
    Faultless (flags.set axis) ↔ axis.toNat < rank
  places (m n : ℕ) : Faultless (difference m n) ↔ n ≤ m
  minus (m n : Dim) : Faultless (Dim.minus m n) ↔ n ≤ m
  quotient (m n : Dim) : Faultless (Dim.quotient m n) ↔ n ≠ 0
  remainder (m n : Dim) : Faultless (Dim.remainder m n) ↔ n ≠ 0
  narrowed (n : ℤ) : Faultless (Dim.ofInt n) ↔ 0 ≤ n ∧ n ≤ Dim.largest.toNat

theorem domainFaults : DomainFaults where
  place s place := by
    refine ⟨fun h => ?_, Shape.dim_faultless⟩
    by_contra hplace
    have hnone : s.dim place = Fault.raise .place := by
      rw [Shape.dim, List.getElem?_eq_none (Nat.le_of_not_lt hplace)]
    exact h .place hnone
  replaced _ _ _ := Faultless.guard_iff
  before _ _ := Faultless.guard_iff
  onward _ _ := Faultless.guard_iff
  flag flags axis := by
    refine ⟨fun h => ?_, fun haxis => .of_eq_ok (dif_pos haxis)⟩
    by_contra haxis
    exact h .place (dif_neg haxis)
  flagged _ _ := Faultless.guard_iff
  places _ _ := Faultless.guard_iff
  minus _ _ := Faultless.guard_iff
  quotient m n := by
    rw [Dim.quotient, ← ite_not]
    exact Faultless.guard_iff
  remainder m n := by
    rw [Dim.remainder, ← ite_not]
    exact Faultless.guard_iff
  narrowed _ := Faultless.guard_iff

theorem Shape.dimFromEnd_faultless {s : Shape} {back : ℕ} (hpos : 0 < back)
    (h : back ≤ s.length) : Faultless (s.dimFromEnd back) := by
  refine .bind ((domainFaults.places _ _).mpr h) fun place hplace => ?_
  obtain ⟨-, rfl⟩ := difference_eq_ok.mp hplace
  exact Shape.dim_faultless (by omega)

/-! ## Shared steps -/

theorem Operand.create_faultless (dataType : DataType) (shape : Shape) :
    Faultless (create dataType shape) :=
  .bind (.require _ _) fun _ _ => .pure _

theorem Magnitude.orOverflow_faultless {w : Width} (a : Magnitude w) (name : Overflow) :
    Faultless (a.orOverflow name) := by
  unfold Magnitude.orOverflow
  cases a.value with
  | none => exact .reject _
  | some n => exact .of_eq_ok rfl

section Axes

variable {operator : String} {axes : List Dim} {rank : ℕ} {u : Unit}

theorem requireAxes_faultless : Faultless (requireAxes operator axes rank) :=
  .of_rejectsAs requireAxes_rejectsAs

/-- Axes that passed their rule can be read off a shape of the rank. -/
theorem mapM_dim_faultless {s : Shape} (h : requireAxes operator axes s.length = .ok u) :
    Faultless (axes.mapM fun axis => s.dim axis.toNat) :=
  .mapM fun axis haxis => Shape.dim_faultless ((requireAxes_eq_ok.mp h).inRange axis haxis)

end Axes

section Broadcasting

variable (use : BroadcastUse) (direction : Direction) (lhs rhs : Shape)

theorem broadcastDim_faultless (place : ℕ) :
    Faultless (broadcastDim use direction lhs rhs place) := by
  refine .bind (.of_eq_ok (lhs.aligned_eq place)) fun left _ => ?_
  refine .bind (.of_eq_ok (rhs.aligned_eq place)) fun right _ => ?_
  cases direction.join? left right with
  | none => exact .reject _
  | some dim => exact .pure dim

theorem broadcast_faultless : Faultless (broadcast use direction lhs rhs) :=
  .bind (.require _ _) fun _ _ =>
    .bind (.mapM fun place _ => broadcastDim_faultless use direction lhs rhs place) fun _ _ =>
    .pure _

end Broadcasting

/-! ## Window operators -/

theorem Convolution.infer_faultless (c : Convolution) (input filter : Operand) :
    Faultless (c.infer input filter).result := by
  refine .traced_bind (c.operands_faultless input filter) fun ⟨x, f⟩ hoperands => ?_
  obtain ⟨hstride, hstride'⟩ := (operands_eq_ok.mp hoperands).strides
  refine .traced_bind (c.padding.resolve_faultless _) fun padding _ => ?_
  refine .traced_bind (Window.positions_faultless _ _ _) fun height hheight => ?_
  refine .traced_bind (Window.positions_faultless _ _ _) fun width hwidth => ?_
  refine .traced_bind (.of_eq_ok rfl) fun _ _ => ?_
  refine .traced_bind (requireBias_faultless _ _ _ _) fun _ _ => ?_
  refine .traced_bind (Window.ofInt_positions hstride hheight).1.1 fun _ _ => ?_
  refine .traced_bind (Window.ofInt_positions hstride' hwidth).1.1 fun _ _ => ?_
  exact Operand.create_faultless _ _

theorem TransposedConvolution.infer_faultless (c : TransposedConvolution) (input filter : Operand) :
    Faultless (c.infer input filter).result :=
  .traced_bind (c.operands_faultless input filter) fun ⟨_, _⟩ _ =>
    .traced_bind (c.padding.resolveTransposed_faultless _ _) fun _ _ =>
    .traced_bind (c.outputSize_faultless _ _) fun _ _ =>
    .traced_bind (Magnitude.dimOrOverflow_faultless _ _) fun _ _ =>
    .traced_bind (requireBias_faultless _ _ _ _) fun _ _ => Operand.create_faultless _ _

theorem Pooling.infer_faultless (p : Pooling) (input : Operand) :
    Faultless (p.infer input).result := by
  refine .traced_bind (p.operand_faultless input) fun x hoperand => ?_
  obtain ⟨hstride, hstride'⟩ := strides_of_operand hoperand
  refine .traced_bind (p.padding.resolve_faultless _) fun padding _ => ?_
  refine .traced_bind (Window.positions_faultless _ _ _) fun height hheight => ?_
  refine .traced_bind (Window.positions_faultless _ _ _) fun width hwidth => ?_
  refine .traced_bind (.of_eq_ok rfl) fun _ _ => ?_
  obtain ⟨⟨hfloor, -⟩, hceil, -⟩ := Window.ofInt_positions hstride hheight
  obtain ⟨⟨hfloor', -⟩, hceil', -⟩ := Window.ofInt_positions hstride' hwidth
  exact .traced_bind hfloor fun _ _ => .traced_bind hfloor' fun _ _ =>
    .traced_bind hceil fun _ _ => .traced_bind hceil' fun _ _ =>
    .traced_bind (p.choose_faultless _ _) fun _ _ => Operand.create_faultless _ _

theorem globalPooling_faultless (kind : PoolKind) (layout : ActivationLayout) (input : Operand) :
    Faultless (globalPooling kind layout input) :=
  .bind (kind.requireInput_faultless input) fun _ hinput =>
    .bind (layout.split_faultless (PoolKind.rank_of_requireInput hinput)) fun _ _ =>
    Operand.create_faultless _ _

/-! ## Matrix products -/

theorem matmul_faultless (a b : Operand) : Faultless (matmul a b) := by
  refine .bind (.require _ _) fun _ _ => .bind (.require _ _) fun _ hranks => ?_
  obtain ⟨ha, hb⟩ : 2 ≤ a.shape.length ∧ 2 ≤ b.shape.length := require_eq_ok.mp hranks
  -- both have the two axes of a matrix, so these and the axes before them can be read
  have hread : ∀ s : Shape, 2 ≤ s.length →
      Faultless (s.dimFromEnd 2) ∧ Faultless (s.dimFromEnd 1) := fun s hs =>
    ⟨Shape.dimFromEnd_faultless two_pos hs, Shape.dimFromEnd_faultless one_pos (by omega)⟩
  have hbatch : ∀ s : Shape, 2 ≤ s.length → ∀ n, difference s.length 2 = .ok n →
      Faultless (s.before n) := by
    intro s hs n hn
    obtain ⟨-, rfl⟩ := difference_eq_ok.mp hn
    exact (domainFaults.before _ _).mpr (Nat.sub_le _ _)
  refine .bind (hread _ ha).1 fun _ _ => .bind (hread _ ha).2 fun _ _ => ?_
  refine .bind (hread _ hb).1 fun _ _ => .bind (hread _ hb).2 fun _ _ => ?_
  refine .bind (.require _ _) fun _ _ => ?_
  refine .bind ((domainFaults.places _ _).mpr ha) fun n hn => .bind (hbatch _ ha n hn) fun _ _ => ?_
  refine .bind ((domainFaults.places _ _).mpr hb) fun n hn => .bind (hbatch _ hb n hn) fun _ _ => ?_
  exact .bind (broadcast_faultless _ _ _ _) fun _ _ => Operand.create_faultless _ _

theorem Operand.matrix_faultless {x : Operand} (h : x.rank = 2) (transposed : Bool) :
    Faultless (x.matrix transposed) := by
  have hlength : x.shape.length = 2 := h
  have hrows : Faultless (x.shape.dim 0) := Shape.dim_faultless (by omega)
  have hcolumns : Faultless (x.shape.dim 1) := Shape.dim_faultless (by omega)
  cases transposed with
  | false => exact .bind hrows fun _ _ => .bind hcolumns fun _ _ => .pure _
  | true => exact .bind hcolumns fun _ _ => .bind hrows fun _ _ => .pure _

theorem Gemm.requireAddend_faultless (g : Gemm) (dataType : DataType) (product : Shape) :
    Faultless (g.requireAddend dataType product) := by
  unfold requireAddend
  cases g.addend with
  | none => exact .pure _
  | some c =>
    exact .bind (.require _ _) fun _ _ => .bind (broadcast_faultless _ _ _ _) fun _ _ => .pure _

theorem Gemm.infer_faultless (g : Gemm) (a b : Operand) : Faultless (g.infer a b) := by
  refine .bind (.require _ _) fun _ _ => ?_
  refine .bind (.require _ _) fun _ ha => .bind (.require _ _) fun _ hb => ?_
  refine .bind (Operand.matrix_faultless (require_eq_ok.mp ha) _) fun ⟨_, _⟩ _ => ?_
  refine .bind (Operand.matrix_faultless (require_eq_ok.mp hb) _) fun ⟨_, _⟩ _ => ?_
  exact .bind (.require _ _) fun _ _ => .bind (g.requireAddend_faultless _ _) fun _ _ =>
    Operand.create_faultless _ _

/-! ## Elementwise operators -/

theorem BinaryKind.infer_faultless (kind : BinaryKind) (a b : Operand) :
    Faultless (kind.infer a b) := by
  have houtput : Faultless (broadcast .plain .bidirectional a.shape b.shape >>= fun shape =>
      Operand.create (kind.outputType a.dataType) shape) :=
    .bind (broadcast_faultless _ _ _ _) fun _ _ => Operand.create_faultless _ _
  refine .bind (.require _ _) fun _ _ => ?_
  split_ifs
  · exact .bind (.require _ _) fun _ _ => houtput
  · exact houtput

theorem select_faultless (condition trueValue falseValue : Operand) :
    Faultless (select condition trueValue falseValue) :=
  .bind (.require _ _) fun _ _ => .bind (.require _ _) fun _ _ =>
    .bind (broadcast_faultless _ _ _ _) fun _ _ => .bind (broadcast_faultless _ _ _ _) fun _ _ =>
    Operand.create_faultless _ _

theorem prelu_faultless (input slope : Operand) : Faultless (prelu input slope) :=
  .bind (.require _ _) fun _ _ => .bind (.require _ _) fun _ _ =>
    .bind (broadcast_faultless _ _ _ _) fun _ _ => .pure _

theorem softmax_faultless (input : Operand) : Faultless (softmax input) :=
  .bind (.require _ _) fun _ _ => .bind (.require _ _) fun _ _ => .pure _

/-! ## Normalizations -/

theorem Operand.requireFeature_faultless (x : Operand) (dataType : DataType) (feature : Dim)
    (subject : String) : Faultless (x.requireFeature dataType feature subject) := by
  refine .bind (.require _ _) fun _ _ => .bind (.require _ _) fun _ hrank => ?_
  have hlength : x.shape.length = 1 := require_eq_ok.mp hrank
  exact .bind (Shape.dim_faultless (by omega)) fun _ _ => .require _ _

theorem requireOptionalFeature_faultless (x : Option Operand) (dataType : DataType)
    (feature : Dim) (subject : String) :
    Faultless (requireOptionalFeature x dataType feature subject) := by
  cases x with
  | none => exact .pure _
  | some x => exact x.requireFeature_faultless _ _ _

theorem BatchNormalization.infer_faultless (n : BatchNormalization)
    (input mean variance : Operand) : Faultless (n.infer input mean variance) := by
  refine .bind (.require _ _) fun _ _ => .bind (.require _ _) fun _ haxis => ?_
  refine .bind (Shape.dim_faultless (require_eq_ok.mp haxis)) fun _ _ => ?_
  exact .bind (mean.requireFeature_faultless _ _ _) fun _ _ =>
    .bind (variance.requireFeature_faultless _ _ _) fun _ _ =>
    .bind (requireOptionalFeature_faultless _ _ _ _) fun _ _ =>
    .bind (requireOptionalFeature_faultless _ _ _ _) fun _ _ => .pure _

theorem ActivationLayout.channelAxis_lt (layout : ActivationLayout) : layout.channelAxis < 4 := by
  cases layout <;> decide

theorem InstanceNormalization.infer_faultless (n : InstanceNormalization) (input : Operand) :
    Faultless (n.infer input) := by
  refine .bind (.require _ _) fun _ hrank => .bind (.require _ _) fun _ _ => ?_
  have hlength : input.shape.length = 4 := require_eq_ok.mp hrank
  have haxis : n.layout.channelAxis < input.shape.length := hlength ▸ n.layout.channelAxis_lt
  exact .bind (Shape.dim_faultless haxis) fun _ _ =>
    .bind (requireOptionalFeature_faultless _ _ _ _) fun _ _ =>
    .bind (requireOptionalFeature_faultless _ _ _ _) fun _ _ => .pure _

theorem LayerNormalization.requireShape_faultless (axes : List Dim) (dataType : DataType)
    (expected : Shape) (subject : String) (x : Option Operand) :
    Faultless (requireShape axes dataType expected subject x) := by
  cases x with
  | none => exact .pure _
  | some x => exact .bind (.require _ _) fun _ _ => .require _ _

theorem LayerNormalization.infer_faultless (n : LayerNormalization) (input : Operand) :
    Faultless (n.infer input) :=
  .bind (.require _ _) fun _ _ => .bind requireAxes_faultless fun _ haxes =>
    .bind (mapM_dim_faultless haxes) fun _ _ =>
    .bind (requireShape_faultless _ _ _ _ _) fun _ _ =>
    .bind (requireShape_faultless _ _ _ _ _) fun _ _ => .pure _

/-! ## Reductions -/

theorem Reduction.infer_faultless (r : Reduction) (input : Operand) :
    Faultless (r.infer input) := by
  have houtput : Faultless (requireAxes r.kind.operator r.axes input.rank >>= fun _ =>
      Operand.create input.dataType (input.shape.reduce r.axes r.keepDimensions)) :=
    .bind requireAxes_faultless fun _ _ => Operand.create_faultless _ _
  unfold infer
  split_ifs
  · exact .bind (.require _ _) fun _ _ => houtput
  · exact houtput

theorem ArgReduction.infer_faultless (r : ArgReduction) (input : Operand) :
    Faultless (r.infer input) :=
  .bind requireAxes_faultless fun _ _ => Operand.create_faultless _ _

/-! ## Joining and splitting -/

theorem requireDims_faultless {index place : ℕ} {axis : Dim} {dims expected : List Dim} :
    Faultless (requireDims index axis place dims expected) := by
  induction dims generalizing place expected with
  | nil => exact .of_eq_ok rfl
  | cons dim dims ih =>
    cases expected with
    | nil => exact .of_eq_ok rfl
    | cons _ _ => exact .bind (.require _ _) fun _ _ => ih

theorem requireJoinable_faultless {first : Operand} {axis : Dim} {index : ℕ}
    {inputs : List Operand} : Faultless (requireJoinable first axis index inputs) := by
  induction inputs generalizing index with
  | nil => exact .of_eq_ok rfl
  | cons input inputs ih =>
    exact .bind (.require _ _) fun _ _ => .bind (.require _ _) fun _ _ =>
      .bind requireDims_faultless fun _ _ => ih

theorem concat_faultless (inputs : List Operand) (axis : Dim) : Faultless (concat inputs axis) := by
  cases inputs with
  | nil => exact .reject _
  | cons first rest =>
    refine .bind (.require _ _) fun _ haxis => ?_
    refine .bind requireJoinable_faultless fun _ hjoinable => ?_
    -- the axis is one of the first input, and the others have the rank of that
    have hfirst : axis.toNat < first.rank := require_eq_ok.mp haxis
    have hranks : ∀ x ∈ first :: rest, axis.toNat < x.rank := by
      refine List.forall_mem_cons.mpr ⟨hfirst, fun x hx => ?_⟩
      rw [(requireJoinable_eq_ok.mp hjoinable x hx).sameRank]
      exact hfirst
    refine .bind (.mapM fun x hx => Shape.dim_faultless (hranks x hx)) fun _ _ => ?_
    refine .bind (Magnitude.dimOrOverflow_faultless _ _) fun _ _ => ?_
    exact .bind ((domainFaults.replaced _ _ _).mpr hfirst) fun _ _ => Operand.create_faultless _ _

theorem Partition.parts_faultless (partition : Partition) (size : Dim) (shape : Shape) :
    Faultless (partition.parts size shape) := by
  cases partition with
  | count parts =>
    refine .bind (.require _ _) fun _ hparts => .bind (.require _ _) fun _ _ => ?_
    have hne : parts ≠ 0 := require_eq_ok.mp hparts
    exact .bind (Dim.remainder_faultless hne) fun _ _ => .bind (.require _ _) fun _ _ =>
      .bind (Dim.quotient_faultless hne) fun _ _ => .pure _
  | sizes given =>
    exact .bind (.require _ _) fun _ _ => .bind (Magnitude.dimOrOverflow_faultless _ _) fun _ _ =>
      .bind (.require _ _) fun _ _ => .pure _

theorem split_faultless (partition : Partition) (axis : Dim) (input : Operand) :
    Faultless (split partition axis input) := by
  refine .bind (.require _ _) fun _ haxis => ?_
  have hlt : axis.toNat < input.shape.length := require_eq_ok.mp haxis
  refine .bind (Shape.dim_faultless hlt) fun size _ => ?_
  refine .bind (partition.parts_faultless size _) fun parts _ => .mapM fun part _ => ?_
  exact .bind ((domainFaults.replaced _ _ _).mpr hlt) fun _ _ => Operand.create_faultless _ _

/-! ## Regions -/

theorem requireBox_faultless {place : ℕ} {starts sizes dims : List Dim} :
    Faultless (requireBox place starts sizes dims) := by
  fun_induction requireBox place starts sizes dims with
  | case1 place start starts size sizes dim dims rest hsize ih =>
    exact .bind (.require _ _) fun _ _ => .bind (Magnitude.dimOrOverflow_faultless _ _) fun _ _ =>
      .bind (.require _ _) fun _ _ => ih
  | case2 place start starts size sizes dim dims rest hsize ih => exact ih
  | case3 => exact .of_eq_ok rfl

theorem slice_faultless (starts sizes : List Dim) (input : Operand) :
    Faultless (slice starts sizes input) :=
  .bind (.require _ _) fun _ _ => .bind (.require _ _) fun _ _ =>
    .bind requireBox_faultless fun _ _ => Operand.create_faultless _ _

theorem PadMode.pad_faultless (mode : PadMode) {place : ℕ} {dims beginnings endings : List Dim} :
    Faultless (mode.pad place dims beginnings endings) := by
  fun_induction mode.pad place dims beginnings endings with
  | case1 place dim dims beginning beginnings ending endings ih =>
    exact .bind (.require _ _) fun _ _ => .bind (Magnitude.dimOrOverflow_faultless _ _) fun _ _ =>
      .bind ih fun _ _ => .pure _
  | case2 => exact .pure _

theorem Pad.infer_faultless (p : Pad) (input : Operand) : Faultless (p.infer input) :=
  .bind (.require _ _) fun _ _ => .bind (.require _ _) fun _ _ =>
    .bind p.mode.pad_faultless fun _ _ => Operand.create_faultless _ _

theorem tile_faultless (repetitions : List Dim) (input : Operand) :
    Faultless (tile repetitions input) :=
  .bind (.require _ _) fun _ _ => .bind (.require _ _) fun _ _ =>
    .bind (.mapM fun _ _ => Magnitude.dimOrOverflow_faultless _ _) fun _ _ =>
    Operand.create_faultless _ _

/-! ## Arrangements -/

theorem transpose_faultless (permutation : List Dim) (input : Operand) :
    Faultless (transpose permutation input) :=
  .bind (.require _ _) fun _ _ => .bind requireAxes_faultless fun _ haxes =>
    .bind (mapM_dim_faultless haxes) fun _ _ => Operand.create_faultless _ _

theorem gather_faultless (axis : Dim) (input indices : Operand) :
    Faultless (gather axis input indices) := by
  refine .bind (.require _ _) fun _ _ => .bind (.require _ _) fun _ haxis => ?_
  have hlt : axis.toNat < input.shape.length := require_eq_ok.mp haxis
  have hrank : 1 ≤ input.rank := Nat.one_le_of_lt hlt
  exact .bind ((domainFaults.places _ _).mpr hrank) fun _ _ =>
    .bind ((domainFaults.before _ _).mpr hlt.le) fun _ _ =>
    .bind ((domainFaults.onward _ _).mpr hlt) fun _ _ => Operand.create_faultless _ _

theorem reshape_faultless (target : Shape) (input : Operand) : Faultless (reshape target input) :=
  .bind (Magnitude.orOverflow_faultless _ _) fun _ _ =>
    .bind (Magnitude.orOverflow_faultless _ _) fun _ _ => .bind (.require _ _) fun _ _ =>
    Operand.create_faultless _ _

theorem expand_faultless (target : Shape) (input : Operand) : Faultless (expand target input) :=
  .bind (broadcast_faultless _ _ _ _) fun _ _ => Operand.create_faultless _ _

/-! ## Resampling -/

theorem scaledSize_faultless (axis size : Dim) (scale : Single) :
    Faultless (scaledSize axis size scale).result := by
  refine .traced_bind (.require _ _) fun _ _ => .traced_bind (.of_eq_ok rfl) fun _ _ => ?_
  split_ifs with hempty
  · exact .traced_bind (.of_eq_ok rfl) fun _ _ => .reject _
  · refine .traced_bind (.require _ _) fun _ hlargest => ?_
    exact (Dim.ofInt_of_bounds (Int.not_lt.mp hempty) (require_eq_ok.mp hlargest)).1

namespace Resampling

theorem lt_four_of_allowed {axes : Dim × Dim} (h : axes ∈ allowedAxes) :
    axes.1.toNat < 4 ∧ axes.2.toNat < 4 := by
  unfold allowedAxes at h
  simp only [List.mem_cons, List.not_mem_nil, or_false] at h
  rcases h with rfl | rfl | rfl <;> decide

theorem sizes_faultless (r : Resampling) {shape : Shape} (hfirst : r.axes.1.toNat < shape.length)
    (hsecond : r.axes.2.toNat < shape.length) : Faultless (r.sizes shape).result := by
  unfold sizes
  cases r.target with
  | sizes sizes => exact .traced_bind (.require _ _) fun _ _ => .of_eq_ok rfl
  | scales scales =>
    exact .traced_bind (Shape.dim_faultless hfirst) fun _ _ =>
      .traced_bind (scaledSize_faultless _ _ _) fun _ _ =>
      .traced_bind (Shape.dim_faultless hsecond) fun _ _ =>
      .traced_bind (scaledSize_faultless _ _ _) fun _ _ => .of_eq_ok rfl

theorem infer_faultless (r : Resampling) (input : Operand) :
    Faultless (r.infer input).result := by
  refine .traced_bind (.require _ _) fun _ hrank => .traced_bind (.require _ _) fun _ _ => ?_
  refine .traced_bind (.require _ _) fun _ haxes => ?_
  have hlength : input.shape.length = 4 := require_eq_ok.mp hrank
  obtain ⟨hfirst, hsecond⟩ := lt_four_of_allowed (require_eq_ok.mp haxes)
  rw [← hlength] at hfirst hsecond
  refine .traced_bind (r.sizes_faultless hfirst hsecond) fun ⟨first, second⟩ _ => ?_
  refine .traced_bind ((domainFaults.replaced _ _ _).mpr hfirst) fun shape hshape => ?_
  -- the first replacement keeps the number of axes
  have hsecond' : r.axes.2.toNat < shape.length := by
    rw [(Shape.set_eq_ok.mp hshape).2, List.length_set]
    exact hsecond
  exact .traced_bind ((domainFaults.replaced _ _ _).mpr hsecond') fun _ _ =>
    Operand.create_faultless _ _

end Resampling

/-! ## Calls -/

namespace Call

theorem single_faultless {y : Traced Operand} (h : Faultless y.result) :
    Faultless ((fun output => [output]) <$> y).result :=
  .traced_bind h fun _ _ => .of_eq_ok rfl

/-- Every call has outputs or is rejected. -/
theorem infer_faultless (call : Call) : Faultless call.infer.result := by
  cases call with
  | convolution c input filter => exact single_faultless (c.infer_faultless input filter)
  | transposedConvolution c input filter => exact single_faultless (c.infer_faultless input filter)
  | pooling p input => exact single_faultless (p.infer_faultless input)
  | globalPooling kind layout input =>
    exact single_faultless (globalPooling_faultless kind layout input)
  | matmul a b => exact single_faultless (matmul_faultless a b)
  | gemm g a b => exact single_faultless (g.infer_faultless a b)
  | batchNormalization n input mean variance =>
    exact single_faultless (n.infer_faultless input mean variance)
  | instanceNormalization n input => exact single_faultless (n.infer_faultless input)
  | layerNormalization n input => exact single_faultless (n.infer_faultless input)
  | reduction r input => exact single_faultless (r.infer_faultless input)
  | argReduction r input => exact single_faultless (r.infer_faultless input)
  | binary kind a b => exact single_faultless (kind.infer_faultless a b)
  | select condition trueValue falseValue =>
    exact single_faultless (select_faultless condition trueValue falseValue)
  | prelu input slope => exact single_faultless (prelu_faultless input slope)
  | softmax input => exact single_faultless (softmax_faultless input)
  | concat inputs axis => exact single_faultless (concat_faultless inputs axis)
  | split partition axis input => exact split_faultless partition axis input
  | slice starts sizes input => exact single_faultless (slice_faultless starts sizes input)
  | pad p input => exact single_faultless (p.infer_faultless input)
  | transpose permutation input => exact single_faultless (transpose_faultless permutation input)
  | gather axis input indices => exact single_faultless (gather_faultless axis input indices)
  | reshape target input => exact single_faultless (reshape_faultless target input)
  | expand target input => exact single_faultless (expand_faultless target input)
  | tile repetitions input => exact single_faultless (tile_faultless repetitions input)
  | resampling r input => exact single_faultless (r.infer_faultless input)

end Call

/-- **Inference never faults.** The operations with a domain fault outside of it, and yet no call
does: on operands of every rank and every dimensions, countable or not, and with all attributes, it
has outputs or is rejected for a cause. So do the rules and computations that can be asked for on
their own. -/
theorem inference_never_faults :
    DomainFaults ∧
    (∀ call : Call, Concludes call.infer.result) ∧
    (∀ use direction lhs rhs, Concludes (broadcast use direction lhs rhs)) ∧
    (∀ operator axis rank, Concludes (requireAxis operator axis rank)) ∧
    (∀ operator axes rank, Concludes (requireAxes operator axes rank)) ∧
    (∀ (w : Window) policy, Concludes (w.samePadding policy).result) ∧
    (∀ (w : Window) policy outputPadding,
      Concludes (w.transposedSamePadding policy outputPadding).result) ∧
    (∀ (padding : Padding) w, Concludes (padding.resolve w).result) ∧
    (∀ (padding : Padding) w outputPadding,
      Concludes (padding.resolveTransposed w outputPadding).result) ∧
    (∀ dataType shape, Concludes (Operand.create dataType shape)) ∧
    ∀ (width : Width) (a : Magnitude width) name, Concludes (a.orOverflow name) := by
  refine ⟨domainFaults, ?_, ?_, ?_, ?_, ?_, ?_, ?_, ?_, ?_, ?_⟩
  · intro call
    exact call.infer_faultless.concludes
  · intro use direction lhs rhs
    exact (broadcast_faultless use direction lhs rhs).concludes
  · intro operator axis rank
    exact Faultless.concludes (.require _ _)
  · intro operator axes rank
    exact requireAxes_faultless.concludes
  · intro w policy
    exact (w.samePadding_faultless policy).concludes
  · intro w policy outputPadding
    exact (w.transposedSamePadding_faultless policy outputPadding).concludes
  · intro padding w
    exact (padding.resolve_faultless w).concludes
  · intro padding w outputPadding
    exact (padding.resolveTransposed_faultless w outputPadding).concludes
  · intro dataType shape
    exact (Operand.create_faultless dataType shape).concludes
  · intro width a name
    exact (a.orOverflow_faultless name).concludes

-- a scalar is turned down before its axes are counted
example : (Call.gather 0 ⟨.float32, []⟩ ⟨.int32, [2]⟩).infer.result =
    reject (.axisOutOfRange "Gather" 0 0) := rfl

end TensorTyping
