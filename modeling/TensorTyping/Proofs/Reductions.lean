import Mathlib
import TensorTyping.Operator.Arrangement
import TensorTyping.Operator.Reduction
import TensorTyping.Proofs.Axes
import TensorTyping.Proofs.OperandSize

/-!
# Reducing in steps, and with or without the reduced axes

What is left of a shape depends only on which places are reduced. So the order of the axes does not
matter, and reducing some axes and then others is reducing all of them. A reduced axis of size 1 is
no factor of any size, so keeping these axes or dropping them makes no difference to what can be
counted, and each of the two results is the other one under another shape.

* `Shape.reduceFrom` — the reduction of the dimensions from a place on, one dimension at a time.
* `Shape.reduce_congr`, `Shape.reduce_reduce` — axes in another order, and in two steps.
* `Operand.sized_reduce_iff`, `Shape.length_reduce_false` — reduced axes kept and dropped.
* `Reduction.infer_of_distinctAxes`, `reshape_eq_ok` — when the operators have a value.
* `reductions_compose` — all of it for reductions.
-/

namespace TensorTyping

/-- A number below the rank is the number of an axis, as long as axes can be numbered. -/
theorem Dim.ofNat_eq_iff {i : ℕ} {axis : Dim} (h : i < 2 ^ 32) :
    UInt32.ofNat i = axis ↔ axis.toNat = i := by
  rw [← UInt32.toNat_inj, UInt32.toNat_ofNat_of_lt' h]
  exact eq_comm

/-! ## Shapes -/

namespace Shape

variable {s t : Shape} {axes axes' both : List Dim} {keep : Bool} {place : ℕ} {d : Dim}

/-- The reduction of dimensions of which the first one stands at the given place. -/
def reduceFrom (axes : List Dim) (keep : Bool) : ℕ → Shape → Shape
  | _, [] => []
  | place, d :: s =>
    if .ofNat place ∉ axes then d :: reduceFrom axes keep (place + 1) s
    else if keep then 1 :: reduceFrom axes keep (place + 1) s
    else reduceFrom axes keep (place + 1) s

theorem reduce_eq_reduceFrom : s.reduce axes keep = reduceFrom axes keep 0 s := by
  unfold reduce
  generalize 0 = place
  induction s generalizing place with
  | nil => rfl
  | cons d s ih =>
    rw [List.zipIdx_cons, List.filterMap_cons, ih, reduceFrom]
    by_cases h : UInt32.ofNat place ∈ axes
    · cases keep <;> simp [h]
    · simp [h]

theorem reduceFrom_cons_of_notMem (h : .ofNat place ∉ axes) :
    reduceFrom axes keep place (d :: s) = d :: reduceFrom axes keep (place + 1) s :=
  if_pos h

theorem reduceFrom_true_cons_of_mem (h : .ofNat place ∈ axes) :
    reduceFrom axes true place (d :: s) = 1 :: reduceFrom axes true (place + 1) s :=
  if_neg (not_not.mpr h)

theorem reduceFrom_false_cons_of_mem (h : .ofNat place ∈ axes) :
    reduceFrom axes false place (d :: s) = reduceFrom axes false (place + 1) s :=
  if_neg (not_not.mpr h)

theorem reduceFrom_append :
    reduceFrom axes keep place (s ++ t) =
      reduceFrom axes keep place s ++ reduceFrom axes keep (place + s.length) t := by
  induction s generalizing place with
  | nil => rfl
  | cons d s ih =>
    have hplace : place + (d :: s).length = place + 1 + s.length := by
      rw [List.length_cons]
      omega
    rw [List.cons_append, reduceFrom, reduceFrom, ih, hplace]
    split_ifs <;> rfl

/-- Nothing changes at places that are not listed. -/
theorem reduceFrom_eq_self (h : ∀ i, place ≤ i → i < place + s.length → .ofNat i ∉ axes) :
    reduceFrom axes keep place s = s := by
  induction s generalizing place with
  | nil => rfl
  | cons d s ih =>
    rw [List.length_cons] at h
    have hrest : ∀ i, place + 1 ≤ i → i < place + 1 + s.length → .ofNat i ∉ axes :=
      fun i hle hlt => h i (by omega) (by omega)
    rw [reduceFrom_cons_of_notMem (h place le_rfl (by omega)), ih hrest]

/-- Only which axes are listed matters. -/
theorem reduce_congr (h : ∀ axis, axis ∈ axes ↔ axis ∈ axes') :
    s.reduce axes keep = s.reduce axes' keep := by
  have hcontains : ∀ axis, axes.contains axis = axes'.contains axis := fun axis => by
    rw [List.contains_eq_mem, List.contains_eq_mem, decide_eq_decide]
    exact h axis
  unfold reduce
  simp only [hcontains]

theorem reduceFrom_reduceFrom (h : ∀ axis, axis ∈ both ↔ axis ∈ axes ∨ axis ∈ axes') :
    reduceFrom axes' true place (reduceFrom axes true place s) = reduceFrom both true place s := by
  induction s generalizing place with
  | nil => rfl
  | cons d s ih =>
    by_cases hfirst : .ofNat place ∈ axes
    · rw [reduceFrom_true_cons_of_mem hfirst, reduceFrom_true_cons_of_mem ((h _).mpr (.inl hfirst)),
        ← ih]
      -- an axis that is 1 already is 1 after the second reduction, reduced again or not
      by_cases hsecond : .ofNat place ∈ axes'
      · exact reduceFrom_true_cons_of_mem hsecond
      · exact reduceFrom_cons_of_notMem hsecond
    · rw [reduceFrom_cons_of_notMem hfirst]
      by_cases hsecond : .ofNat place ∈ axes'
      · rw [reduceFrom_true_cons_of_mem hsecond,
          reduceFrom_true_cons_of_mem ((h _).mpr (.inr hsecond)), ih]
      · have hneither : .ofNat place ∉ both := fun hboth => ((h _).mp hboth).elim hfirst hsecond
        rw [reduceFrom_cons_of_notMem hsecond, reduceFrom_cons_of_notMem hneither, ih]

/-- Reducing some axes and then others is reducing all of them. -/
theorem reduce_reduce (h : ∀ axis, axis ∈ both ↔ axis ∈ axes ∨ axis ∈ axes') :
    (s.reduce axes true).reduce axes' true = s.reduce both true := by
  simp only [reduce_eq_reduceFrom, reduceFrom_reduceFrom h]

/-! ## Reduced axes kept and dropped -/

theorem elements_reduceFrom :
    (reduceFrom axes true place s).elements = (reduceFrom axes false place s).elements := by
  induction s generalizing place with
  | nil => rfl
  | cons d s ih =>
    by_cases h : .ofNat place ∈ axes
    · rw [reduceFrom_true_cons_of_mem h, reduceFrom_false_cons_of_mem h, elements_cons, ih]
      exact Nat.one_mul _
    · rw [reduceFrom_cons_of_notMem h, reduceFrom_cons_of_notMem h, elements_cons, elements_cons,
        ih]

theorem elements_leading_reduceFrom :
    (reduceFrom axes true place s).leading.elements =
      (reduceFrom axes false place s).leading.elements := by
  induction s generalizing place with
  | nil => rfl
  | cons d s ih =>
    by_cases h : .ofNat place ∈ axes
    · have hone : (1 : Dim) ≠ 0 := by decide
      rw [reduceFrom_true_cons_of_mem h, reduceFrom_false_cons_of_mem h, leading_cons_of_ne hone,
        elements_cons, ih]
      exact Nat.one_mul _
    · rw [reduceFrom_cons_of_notMem h, reduceFrom_cons_of_notMem h]
      by_cases hd : d = 0
      · rw [hd, leading_cons_zero, leading_cons_zero]
      · rw [leading_cons_of_ne hd, leading_cons_of_ne hd, elements_cons, elements_cons, ih]

/-- Kept axes do not count. -/
theorem elements_reduce : (s.reduce axes true).elements = (s.reduce axes false).elements := by
  rw [reduce_eq_reduceFrom, reduce_eq_reduceFrom, elements_reduceFrom]

theorem elements_leading_reduce :
    (s.reduce axes true).leading.elements = (s.reduce axes false).leading.elements := by
  rw [reduce_eq_reduceFrom, reduce_eq_reduceFrom, elements_leading_reduceFrom]

theorem length_reduceFrom_true : (reduceFrom axes true place s).length = s.length := by
  induction s generalizing place with
  | nil => rfl
  | cons d s ih =>
    by_cases h : .ofNat place ∈ axes
    · rw [reduceFrom_true_cons_of_mem h, List.length_cons, ih, List.length_cons]
    · rw [reduceFrom_cons_of_notMem h, List.length_cons, ih, List.length_cons]

@[simp] theorem length_reduce_true : (s.reduce axes true).length = s.length := by
  rw [reduce_eq_reduceFrom, length_reduceFrom_true]

/-- A dimension is dropped for each place that is the number of a listed axis. -/
theorem length_reduceFrom_false :
    (reduceFrom axes false place s).length +
      (List.range' place s.length).countP (fun i => .ofNat i ∈ axes) = s.length := by
  induction s generalizing place with
  | nil => rfl
  | cons d s ih =>
    rw [List.length_cons, List.range'_succ, List.countP_cons]
    have hrest := @ih (place + 1)
    by_cases h : .ofNat place ∈ axes
    · rw [reduceFrom_false_cons_of_mem h, if_pos (decide_eq_true h)]
      omega
    · rw [reduceFrom_cons_of_notMem h, List.length_cons, if_neg (by simpa using h)]
      omega

/-- Different axes of a tensor are the numbers of as many places. -/
theorem countP_mem_axes {rank : ℕ} (haxes : DistinctAxes axes rank) (hrank : rank ≤ 2 ^ 32) :
    (List.range rank).countP (fun i => .ofNat i ∈ axes) = axes.length := by
  have hperm : ((List.range rank).filter fun i => .ofNat i ∈ axes).Perm
      (axes.map UInt32.toNat) := by
    refine (List.perm_ext_iff_of_nodup (List.nodup_range.filter _)
      (haxes.nodup.map fun _ _ => UInt32.toNat_inj.mp)).mpr fun i => ?_
    simp only [List.mem_filter, List.mem_range, decide_eq_true_eq, List.mem_map]
    constructor
    · rintro ⟨hi, hmem⟩
      exact ⟨_, hmem, (Dim.ofNat_eq_iff (lt_of_lt_of_le hi hrank)).mp rfl⟩
    · rintro ⟨axis, hmem, rfl⟩
      exact ⟨haxes.inRange axis hmem, by rwa [UInt32.ofNat_toNat]⟩
  rw [List.countP_eq_length_filter, hperm.length_eq, List.length_map]

theorem length_reduce_false (haxes : DistinctAxes axes s.length) (hrank : s.length ≤ 2 ^ 32) :
    (s.reduce axes false).length + axes.length = s.length := by
  have hcount := @length_reduceFrom_false s axes 0
  rwa [← List.range_eq_range', countP_mem_axes haxes hrank, ← reduce_eq_reduceFrom] at hcount

end Shape

theorem Operand.sized_reduce_iff {dataType : DataType} {s : Shape} {axes : List Dim} :
    (⟨dataType, s.reduce axes true⟩ : Operand).Sized ↔
      (⟨dataType, s.reduce axes false⟩ : Operand).Sized := by
  rw [sized_iff, sized_iff, Shape.elements_reduce, Shape.elements_leading_reduce]

/-! ## Operators -/

section

variable {x y z : Operand} {axes axes' both : List Dim}

/-- A reshape needs an input that can be counted, and as many elements in the result. -/
theorem reshape_eq_ok {target : Shape} :
    reshape target x = .ok y ↔
      x.shape.leading.elements < Width.count.limit ∧ x.shape.elements = target.elements ∧
        y = ⟨x.dataType, target⟩ ∧ y.Sized := by
  simp only [reshape, Infer.bind_eq_ok, Magnitude.orOverflow_eq_ok, Magnitude.value_product,
    require_eq_ok, Operand.create_eq_ok, exists_const]
  constructor
  · rintro ⟨_, ⟨rfl, hinput⟩, _, ⟨rfl, -⟩, hcount, hy⟩
    exact ⟨hinput, hcount, hy⟩
  · rintro ⟨hinput, hcount, rfl, hsized⟩
    exact ⟨_, ⟨rfl, hinput⟩, _, ⟨rfl, (Operand.sized_iff.mp hsized).2⟩, hcount, rfl, hsized⟩

/-- The reduction is defined on elements of the type. -/
def ReduceKind.Accepts (kind : ReduceKind) (dataType : DataType) : Prop :=
  kind.requiresFloatingPoint → dataType.isFloatingPoint

instance (kind : ReduceKind) (dataType : DataType) : Decidable (kind.Accepts dataType) :=
  inferInstanceAs (Decidable (_ → _))

/-- On different axes of its input, a reduction looks at the type and creates what is left. -/
theorem Reduction.infer_of_distinctAxes {r : Reduction} (h : DistinctAxes r.axes x.rank) :
    r.infer x = (do
      require (r.kind.Accepts x.dataType)
        (.notFloatingPoint (r.kind.operator ++ " input") x.dataType)
      Operand.create x.dataType (x.shape.reduce r.axes r.keepDimensions)) := by
  have haxes : requireAxes r.kind.operator r.axes x.rank = .ok () := requireAxes_eq_ok.mpr h
  unfold infer ReduceKind.Accepts
  by_cases hfloat : r.kind.requiresFloatingPoint
  · simp only [hfloat, haxes, if_true, true_imp_iff]
    rfl
  · simp only [hfloat, haxes]
    rfl

theorem Reduction.infer_eq_ok {r : Reduction} (h : DistinctAxes r.axes x.rank) :
    r.infer x = .ok y ↔
      r.kind.Accepts x.dataType ∧ y = ⟨x.dataType, x.shape.reduce r.axes r.keepDimensions⟩ ∧
        y.Sized := by
  simp only [infer_of_distinctAxes h, Infer.bind_eq_ok, require_eq_ok, Operand.create_eq_ok,
    exists_const]

theorem ArgReduction.infer_of_distinctAxes {r : ArgReduction} (h : DistinctAxes r.axes x.rank) :
    r.infer x = Operand.create .int64 (x.shape.reduce r.axes r.keepDimensions) := by
  have haxes : requireAxes (describe r.kind) r.axes x.rank = .ok () := requireAxes_eq_ok.mpr h
  unfold infer
  rw [haxes]
  rfl

theorem ArgReduction.infer_eq_ok {r : ArgReduction} (h : DistinctAxes r.axes x.rank) :
    r.infer x = .ok y ↔ y = ⟨.int64, x.shape.reduce r.axes r.keepDimensions⟩ ∧ y.Sized := by
  rw [infer_of_distinctAxes h, Operand.create_eq_ok]

/-- The order in which the axes are listed does not matter. -/
theorem Reduction.infer_perm {kind : ReduceKind} {keep : Bool} (haxes : DistinctAxes axes x.rank)
    (hperm : axes.Perm axes') :
    (⟨kind, axes', keep⟩ : Reduction).infer x = (⟨kind, axes, keep⟩ : Reduction).infer x := by
  rw [infer_of_distinctAxes (haxes.perm hperm), infer_of_distinctAxes haxes,
    Shape.reduce_congr fun _ => hperm.mem_iff]

theorem ArgReduction.infer_perm {kind : ArgKind} {keep : Bool} (haxes : DistinctAxes axes x.rank)
    (hperm : axes.Perm axes') :
    (⟨kind, axes', keep⟩ : ArgReduction).infer x =
      (⟨kind, axes, keep⟩ : ArgReduction).infer x := by
  rw [infer_of_distinctAxes (haxes.perm hperm), infer_of_distinctAxes haxes,
    Shape.reduce_congr fun _ => hperm.mem_iff]

/-- Reducing some axes and then others ends as reducing all of them does. -/
theorem Reduction.infer_infer {kind : ReduceKind} (haxes : DistinctAxes axes x.rank)
    (haxes' : DistinctAxes axes' x.rank) (hboth : DistinctAxes both x.rank)
    (hunion : ∀ axis, axis ∈ both ↔ axis ∈ axes ∨ axis ∈ axes')
    (hy : (⟨kind, axes, true⟩ : Reduction).infer x = .ok y) :
    (⟨kind, axes', true⟩ : Reduction).infer y = (⟨kind, both, true⟩ : Reduction).infer x := by
  obtain ⟨-, rfl, -⟩ := (infer_eq_ok haxes).mp hy
  have hrank : (⟨x.dataType, x.shape.reduce axes true⟩ : Operand).rank = x.rank :=
    Shape.length_reduce_true
  rw [infer_of_distinctAxes (hrank ▸ haxes'), infer_of_distinctAxes hboth]
  simp only [Shape.reduce_reduce hunion]

/-- An inference that keeps `count` reduced axes of size 1, or drops them, as it is told. It has a
value either way or neither way, and the two values are the same elements under two shapes, of which
the one that keeps the axes has the given rank. -/
structure KeepsOrDrops (rank count : ℕ) (infer : Bool → Infer Operand) : Prop where
  exists_iff : (∃ y, infer true = .ok y) ↔ ∃ z, infer false = .ok z
  rank_kept : ∀ y, infer true = .ok y → y.rank = rank
  rank_dropped : ∀ z, infer false = .ok z → z.rank + count = rank
  elementCount : ∀ y z, infer true = .ok y → infer false = .ok z →
    ∃ n, y.elementCount = some n ∧ z.elementCount = some n
  drop : ∀ y z, infer true = .ok y → infer false = .ok z → reshape z.shape y = .ok z
  keep : ∀ y z, infer true = .ok y → infer false = .ok z → reshape y.shape z = .ok y

/-- Whatever reduces a shape under a condition on something else keeps or drops the axes. -/
theorem KeepsOrDrops.of_infer_eq_ok {infer : Bool → Infer Operand} {p : Prop} {dataType : DataType}
    {s : Shape} (haxes : DistinctAxes axes s.length) (hrank : s.length ≤ 2 ^ 32)
    (h : ∀ keep y, infer keep = .ok y ↔ p ∧ y = ⟨dataType, s.reduce axes keep⟩ ∧ y.Sized) :
    KeepsOrDrops s.length axes.length infer where
  exists_iff := by
    simp only [h, exists_and_left, exists_eq_left, Operand.sized_reduce_iff]
  rank_kept y hy := by
    obtain ⟨-, rfl, -⟩ := (h true y).mp hy
    exact Shape.length_reduce_true
  rank_dropped z hz := by
    obtain ⟨-, rfl, -⟩ := (h false z).mp hz
    exact Shape.length_reduce_false haxes hrank
  elementCount y z hy hz := by
    obtain ⟨-, rfl, hkept⟩ := (h true y).mp hy
    obtain ⟨-, rfl, hdropped⟩ := (h false z).mp hz
    exact ⟨_, Operand.elementCount_eq_some.mpr ⟨Shape.elements_reduce.symm,
      (Operand.sized_iff.mp hkept).2⟩, Operand.elementCount_eq_some.mpr ⟨rfl,
      (Operand.sized_iff.mp hdropped).2⟩⟩
  drop y z hy hz := by
    obtain ⟨-, rfl, hkept⟩ := (h true y).mp hy
    obtain ⟨-, rfl, hdropped⟩ := (h false z).mp hz
    exact reshape_eq_ok.mpr ⟨(Operand.sized_iff.mp hkept).2, Shape.elements_reduce, rfl, hdropped⟩
  keep y z hy hz := by
    obtain ⟨-, rfl, hkept⟩ := (h true y).mp hy
    obtain ⟨-, rfl, hdropped⟩ := (h false z).mp hz
    exact reshape_eq_ok.mpr
      ⟨(Operand.sized_iff.mp hdropped).2, Shape.elements_reduce.symm, rfl, hkept⟩

end

/-- **Reductions compose and do not depend on the order of their axes.** For different axes of an
input whose axes can be numbered: listing them in another order changes nothing; reducing other axes
of the result, with the reduced axes kept, is reducing all these axes at once; keeping the reduced
axes or dropping them gives the same elements under two shapes; and the reduction to a place has the
shape of any other reduction. -/
theorem reductions_compose (x : Operand) (hrank : x.rank ≤ 2 ^ 32) (kind : ReduceKind)
    {axes others : List Dim} (haxes : DistinctAxes axes x.rank)
    (hothers : DistinctAxes others x.rank) :
    (∀ axes' keep, axes.Perm axes' →
      (⟨kind, axes', keep⟩ : Reduction).infer x = (⟨kind, axes, keep⟩ : Reduction).infer x ∧
      ∀ argKind, (⟨argKind, axes', keep⟩ : ArgReduction).infer x =
        (⟨argKind, axes, keep⟩ : ArgReduction).infer x) ∧
    (∀ y both, (⟨kind, axes, true⟩ : Reduction).infer x = .ok y → both.Nodup →
      (∀ axis, axis ∈ both ↔ axis ∈ axes ∨ axis ∈ others) →
      (⟨kind, others, true⟩ : Reduction).infer y = (⟨kind, both, true⟩ : Reduction).infer x) ∧
    KeepsOrDrops x.rank axes.length (fun keep => (⟨kind, axes, keep⟩ : Reduction).infer x) ∧
    (∀ argKind, KeepsOrDrops x.rank axes.length
      fun keep => (⟨argKind, axes, keep⟩ : ArgReduction).infer x) ∧
    ∀ argKind keep y z, (⟨argKind, axes, keep⟩ : ArgReduction).infer x = .ok y →
      (⟨kind, axes, keep⟩ : Reduction).infer x = .ok z → y.shape = z.shape := by
  refine ⟨fun axes' keep hperm => ⟨?_, fun argKind => ?_⟩, fun y both hy hnodup hunion => ?_, ?_,
    fun argKind => ?_, fun argKind keep y z hy hz => ?_⟩
  · exact Reduction.infer_perm haxes hperm
  · exact ArgReduction.infer_perm haxes hperm
  · have hboth : DistinctAxes both x.rank := ⟨hnodup, fun axis haxis =>
      ((hunion axis).mp haxis).elim (haxes.inRange axis) (hothers.inRange axis)⟩
    exact Reduction.infer_infer haxes hothers hboth hunion hy
  · exact .of_infer_eq_ok haxes hrank (p := kind.Accepts x.dataType) fun keep y =>
      Reduction.infer_eq_ok haxes
  · have hinfer : ∀ keep y, (⟨argKind, axes, keep⟩ : ArgReduction).infer x = .ok y ↔
        True ∧ y = ⟨.int64, x.shape.reduce axes keep⟩ ∧ y.Sized := fun keep y =>
      (ArgReduction.infer_eq_ok haxes).trans (and_iff_right trivial).symm
    exact .of_infer_eq_ok haxes hrank hinfer
  · obtain ⟨rfl, -⟩ := (ArgReduction.infer_eq_ok haxes).mp hy
    obtain ⟨-, rfl, -⟩ := (Reduction.infer_eq_ok haxes).mp hz
    rfl

/-- An empty tensor can be reduced along its first axis. Along the empty axis it cannot, because
that leaves the large axes behind it to be counted, and this is so in two steps as in one. -/
theorem reductions_compose_emptied :
    (⟨.uint8, [5, 0, 4294967295, 4294967295, 4294967295]⟩ : Operand).rank ≤ 2 ^ 32 ∧
      DistinctAxes [0] 5 ∧ DistinctAxes [1] 5 ∧
      (⟨.sum, [0], true⟩ : Reduction).infer
        ⟨.uint8, [5, 0, 4294967295, 4294967295, 4294967295]⟩ =
          .ok ⟨.uint8, [1, 0, 4294967295, 4294967295, 4294967295]⟩ ∧
      (⟨.sum, [0], false⟩ : Reduction).infer
        ⟨.uint8, [5, 0, 4294967295, 4294967295, 4294967295]⟩ =
          .ok ⟨.uint8, [0, 4294967295, 4294967295, 4294967295]⟩ ∧
      reshape [0, 4294967295, 4294967295, 4294967295]
        ⟨.uint8, [1, 0, 4294967295, 4294967295, 4294967295]⟩ =
          .ok ⟨.uint8, [0, 4294967295, 4294967295, 4294967295]⟩ ∧
      (⟨.sum, [1], true⟩ : Reduction).infer
        ⟨.uint8, [1, 0, 4294967295, 4294967295, 4294967295]⟩ =
          (⟨.sum, [1, 0], true⟩ : Reduction).infer
            ⟨.uint8, [5, 0, 4294967295, 4294967295, 4294967295]⟩ ∧
      (⟨.sum, [1, 0], true⟩ : Reduction).infer
        ⟨.uint8, [5, 0, 4294967295, 4294967295, 4294967295]⟩ =
          reject (.overflow (.operandBytes .uint8 [1, 1, 4294967295, 4294967295, 4294967295])) := by
  have hrank : (⟨.uint8, [5, 0, 4294967295, 4294967295, 4294967295]⟩ : Operand).rank ≤ 2 ^ 32 := by
    decide
  have hfirst : DistinctAxes [0] 5 := ⟨by decide, by simp⟩
  have hempty : DistinctAxes [1] 5 := ⟨by decide, by simp⟩
  have hkept : (⟨.sum, [0], true⟩ : Reduction).infer
      ⟨.uint8, [5, 0, 4294967295, 4294967295, 4294967295]⟩ =
        .ok ⟨.uint8, [1, 0, 4294967295, 4294967295, 4294967295]⟩ := by decide
  have hdropped : (⟨.sum, [0], false⟩ : Reduction).infer
      ⟨.uint8, [5, 0, 4294967295, 4294967295, 4294967295]⟩ =
        .ok ⟨.uint8, [0, 4294967295, 4294967295, 4294967295]⟩ := by decide
  obtain ⟨-, hsteps, hkeeps, -, -⟩ := reductions_compose _ hrank .sum hfirst hempty
  exact ⟨hrank, hfirst, hempty, hkept, hdropped, hkeeps.drop _ _ hkept hdropped,
    hsteps _ [1, 0] hkept (by decide) (by simp [or_comm]), by decide⟩

end TensorTyping
