import Mathlib
import TensorTyping.Proofs.Reductions

/-!
# Gathering along several axes

A gather puts the axes of its indices in the place of one axis of the input, and moves the axes
behind it by as much as the list grows or shrinks. Two gathers along different axes therefore
commute when the later axis is counted anew. Indices without axes leave a gap where the axis was,
which is what a reduction that drops the axis leaves.

* `Shape.spliced` — a shape with a list of dimensions in the place of one of its own.
* `Shape.spliced_append` — a splice, with the shape cut at its place; `Shape.exists_cut` cuts it.
* `Shape.spliced_comm` — splices at two places commute.
* `gather_eq_ok` — when a gather has a value.
* `gathers_commute` — gathers along two axes, and along one axis without axes of indices.
-/

namespace TensorTyping

/-! ## Splices -/

namespace Shape

variable {s t r : Shape} {axis : Dim} {i j : ℕ}

/-- The shape with the dimensions `t` in the place of its dimension at `i`. -/
def spliced (s : Shape) (i : ℕ) (t : Shape) : Shape :=
  s.take i ++ t ++ s.drop (i + 1)

theorem exists_cut (h : i < s.length) : ∃ front d back, s = front ++ d :: back ∧ front.length = i :=
  ⟨s.take i, s[i], s.drop (i + 1), by rw [List.getElem_cons_drop, List.take_append_drop],
    List.length_take_of_le h.le⟩

/-- A splice takes out the dimension that stands behind the front of a cut. -/
theorem spliced_append {front back : Shape} {d : Dim} (h : front.length = i) :
    spliced (front ++ d :: back) i t = front ++ (t ++ back) := by
  unfold spliced
  rw [List.take_left' h, ← h, List.drop_append, List.drop_of_length_le (Nat.le_succ _),
    Nat.add_sub_cancel_left, List.append_assoc]
  rfl

theorem length_spliced (h : i < s.length) : (s.spliced i t).length + 1 = s.length + t.length := by
  obtain ⟨front, d, back, rfl, rfl⟩ := exists_cut h
  rw [spliced_append rfl]
  simp only [List.length_append, List.length_cons]
  omega

/-- Splices at two places commute; the later place moves with what is put in before it. -/
theorem spliced_comm (hij : i < j) (hj : j < s.length) :
    (s.spliced i t).spliced (j - 1 + t.length) r = (s.spliced j r).spliced i t := by
  -- the shape is cut at both places
  obtain ⟨front, e, back, rfl, rfl⟩ := exists_cut hj
  obtain ⟨front, d, middle, rfl, rfl⟩ := exists_cut hij
  have hplace : (front ++ (t ++ middle)).length =
      (front ++ d :: middle).length - 1 + t.length := by
    simp only [List.length_append, List.length_cons]
    omega
  have hearlier : spliced (front ++ d :: middle ++ e :: back) front.length t =
      front ++ (t ++ middle) ++ e :: back := by
    rw [List.append_assoc, List.cons_append, spliced_append rfl]
    simp only [List.append_assoc]
  have hlater : spliced (front ++ d :: middle ++ e :: back) (front ++ d :: middle).length r =
      front ++ d :: (middle ++ (r ++ back)) := by
    rw [spliced_append rfl, List.append_assoc, List.cons_append]
  rw [hearlier, hlater, spliced_append hplace, spliced_append rfl]
  simp only [List.append_assoc]

/-- Dropping one axis leaves nothing in its place. -/
theorem reduce_singleton (haxis : axis.toNat < s.length) (hrank : s.length ≤ 2 ^ 32) :
    s.reduce [axis] false = s.spliced axis.toNat [] := by
  obtain ⟨front, d, back, rfl, hfront⟩ := exists_cut haxis
  have hother : ∀ i, i < (front ++ d :: back).length → i ≠ axis.toNat → .ofNat i ∉ [axis] := by
    intro i hi hne hmem
    have hnumber := (Dim.ofNat_eq_iff (lt_of_lt_of_le hi hrank)).mp (List.mem_singleton.mp hmem)
    exact hne hnumber.symm
  have hself : .ofNat front.length ∈ [axis] := by
    rw [hfront, UInt32.ofNat_toNat]
    exact List.mem_singleton_self axis
  rw [List.length_append, List.length_cons] at hother
  have hfront' : reduceFrom [axis] false 0 front = front :=
    reduceFrom_eq_self fun i _ hi => hother i (by omega) (by omega)
  have hback : reduceFrom [axis] false (front.length + 1) back = back :=
    reduceFrom_eq_self fun i hle hi => hother i (by omega) (by omega)
  rw [reduce_eq_reduceFrom, reduceFrom_append, Nat.zero_add, reduceFrom_false_cons_of_mem hself,
    hfront', hback, spliced_append hfront, List.nil_append]

end Shape

/-! ## Gathers -/

section

variable {x y indices : Operand} {axis : Dim}

/-- On an axis of its input, with indices of a type for places, a gather creates the splice. -/
theorem gather_of_lt (hindex : indices.dataType.isIndex) (haxis : axis.toNat < x.rank) :
    gather axis x indices =
      Operand.create x.dataType (x.shape.spliced axis.toNat indices.shape) := by
  have hindex' : require indices.dataType.isIndex (.indexType indices.dataType) = .ok () :=
    require_eq_ok.mpr hindex
  have haxis' : requireAxis "Gather" axis x.rank = .ok () := require_eq_ok.mpr haxis
  have hroom : difference x.rank 1 = .ok (x.rank - 1) := if_pos (Nat.one_le_of_lt haxis)
  have houter : x.shape.before axis.toNat = .ok (x.shape.take axis.toNat) := if_pos haxis.le
  have hinner : x.shape.onward (axis.toNat + 1) = .ok (x.shape.drop (axis.toNat + 1)) :=
    if_pos haxis
  unfold gather
  rw [hindex', haxis', hroom, houter, hinner]
  rfl

theorem gather_eq_ok :
    gather axis x indices = .ok y ↔
      indices.dataType.isIndex ∧ axis.toNat < x.rank ∧
        y = ⟨x.dataType, x.shape.spliced axis.toNat indices.shape⟩ ∧ y.Sized := by
  constructor
  · intro h
    obtain ⟨_, hindex, hrest⟩ := Infer.bind_eq_ok.mp h
    obtain ⟨_, haxis, -⟩ := Infer.bind_eq_ok.mp hrest
    have hindex' := require_eq_ok.mp hindex
    have haxis' : axis.toNat < x.rank := require_eq_ok.mp haxis
    rw [gather_of_lt hindex' haxis'] at h
    exact ⟨hindex', haxis', Operand.create_eq_ok.mp h⟩
  · rintro ⟨hindex, haxis, hy⟩
    rw [gather_of_lt hindex haxis]
    exact Operand.create_eq_ok.mpr hy

theorem rank_of_gather (h : gather axis x indices = .ok y) :
    y.rank + 1 = x.rank + indices.rank := by
  obtain ⟨-, haxis, rfl, -⟩ := gather_eq_ok.mp h
  exact Shape.length_spliced haxis

/-- Each of two gathers of one input can come first. -/
theorem gather_gather {i j u v : Operand} {a b c : Dim} (hab : a < b)
    (hc : c.toNat = b.toNat - 1 + i.rank) (hu : gather a x i = .ok u) (hv : gather b x j = .ok v) :
    gather c u j = gather a v i := by
  have hranku := rank_of_gather hu
  have hrankv := rank_of_gather hv
  obtain ⟨hi, -, hu', -⟩ := gather_eq_ok.mp hu
  obtain ⟨hj, hb, hv', -⟩ := gather_eq_ok.mp hv
  have hab' := UInt32.lt_iff_toNat_lt.mp hab
  have hlater : c.toNat < u.rank := by omega
  have hearlier : a.toNat < v.rank := by omega
  rw [gather_of_lt hj hlater, gather_of_lt hi hearlier, hc, hu', hv']
  exact congrArg (Operand.create x.dataType) (Shape.spliced_comm hab' hb)

/-- Indices without axes take one axis away and put none in its place. -/
theorem gather_eq_reduction (hrank : x.rank ≤ 2 ^ 32) (hindices : indices.rank = 0)
    (hindex : indices.dataType.isIndex) (haxis : axis.toNat < x.rank) :
    gather axis x indices = (⟨.sum, [axis], false⟩ : Reduction).infer x := by
  have haxes : DistinctAxes [axis] x.rank := distinctAxes_singleton.mpr haxis
  rw [gather_of_lt hindex haxis, List.length_eq_zero_iff.mp hindices,
    Reduction.infer_of_distinctAxes haxes, Shape.reduce_singleton haxis hrank]
  rfl

theorem DataType.isIndex_iff {dataType : DataType} :
    dataType.isIndex ↔ dataType ∈ [.int32, .uint32, .int64] := by
  cases dataType <;> decide

end

/-- **Gathers along different axes commute.** When two gathers of one input, along an axis and along
a later one, both have a value, gathering each of the values along the axis of the other gather ends
the same way, with the later axis counted anew in the first value. And a gather with a single place
is a reduction that drops the axis. -/
theorem gathers_commute :
    (∀ (x i j u v : Operand) (a b c : Dim), a < b → c.toNat = b.toNat - 1 + i.rank →
      gather a x i = .ok u → gather b x j = .ok v → gather c u j = gather a v i) ∧
    ∀ (x i : Operand) (a : Dim), x.rank ≤ 2 ^ 32 → i.rank = 0 →
      i.dataType ∈ [.int32, .uint32, .int64] → a.toNat < x.rank →
      gather a x i = (⟨.sum, [a], false⟩ : Reduction).infer x := by
  constructor
  · intro x i j u v a b c hab hc hu hv
    exact gather_gather hab hc hu hv
  · intro x i a hrank hi htype ha
    exact gather_eq_reduction hrank hi (DataType.isIndex_iff.mpr htype) ha

/-- A matrix of places and a single place, along the first and the last of three axes; places that
are too many together, though not alone; and the single place as a reduction. -/
theorem gathers_commute_shifted :
    (0 : Dim) < 2 ∧ (3 : Dim).toNat = (2 : Dim).toNat - 1 + (⟨.int32, [7, 11]⟩ : Operand).rank ∧
      gather 0 ⟨.float32, [2, 3, 5]⟩ ⟨.int32, [7, 11]⟩ = .ok ⟨.float32, [7, 11, 3, 5]⟩ ∧
      gather 2 ⟨.float32, [2, 3, 5]⟩ ⟨.int64, []⟩ = .ok ⟨.float32, [2, 3]⟩ ∧
      gather 3 ⟨.float32, [7, 11, 3, 5]⟩ ⟨.int64, []⟩ =
        gather 0 ⟨.float32, [2, 3]⟩ ⟨.int32, [7, 11]⟩ ∧
      gather 1 ⟨.uint8, [4294967295, 1]⟩ ⟨.uint32, [4294967295, 4294967295]⟩ =
        gather 0 ⟨.uint8, [1, 4294967295, 4294967295]⟩ ⟨.uint32, [4294967295]⟩ ∧
      gather 0 ⟨.uint8, [1, 4294967295, 4294967295]⟩ ⟨.uint32, [4294967295]⟩ =
        reject (.overflow (.operandBytes .uint8 [4294967295, 4294967295, 4294967295])) ∧
      gather 1 ⟨.float32, [2, 3, 5]⟩ ⟨.int64, []⟩ =
        (⟨.sum, [1], false⟩ : Reduction).infer ⟨.float32, [2, 3, 5]⟩ := by
  obtain ⟨hcommute, hsingle⟩ := gathers_commute
  have hfirst : gather 0 ⟨.float32, [2, 3, 5]⟩ ⟨.int32, [7, 11]⟩ =
      .ok ⟨.float32, [7, 11, 3, 5]⟩ := by decide
  have hlast : gather 2 ⟨.float32, [2, 3, 5]⟩ ⟨.int64, []⟩ = .ok ⟨.float32, [2, 3]⟩ := by decide
  refine ⟨by decide, by decide, hfirst, hlast, ?_, ?_, by decide, ?_⟩
  · exact hcommute _ _ _ _ _ 0 2 3 (by decide) (by decide) hfirst hlast
  · exact hcommute ⟨.uint8, [1, 1]⟩ ⟨.uint32, [4294967295]⟩ ⟨.uint32, [4294967295, 4294967295]⟩
      _ _ 0 1 1 (by decide) (by decide) (by decide) (by decide)
  · exact hsingle _ _ 1 (by decide) rfl (by decide) (by decide)

end TensorTyping
