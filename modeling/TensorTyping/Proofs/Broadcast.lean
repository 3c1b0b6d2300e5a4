import Mathlib
import TensorTyping.Broadcast
import TensorTyping.Proofs.Inference

/-!
# Broadcasting as an order

Stretching orders the shapes: one is below another when it stretches into it. Read from the last
axis on, with 1 for every axis that is missing, this is an order of single dimensions, in which 1
is below all others and no two others are comparable. Broadcasting in both directions is the least
upper bound.

* `Shape.fromEnd` — the dimensions of a shape, from the last one on and without an end.
* `broadcast_eq_ok` — broadcasting, place by place.
* `broadcast_rejectsAs` — how it fails.
* `Dim.StretchesTo`, `Shape.StretchesTo` — the two orders.
* `Shape.IsJoin.broadcast_iff` — the joins of two families of shapes broadcast to the join of both.
* `broadcast_isJoin` — stretching is a partial order with broadcasting as its join.
-/

namespace TensorTyping

/-! ## Shapes from the last axis on -/

/-- The dimension that stands `place` places before the last one, or 1 when there is none. -/
def Shape.fromEnd (s : Shape) (place : ℕ) : Dim :=
  s.reverse.getD place 1

namespace Shape

variable {s t : Shape} {place : ℕ}

theorem fromEnd_of_le (h : s.length ≤ place) : s.fromEnd place = 1 := by
  unfold fromEnd
  rw [List.getD_eq_default _ _ (by rw [List.length_reverse]; exact h)]

/-- Dimensions that a shape has can be read from its end. -/
theorem dimFromEnd_succ (h : place < s.length) :
    s.dimFromEnd (place + 1) = .ok (s.fromEnd place) := by
  have hplace : place < s.reverse.length := by rw [List.length_reverse]; exact h
  have hlast : s[s.length - (place + 1)]? = some (s.fromEnd place) := by
    unfold fromEnd
    rw [List.getD_eq_getElem _ _ hplace, ← List.getElem?_eq_getElem hplace,
      List.getElem?_reverse h, Nat.add_comm place 1, Nat.sub_add_eq]
  exact Infer.bind_eq_ok.mpr ⟨_, difference_eq_ok.mpr ⟨h, rfl⟩, dim_eq_ok.mpr hlast⟩

theorem aligned_eq (s : Shape) (place : ℕ) : s.aligned place = .ok (s.fromEnd place) := by
  unfold aligned
  split_ifs with h
  · exact dimFromEnd_succ h
  · rw [fromEnd_of_le (Nat.le_of_not_lt h)]

/-- A shape is known by its length and its dimensions from the last one on. -/
theorem ext_fromEnd (hlength : s.length = t.length) (h : ∀ i, s.fromEnd i = t.fromEnd i) :
    s = t := by
  refine List.reverse_injective (List.ext_getElem ?_ fun i hs ht => ?_)
  · rw [List.length_reverse, List.length_reverse, hlength]
  · have := h i
    unfold fromEnd at this
    rwa [List.getD_eq_getElem _ _ hs, List.getD_eq_getElem _ _ ht] at this

end Shape

/-! ## Broadcasting, place by place -/

variable {use : BroadcastUse} {direction : Direction} {a b r : Shape}

theorem broadcastDim_eq_ok {place : ℕ} {m : Dim} :
    broadcastDim use direction a b place = .ok m ↔
      direction.join? (a.fromEnd place) (b.fromEnd place) = some m := by
  unfold broadcastDim
  simp only [Shape.aligned_eq, Infer.bind_eq_ok, Except.ok.injEq, exists_eq_left']
  cases direction.join? (a.fromEnd place) (b.fromEnd place) with
  | none => simp
  | some d => simp

/-- A missing axis joins with a missing axis. -/
theorem join?_fromEnd_of_le {place : ℕ} (h : max a.length b.length ≤ place) :
    direction.join? (a.fromEnd place) (b.fromEnd place) = some 1 := by
  rw [Shape.fromEnd_of_le (le_trans (le_max_left _ _) h),
    Shape.fromEnd_of_le (le_trans (le_max_right _ _) h)]
  exact if_pos rfl

/-- Broadcasting joins the dimensions at every place, the missing ones included. -/
theorem broadcast_eq_ok :
    broadcast use direction a b = .ok r ↔
      (direction = .bidirectional ∨ a.length ≤ b.length) ∧
        r.length = max a.length b.length ∧
        ∀ i, direction.join? (a.fromEnd i) (b.fromEnd i) = some (r.fromEnd i) := by
  unfold broadcast
  simp only [Infer.bind_eq_ok, require_eq_ok, Infer.mapM_eq_ok, broadcastDim_eq_ok,
    Infer.pure_eq_ok, List.forall₂_iff_get, List.length_range]
  constructor
  · rintro ⟨_, hdirection, dims, ⟨hlength, hdims⟩, rfl⟩
    refine ⟨hdirection, by rw [List.length_reverse, hlength], fun i => ?_⟩
    by_cases hi : i < dims.length
    · have hjoin := hdims i (by omega) hi
      rw [List.get_eq_getElem, List.get_eq_getElem, List.getElem_range] at hjoin
      unfold Shape.fromEnd at hjoin ⊢
      rw [hjoin, List.reverse_reverse, List.getD_eq_getElem _ _ hi]
    · rw [join?_fromEnd_of_le (by omega),
        Shape.fromEnd_of_le (by rw [List.length_reverse]; omega)]
  · rintro ⟨hdirection, hlength, hdims⟩
    refine ⟨(), hdirection, r.reverse, ⟨by rw [List.length_reverse, hlength], fun i hi hi' => ?_⟩,
      List.reverse_reverse r⟩
    rw [List.get_eq_getElem, List.get_eq_getElem, List.getElem_range, hdims i]
    unfold Shape.fromEnd
    rw [List.getD_eq_getElem]

/-- Two shapes broadcast when the dimensions at every place join. -/
theorem exists_broadcast_iff :
    (∃ r, broadcast use direction a b = .ok r) ↔
      (direction = .bidirectional ∨ a.length ≤ b.length) ∧
        ∀ i, ∃ m, direction.join? (a.fromEnd i) (b.fromEnd i) = some m := by
  constructor
  · rintro ⟨r, hr⟩
    obtain ⟨hdirection, -, hdims⟩ := broadcast_eq_ok.mp hr
    exact ⟨hdirection, fun i => ⟨_, hdims i⟩⟩
  · rintro ⟨hdirection, hjoin⟩
    obtain ⟨dims, hdims⟩ : ∃ dims, (List.range (max a.length b.length)).mapM
        (broadcastDim use direction a b) = .ok dims := by
      refine Infer.exists_mapM_eq_ok.mpr fun i _ => ?_
      obtain ⟨m, hm⟩ := hjoin i
      exact ⟨m, broadcastDim_eq_ok.mpr hm⟩
    refine ⟨dims.reverse, ?_⟩
    unfold broadcast
    exact Infer.bind_eq_ok.mpr ⟨(), require_eq_ok.mpr hdirection,
      Infer.bind_eq_ok.mpr ⟨dims, hdims, rfl⟩⟩

theorem broadcastDim_rejectsAs (place : ℕ) :
    Infer.RejectsAs .incompatibleShape (broadcastDim use direction a b place) := by
  unfold broadcastDim
  rw [Shape.aligned_eq, Shape.aligned_eq, Infer.ok_bind, Infer.ok_bind]
  cases direction.join? (a.fromEnd place) (b.fromEnd place) with
  | none => exact .reject rfl
  | some d => exact .of_eq_ok rfl

/-- Shapes that do not broadcast are incompatible, whatever the place at which they clash. -/
theorem broadcast_rejectsAs :
    Infer.RejectsAs .incompatibleShape (broadcast use direction a b) :=
  .bind (.require rfl) fun _ _ =>
    .bind (.mapM fun place _ => broadcastDim_rejectsAs place) fun _ _ => .of_eq_ok rfl

/-! ## The order of dimensions -/

/-- A dimension stretches into itself, and 1 into any. -/
def Dim.StretchesTo (d e : Dim) : Prop :=
  d = 1 ∨ d = e

namespace Dim.StretchesTo

variable {d e m : Dim}

theorem refl (d : Dim) : d.StretchesTo d :=
  .inr rfl

theorem antisymm (h : d.StretchesTo e) (h' : e.StretchesTo d) : d = e := by
  rcases h with rfl | h
  · rcases h' with rfl | h'
    · rfl
    · exact h'.symm
  · exact h

theorem trans (h : d.StretchesTo e) (h' : e.StretchesTo m) : d.StretchesTo m := by
  rcases h with h | rfl
  · exact .inl h
  · exact h'

end Dim.StretchesTo

namespace Direction

variable {d e m : Dim}

theorem join?_unidirectional :
    unidirectional.join? d e = some m ↔ d.StretchesTo e ∧ m = e := by
  unfold join? Dim.StretchesTo
  split_ifs with heq hone hstretch
  · subst heq
    simp [eq_comm]
  · simp [hone, eq_comm]
  · exact nomatch hstretch.2
  · simp [heq, hone]

/-- In both directions two dimensions join in the one of them into which the other stretches. -/
theorem join?_bidirectional :
    bidirectional.join? d e = some m ↔
      d.StretchesTo m ∧ e.StretchesTo m ∧ (m = d ∨ m = e) := by
  unfold join? Dim.StretchesTo
  split_ifs with heq hone hstretch
  · grind
  · grind
  · grind
  · grind

theorem exists_join?_of_stretchesTo (hd : d.StretchesTo m) (he : e.StretchesTo m) :
    ∃ n, bidirectional.join? d e = some n := by
  rcases hd with rfl | rfl
  · exact ⟨e, join?_bidirectional.mpr ⟨.inl rfl, .refl e, .inr rfl⟩⟩
  · exact ⟨d, join?_bidirectional.mpr ⟨.refl d, he, .inl rfl⟩⟩

end Direction

/-! ## The order of shapes -/

/-- A shape stretches into another when it broadcasts to it in one direction. -/
def Shape.StretchesTo (use : BroadcastUse) (a b : Shape) : Prop :=
  ∃ r, broadcast use .unidirectional a b = .ok r

/-- Shapes are ordered place by place, and by their length. -/
theorem Shape.stretchesTo_iff :
    a.StretchesTo use b ↔
      a.length ≤ b.length ∧ ∀ i, (a.fromEnd i).StretchesTo (b.fromEnd i) := by
  unfold Shape.StretchesTo
  rw [exists_broadcast_iff]
  simp only [Direction.join?_unidirectional, reduceCtorEq, false_or, exists_and_left,
    exists_eq, and_true]

namespace Shape

variable {c t : Shape}

/-- What is stretched into a shape becomes that shape. -/
theorem eq_of_broadcast_unidirectional (h : broadcast use .unidirectional a b = .ok r) : r = b := by
  obtain ⟨hdirection, hlength, hdims⟩ := broadcast_eq_ok.mp h
  have hle : a.length ≤ b.length := hdirection.resolve_left nofun
  refine ext_fromEnd (by rw [hlength, max_eq_right hle]) fun i => ?_
  exact (Direction.join?_unidirectional.mp (hdims i)).2

theorem StretchesTo.refl (use : BroadcastUse) (a : Shape) : a.StretchesTo use a :=
  stretchesTo_iff.mpr ⟨le_rfl, fun _ => .refl _⟩

theorem StretchesTo.antisymm (h : a.StretchesTo use b) (h' : b.StretchesTo use a) : a = b := by
  obtain ⟨hlength, hdims⟩ := stretchesTo_iff.mp h
  obtain ⟨hlength', hdims'⟩ := stretchesTo_iff.mp h'
  exact ext_fromEnd (le_antisymm hlength hlength') fun i => (hdims i).antisymm (hdims' i)

theorem StretchesTo.trans (h : a.StretchesTo use b) (h' : b.StretchesTo use c) :
    a.StretchesTo use c := by
  obtain ⟨hlength, hdims⟩ := stretchesTo_iff.mp h
  obtain ⟨hlength', hdims'⟩ := stretchesTo_iff.mp h'
  exact stretchesTo_iff.mpr ⟨le_trans hlength hlength', fun i => (hdims i).trans (hdims' i)⟩

/-! ## The join -/

/-- Both shapes stretch into what they broadcast to. -/
theorem stretchesTo_broadcast (h : broadcast use .bidirectional a b = .ok r) :
    a.StretchesTo use r ∧ b.StretchesTo use r := by
  obtain ⟨-, hlength, hdims⟩ := broadcast_eq_ok.mp h
  have hjoin := fun i => Direction.join?_bidirectional.mp (hdims i)
  rw [stretchesTo_iff, stretchesTo_iff, hlength]
  exact ⟨⟨le_max_left _ _, fun i => (hjoin i).1⟩, le_max_right _ _, fun i => (hjoin i).2.1⟩

/-- What two shapes broadcast to stretches into every shape into which both stretch. -/
theorem broadcast_stretchesTo (h : broadcast use .bidirectional a b = .ok r)
    (ha : a.StretchesTo use t) (hb : b.StretchesTo use t) : r.StretchesTo use t := by
  obtain ⟨-, hlength, hdims⟩ := broadcast_eq_ok.mp h
  obtain ⟨hlengtha, hdimsa⟩ := stretchesTo_iff.mp ha
  obtain ⟨hlengthb, hdimsb⟩ := stretchesTo_iff.mp hb
  refine stretchesTo_iff.mpr ⟨by rw [hlength]; exact max_le hlengtha hlengthb, fun i => ?_⟩
  -- at each place the result is one of the two dimensions
  obtain ⟨-, -, hleft | hright⟩ := Direction.join?_bidirectional.mp (hdims i)
  · rw [hleft]
    exact hdimsa i
  · rw [hright]
    exact hdimsb i

/-- Two shapes broadcast as soon as both stretch into some shape. -/
theorem exists_broadcast_of_stretchesTo (ha : a.StretchesTo use t) (hb : b.StretchesTo use t) :
    ∃ r, broadcast use .bidirectional a b = .ok r :=
  exists_broadcast_iff.mpr ⟨.inl rfl, fun i =>
    Direction.exists_join?_of_stretchesTo ((stretchesTo_iff.mp ha).2 i)
      ((stretchesTo_iff.mp hb).2 i)⟩

/-- All of the shapes stretch into this one, and it stretches into every other such shape. -/
structure IsJoin (use : BroadcastUse) (shapes : List Shape) (r : Shape) : Prop where
  upper : ∀ s ∈ shapes, s.StretchesTo use r
  least : ∀ t, (∀ s ∈ shapes, s.StretchesTo use t) → r.StretchesTo use t

namespace IsJoin

variable {left right : List Shape}

theorem singleton (use : BroadcastUse) (a : Shape) : IsJoin use [a] a where
  upper := List.forall_mem_singleton.mpr (.refl use a)
  least _ h := h a (List.mem_singleton_self a)

/-- The joins of two families broadcast to the join of both families together. -/
theorem broadcast_iff (ha : IsJoin use left a) (hb : IsJoin use right b) :
    broadcast use .bidirectional a b = .ok r ↔ IsJoin use (left ++ right) r := by
  -- what is above the two joins is above all the shapes
  have above : ∀ t, a.StretchesTo use t ∧ b.StretchesTo use t ↔
      ∀ s ∈ left ++ right, s.StretchesTo use t := by
    intro t
    rw [List.forall_mem_append]
    constructor
    · rintro ⟨hat, hbt⟩
      exact ⟨fun s hs => (ha.upper s hs).trans hat, fun s hs => (hb.upper s hs).trans hbt⟩
    · rintro ⟨hleft, hright⟩
      exact ⟨ha.least t hleft, hb.least t hright⟩
  constructor
  · intro h
    refine ⟨(above r).mp (stretchesTo_broadcast h), fun t ht => ?_⟩
    obtain ⟨hat, hbt⟩ := (above t).mpr ht
    exact broadcast_stretchesTo h hat hbt
  · intro h
    obtain ⟨har, hbr⟩ := (above r).mpr h.upper
    obtain ⟨r', hr'⟩ := exists_broadcast_of_stretchesTo har hbr
    have hle : r'.StretchesTo use r := broadcast_stretchesTo hr' har hbr
    have hge : r.StretchesTo use r' := h.least r' ((above r').mp (stretchesTo_broadcast hr'))
    rw [hr', hle.antisymm hge]

theorem pair_iff : IsJoin use [a, b] r ↔ broadcast use .bidirectional a b = .ok r :=
  ((singleton use a).broadcast_iff (singleton use b)).symm

end IsJoin

end Shape

/-- **Stretching is a partial order, and broadcasting in both directions is its join.** -/
theorem broadcast_isJoin (use : BroadcastUse) :
    (∀ a b r, broadcast use .unidirectional a b = .ok r → r = b) ∧
    (∀ a, Shape.StretchesTo use a a) ∧
    (∀ a b, Shape.StretchesTo use a b → Shape.StretchesTo use b a → a = b) ∧
    (∀ a b c, Shape.StretchesTo use a b → Shape.StretchesTo use b c →
      Shape.StretchesTo use a c) ∧
    ∀ a b,
      ((∃ r, broadcast use .bidirectional a b = .ok r) ↔
        ∃ t, Shape.StretchesTo use a t ∧ Shape.StretchesTo use b t) ∧
      ∀ r, broadcast use .bidirectional a b = .ok r →
        Shape.StretchesTo use a r ∧ Shape.StretchesTo use b r ∧
        ∀ t, Shape.StretchesTo use a t → Shape.StretchesTo use b t →
          Shape.StretchesTo use r t := by
  refine ⟨fun _ _ _ => Shape.eq_of_broadcast_unidirectional, Shape.StretchesTo.refl use,
    fun _ _ => Shape.StretchesTo.antisymm, fun _ _ _ => Shape.StretchesTo.trans,
    fun a b => ⟨⟨?_, ?_⟩, fun r h => ?_⟩⟩
  · rintro ⟨r, h⟩
    exact ⟨r, Shape.stretchesTo_broadcast h⟩
  · rintro ⟨t, ha, hb⟩
    exact Shape.exists_broadcast_of_stretchesTo ha hb
  · obtain ⟨ha, hb⟩ := Shape.stretchesTo_broadcast h
    exact ⟨ha, hb, fun t => Shape.broadcast_stretchesTo h⟩

end TensorTyping
