import TensorTyping.Infer

/-!
# Broadcasting of shapes

Two shapes are aligned at their last axes, and an axis that one of them lacks counts as 1. Aligned
dimensions agree when they are equal, or when one of them is 1 and its side may stretch.

* `Direction.join?` — the common dimension of two aligned ones.
* `broadcast` — the common shape of two shapes.
-/

namespace TensorTyping

/-- The dimension into which two aligned ones stretch. -/
def Direction.join? (direction : Direction) (left right : Dim) : Option Dim :=
  if left = right then some left
  else if left = 1 then some right
  else if right = 1 ∧ direction = .bidirectional then some left
  else none

/-- The dimension that stands `place` places before the last one, or 1 when there is none. -/
def Shape.aligned (s : Shape) (place : Nat) : Infer Dim :=
  if place < s.length then s.dimFromEnd (place + 1) else .ok 1

/-- The common dimension of two shapes, `place` places before their last ones. -/
def broadcastDim (use : BroadcastUse) (direction : Direction) (lhs rhs : Shape) (place : Nat) :
    Infer Dim := do
  let left ← lhs.aligned place
  let right ← rhs.aligned place
  match direction.join? left right with
  | some dim => return dim
  | none => reject (.broadcast use (.clash direction lhs rhs (place + 1) left right))

/-- The common shape of two shapes. In one direction `lhs` stretches into `rhs`, so it has no more
axes than that. -/
def broadcast (use : BroadcastUse) (direction : Direction) (lhs rhs : Shape) : Infer Shape := do
  require (direction = .bidirectional ∨ lhs.length ≤ rhs.length)
    (.broadcast use (.lowerRank lhs rhs))
  let dims ← (List.range (max lhs.length rhs.length)).mapM (broadcastDim use direction lhs rhs)
  return dims.reverse

end TensorTyping
