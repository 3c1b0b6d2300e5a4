import TensorTyping.Cause

/-!
# Results of inference

An inference ends with a value, with the cause for which the request is rejected, or with a fault: a
step taken outside the domain of its operation, such as reading a dimension that a shape does not
have. Each operation with such a domain stands here once, with its fault.

* `Fault`, `Failure`, `Infer` — the ways in which an inference ends.
* `Shape.dim`, `Shape.set`, `Dim.minus`, … — the operations that may fault.
* `Magnitude.orOverflow`, `Operand.create` — magnitudes and operands, or the cause of their absence.
-/

namespace TensorTyping

/-- The domain that a step left. -/
inductive Fault where
  /-- A place outside a list. -/
  | place
  /-- A difference below zero. -/
  | difference
  /-- A division by zero. -/
  | divisor
  /-- A number that is not in the range of a dimension. -/
  | narrowing
  deriving DecidableEq

/-- Why an inference ended without a value. -/
inductive Failure where
  | rejected (cause : Cause)
  | fault (fault : Fault)
  deriving DecidableEq

/-- An inference of a value. -/
abbrev Infer := Except Failure

instance {α : Type} [DecidableEq α] : DecidableEq (Infer α)
  | .ok a, .ok b => decidable_of_iff (a = b) (by simp)
  | .error a, .error b => decidable_of_iff (a = b) (by simp)
  | .ok _, .error _ => isFalse nofun
  | .error _, .ok _ => isFalse nofun

/-- Ends the inference for the given cause. -/
def reject {α : Type} (cause : Cause) : Infer α :=
  .error (.rejected cause)

/-- Ends the inference with a fault. -/
def Fault.raise {α : Type} (fault : Fault) : Infer α :=
  .error (.fault fault)

/-- Goes on when `p` holds, and ends for the given cause otherwise. -/
def require (p : Prop) [Decidable p] (cause : Cause) : Infer Unit :=
  if p then .ok () else reject cause

theorem require_eq_ok {p : Prop} [Decidable p] {cause : Cause} {u : Unit} :
    require p cause = .ok u ↔ p := by
  by_cases h : p <;> simp [require, reject, h]

/-! ## Operations with a domain -/

/-- The difference of two places. -/
def difference (m n : Nat) : Infer Nat :=
  if n ≤ m then .ok (m - n) else Fault.raise .difference

namespace Dim

/-- The difference of two dimensions. -/
def minus (m n : Dim) : Infer Dim :=
  if n ≤ m then .ok (m - n) else Fault.raise .difference

/-- The quotient of two dimensions, rounded down. -/
def quotient (m n : Dim) : Infer Dim :=
  if n = 0 then Fault.raise .divisor else .ok (m / n)

/-- The remainder of two dimensions. -/
def remainder (m n : Dim) : Infer Dim :=
  if n = 0 then Fault.raise .divisor else .ok (m % n)

/-- An integer as a dimension. -/
def ofInt (n : Int) : Infer Dim :=
  if 0 ≤ n ∧ n ≤ Dim.largest.toNat then .ok (.ofNat n.toNat) else Fault.raise .narrowing

end Dim

namespace Shape

/-- The dimension at a place. -/
def dim (s : Shape) (place : Nat) : Infer Dim :=
  match s[place]? with
  | some d => .ok d
  | none => Fault.raise .place

/-- The shape with another dimension at a place. -/
def set (s : Shape) (place : Nat) (d : Dim) : Infer Shape :=
  if place < s.length then .ok (List.set s place d) else Fault.raise .place

/-- The dimensions before a place. -/
def before (s : Shape) (place : Nat) : Infer Shape :=
  if place ≤ s.length then .ok (s.take place) else Fault.raise .place

/-- The dimensions from a place on. -/
def onward (s : Shape) (place : Nat) : Infer Shape :=
  if place ≤ s.length then .ok (s.drop place) else Fault.raise .place

/-- The dimension that is `back` places before the end; the last one is 1 place before it. -/
def dimFromEnd (s : Shape) (back : Nat) : Infer Dim := do
  s.dim (← difference s.length back)

end Shape

/-! ## Magnitudes and operands -/

/-- The value of a magnitude, or the rejection that names it. -/
def Magnitude.orOverflow {w : Width} (a : Magnitude w) (magnitude : Overflow) : Infer Nat :=
  match a.value with
  | some n => .ok n
  | none => reject (.overflow magnitude)

/-- The value of a magnitude as a dimension, or the rejection that names it. -/
def Magnitude.dimOrOverflow (a : Magnitude .dimension) (magnitude : Overflow) : Infer Dim :=
  UInt32.ofNat <$> a.orOverflow magnitude

/-- The operand of the given type and shape, if its bytes can be counted. -/
def Operand.create (dataType : DataType) (shape : Shape) : Infer Operand := do
  let operand : Operand := ⟨dataType, shape⟩
  require operand.Sized (.overflow (.operandBytes dataType shape))
  return operand

end TensorTyping
