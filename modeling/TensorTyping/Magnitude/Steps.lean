import TensorTyping.Infer

/-!
# Sequences of steps

A computation with magnitudes as a list of steps. Each right-hand side has the width that the
running magnitude has at that step.

* `Magnitude.Operation` — the arithmetic of two magnitudes.
* `Magnitude.Steps w` — steps that start from a magnitude of width `w`.
* `Magnitude.Steps.run` — what each step answers.
-/

namespace TensorTyping.Magnitude

/-- The arithmetic of two magnitudes. -/
inductive Operation where
  | add
  | sub
  | mul
  | div
  | divCeil
  deriving DecidableEq

def Operation.apply {w : Width} (operation : Operation) (a b : Magnitude w) : Magnitude w :=
  match operation with
  | add => a + b
  | sub => a - b
  | mul => a * b
  | div => a / b
  | divCeil => a.divCeil b

/-- Steps that start from a magnitude of width `w`. -/
inductive Steps : Width → Type where
  | done {w : Width} : Steps w
  /-- Combines the running magnitude with another one. -/
  | apply {w : Width} (operation : Operation) (rhs : Magnitude w) (rest : Steps w) : Steps w
  /-- Goes on in another width. -/
  | cast {w : Width} (target : Width) (rest : Steps target) : Steps w
  /-- Asks for the value, and goes on with the same magnitude. -/
  | report {w : Width} (context : String) (rest : Steps w) : Steps w

/-- What a step answers. -/
inductive Outcome where
  /-- The running magnitude after the step. -/
  | running (width : Width) (magnitude : Magnitude width)
  /-- The value of the running magnitude, or the rejection that names its context. -/
  | reported (value : Infer Nat)

/-- The answers of the steps, in order. -/
def Steps.run {w : Width} (a : Magnitude w) : Steps w → List Outcome
  | done => []
  | apply operation rhs rest =>
    let result := operation.apply a rhs
    .running w result :: rest.run result
  | cast target rest =>
    let result := a.cast target
    .running target result :: rest.run result
  | report context rest => .reported (a.orOverflow (.context context)) :: rest.run a

end TensorTyping.Magnitude
