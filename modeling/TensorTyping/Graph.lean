import TensorTyping.Call

/-!
# Graphs of calls

A graph is built call by call. Its operands are those given at the start and the outputs of the
calls that succeeded, in that order.

* `Graph` — the operands so far; `Graph.append` adds outputs, `Graph.perform` the outputs of a call.
* `Reference`, `Graph.find?` — an operand of a graph by its place, or the newest one.
-/

namespace TensorTyping

/-- The operands of a graph, the oldest first. -/
structure Graph where
  operands : List Operand
  deriving DecidableEq

/-- A way to name an operand of a graph. -/
inductive Reference where
  | place (index : Nat)
  | newest
  deriving DecidableEq

namespace Graph

/-- The operand that a reference names. -/
def find? (g : Graph) : Reference → Option Operand
  | .place index => g.operands[index]?
  | .newest => g.operands.getLast?

/-- The graph with further operands. -/
def append (g : Graph) (outputs : List Operand) : Graph :=
  ⟨g.operands ++ outputs⟩

/-- The graph after a call: a call that fails adds nothing. -/
def perform (g : Graph) (call : Call) : Graph :=
  match call.infer.result with
  | .ok outputs => g.append outputs
  | .error _ => g

end Graph

end TensorTyping
