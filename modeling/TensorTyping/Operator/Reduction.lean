import TensorTyping.Rule

/-!
# Reductions

A reduction combines the elements along some axes into one.

* `Shape.reduce` — the shape that is left.
* `Reduction` — reductions that give an element of the input's type.
* `ArgReduction` — reductions that give the place of an element.
-/

namespace TensorTyping

/-- Sets the given axes to 1, or drops them. Axes are numbered in the width of a dimension. -/
def Shape.reduce (s : Shape) (axes : List Dim) (keepDimensions : Bool) : Shape :=
  s.zipIdx.filterMap fun (dim, place) =>
    if !axes.contains (.ofNat place) then some dim
    else if keepDimensions then some 1
    else none

/-- The attributes of a reduction. Without axes nothing is reduced. -/
structure Reduction where
  kind : ReduceKind
  axes : List Dim
  keepDimensions : Bool
  deriving DecidableEq

def Reduction.infer (r : Reduction) (input : Operand) : Infer Operand := do
  if r.kind.requiresFloatingPoint then
    input.requireFloatingPoint (r.kind.operator ++ " input")
  requireAxes r.kind.operator r.axes input.rank
  Operand.create input.dataType (input.shape.reduce r.axes r.keepDimensions)

/-- The attributes of a reduction to a place. -/
structure ArgReduction where
  kind : ArgKind
  axes : List Dim
  keepDimensions : Bool
  deriving DecidableEq

/-- Places are integers of 64 bits. -/
def ArgReduction.infer (r : ArgReduction) (input : Operand) : Infer Operand := do
  requireAxes (describe r.kind) r.axes input.rank
  Operand.create .int64 (input.shape.reduce r.axes r.keepDimensions)

end TensorTyping
