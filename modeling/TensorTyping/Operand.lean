import TensorTyping.Magnitude
import TensorTyping.DataType

/-!
# Operands

An operand is the static type of a tensor: the type of its elements and its shape. Nothing in the
type bounds its size; `Operand.byteLength` says whether the size can be counted.

* `Dim`, `Shape` — a dimension, and the dimensions of a tensor from the outermost in.
* `Operand` — an element type and a shape.
* `Operand.elementCount`, `Operand.byteLength` — the sizes, when they can be counted.
-/

namespace TensorTyping

/-- One dimension of a tensor. -/
abbrev Dim := UInt32

/-- The largest dimension. -/
def Dim.largest : Dim := 4294967295

/-- The dimensions of a tensor, from the outermost in. -/
abbrev Shape := List Dim

/-- The static type of a tensor. -/
structure Operand where
  dataType : DataType
  shape : Shape
  deriving DecidableEq

namespace Operand

/-- The number of axes. -/
def rank (x : Operand) : Nat :=
  x.shape.length

/-- The number of elements, when every step of the product can be counted. -/
def elementCount (x : Operand) : Option Nat :=
  (Magnitude.product x.shape).value

/-- The number of bytes, when it can be counted. -/
def byteLength (x : Operand) : Option Nat :=
  (Magnitude.product x.shape * .ofNat x.dataType.bytes).value

/-- An operand whose bytes can be counted. -/
def Sized (x : Operand) : Prop :=
  x.byteLength.isSome

instance (x : Operand) : Decidable x.Sized :=
  inferInstanceAs (Decidable (_ = true))

end Operand

instance : Describe Operand where
  describe x := describeRecord "Operand"
    [("data_type", describe x.dataType), ("shape", describe x.shape)]

end TensorTyping
