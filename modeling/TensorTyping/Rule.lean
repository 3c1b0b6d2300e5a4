import TensorTyping.Infer

/-!
# Rules that operators share

Rules on the rank and type of an operand, on attribute lists and on axes. Each ends the inference
with the first violation it meets.

* `Operand.requireRank`, `Operand.requireFloatingPoint`, `Operand.requireType` — one operand.
* `Operand.requireLength` — an attribute list with one entry for each axis.
* `AxisFlags` — a flag for each axis of a tensor.
* `requireAxis`, `requireAxes` — one axis of a tensor, and several different ones.
-/

namespace TensorTyping

namespace Operand

def requireRank (x : Operand) (expected : Nat) (subject : String) : Infer Unit :=
  require (x.rank = expected) (.rank subject expected x.shape)

def requireFloatingPoint (x : Operand) (subject : String) : Infer Unit :=
  require x.dataType.isFloatingPoint (.notFloatingPoint subject x.dataType)

def requireType (x : Operand) (expected : DataType) (subject : String) : Infer Unit :=
  require (x.dataType = expected) (.typeDiffers subject x.dataType expected)

/-- The attribute list named `list` has one entry for each axis of `x`. -/
def requireLength (x : Operand) (operator list : String) (length : Nat) : Infer Unit :=
  require (length = x.rank) (.attributeLength operator list length x.shape)

end Operand

def Size2d.requirePositive (s : Size2d Dim) (subject : String) : Infer Unit :=
  require (s.height ≠ 0 ∧ s.width ≠ 0) (.notPositive subject s)

/-! ## Axes -/

/-- The axis is one of a tensor of the given rank. -/
def requireAxis (operator : String) (axis : Dim) (rank : Nat) : Infer Unit :=
  require (axis.toNat < rank) (.axisOutOfRange operator axis rank)

/-- A flag for each axis of a tensor of the given rank. It is a function of the place, so that a
rank of any size costs nothing before its axes are met. -/
structure AxisFlags (rank : Nat) where
  flag : Fin rank → Bool

namespace AxisFlags

/-- No flag is set. -/
def unset (rank : Nat) : AxisFlags rank :=
  ⟨fun _ => false⟩

variable {rank : Nat}

/-- The flag of an axis. -/
def read (flags : AxisFlags rank) (axis : Dim) : Infer Bool :=
  if h : axis.toNat < rank then .ok (flags.flag ⟨axis.toNat, h⟩) else Fault.raise .place

/-- The flags, with that of an axis set. -/
def set (flags : AxisFlags rank) (axis : Dim) : Infer (AxisFlags rank) :=
  if axis.toNat < rank then
    .ok ⟨fun place => if place.val = axis.toNat then true else flags.flag place⟩
  else Fault.raise .place

end AxisFlags

/-- Goes through `rest`, the axes of `axes` that follow those with a flag. -/
def requireAxesFrom (operator : String) (axes : List Dim) {rank : Nat} (flags : AxisFlags rank) :
    List Dim → Infer Unit
  | [] => .ok ()
  | axis :: rest => do
    requireAxis operator axis rank
    let met ← flags.read axis
    require (met = false) (.axisRepeated operator axes axis)
    let flags ← flags.set axis
    requireAxesFrom operator axes flags rest

/-- The axes are different ones of a tensor of the given rank. -/
def requireAxes (operator : String) (axes : List Dim) (rank : Nat) : Infer Unit :=
  requireAxesFrom operator axes (.unset rank) axes

end TensorTyping
