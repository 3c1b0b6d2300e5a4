import TensorTyping.Describe

/-!
# Element types

The types that the elements of a tensor may have, and the bytes that one element takes.
-/

namespace TensorTyping

/-- The type of a tensor's elements. -/
inductive DataType where
  | float32
  | float16
  | int32
  | uint32
  | int64
  | uint64
  | int8
  | uint8
  deriving DecidableEq

namespace DataType

/-- The bytes that one element takes. -/
def bytes : DataType → Nat
  | float32 => 4
  | float16 => 2
  | int32 => 4
  | uint32 => 4
  | int64 => 8
  | uint64 => 8
  | int8 => 1
  | uint8 => 1

def isFloatingPoint : DataType → Bool
  | float32 | float16 => true
  | _ => false

/-- The types whose elements may be used as places in another tensor. -/
def isIndex : DataType → Bool
  | int32 | uint32 | int64 => true
  | _ => false

instance : Tagged DataType where
  all := [float32, float16, int32, uint32, int64, uint64, int8, uint8]
  tag
    | float32 => "float32"
    | float16 => "float16"
    | int32 => "int32"
    | uint32 => "uint32"
    | int64 => "int64"
    | uint64 => "uint64"
    | int8 => "int8"
    | uint8 => "uint8"
  title
    | float32 => "Float32"
    | float16 => "Float16"
    | int32 => "Int32"
    | uint32 => "Uint32"
    | int64 => "Int64"
    | uint64 => "Uint64"
    | int8 => "Int8"
    | uint8 => "Uint8"

end DataType

end TensorTyping
