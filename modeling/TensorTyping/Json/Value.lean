import TensorTyping.Number.Double
import TensorTyping.Number.Single

/-!
# JSON values

The data format in which operands and attributes are exchanged. Integers of 64 bits are kept apart
from all other numbers, which are read as decimals.

* `Json.Number`, `Json` — numbers and values.
* `Json.field?`, `Json.variant?`, `Json.pair?` — views of a value as part of a larger one.
* `Json.write` — the text without blanks.
-/

namespace TensorTyping

namespace Json

/-- A number of a JSON text. -/
inductive Number where
  /-- A number written without point and exponent that fits 64 bits. -/
  | integer (value : Int)
  /-- Any other number, as a sign and a decimal. -/
  | decimal (negative : Bool) (magnitude : Decimal)
  deriving DecidableEq

namespace Number

/-- The double that is read for a decimal: its digits, then a power of ten, each rounded, then their
product or quotient. Nothing is read beyond the largest double. Decimals that far below the smallest
single are read as zero. -/
def magnitude? (d : Decimal) : Option Rat :=
  let digits := Double.round d.digits
  if digits = 0 ∨ d.exponent < -308 then some 0
  else if d.exponent < 0 then some (Double.div digits (Double.round (10 ^ (-d.exponent))))
  else if 308 < d.exponent then none
  else
    let x := Double.mul digits (Double.round (10 ^ d.exponent))
    if x < Double.limit then some x else none

/-- The single that is read for a number; beyond the largest one lies infinity. -/
def toSingle : Number → Single
  | integer n => Single.nearest (n < 0) n.natAbs
  | decimal negative d => Single.nearest negative ((magnitude? d).getD Double.limit)

end Number

end Json

/-- A JSON value. -/
inductive Json where
  | null
  | bool (value : Bool)
  | number (value : Json.Number)
  | string (value : String)
  | array (items : List Json)
  | object (fields : List (String × Json))

namespace Json

/-- A natural number as a value. -/
def ofNat (n : Nat) : Json :=
  .number (.integer n)

/-- The natural number that a value is. -/
def toNat? : Json → Option Nat
  | .number (.integer n) => if 0 ≤ n then some n.toNat else none
  | _ => none

/-- The value of a field of an object. -/
def field? (name : String) : Json → Option Json
  | .object fields => fields.lookup name
  | _ => none

/-- The name and the content of an object of one field. -/
def variant? : Json → Option (String × Json)
  | .object [(name, content)] => some (name, content)
  | _ => none

/-- The fields of a record of two: by name from an object, whose other fields are passed over, or by
place from an array, which may end early but not go on. -/
def pair? (first second : String) : Json → Option (Option Json × Option Json)
  | .object fields => some (fields.lookup first, fields.lookup second)
  | .array [] => some (none, none)
  | .array [a] => some (some a, none)
  | .array [a, b] => some (some a, some b)
  | _ => none

/-! ## Text -/

/-- The style of numbers: the point is kept, and numbers below 0.000001 or from 10 ^ 13 on have an
exponent, which is always signed. -/
def style : Decimal.Style where
  tie := .even
  isPositional lead := -6 ≤ lead && lead < 13
  keepsPoint := true
  signsExponent := true

def Number.write : Number → String
  | integer n => n.repr
  | decimal negative d => (if negative then "-" else "") ++ Decimal.write style d

/-- The character inside quotes; quotes, backslashes and control characters are escaped. -/
def escape (c : Char) : List Char :=
  if c = '"' then ['\\', '"']
  else if c = '\\' then ['\\', '\\']
  else if c = '\n' then ['\\', 'n']
  else if c = '\r' then ['\\', 'r']
  else if c = '\t' then ['\\', 't']
  else if c.toNat < 32 then
    ['\\', 'u', '0', '0', (c.toNat / 16).digitChar, (c.toNat % 16).digitChar]
  else [c]

/-- A text in quotes. -/
def quote (s : String) : String :=
  "\"" ++ String.ofList (s.toList.flatMap escape) ++ "\""

mutual

/-- The text of a value, without blanks. -/
def write : Json → String
  | .null => "null"
  | .bool b => if b then "true" else "false"
  | .number n => n.write
  | .string s => quote s
  | .array items => "[" ++ ",".intercalate (writeItems items) ++ "]"
  | .object fields => "\x7b" ++ ",".intercalate (writeFields fields) ++ "\x7d"

/-- The texts of the items of an array. -/
def writeItems : List Json → List String
  | [] => []
  | item :: items => item.write :: writeItems items

/-- The texts of the fields of an object. -/
def writeFields : List (String × Json) → List String
  | [] => []
  | (name, value) :: fields => (quote name ++ ":" ++ value.write) :: writeFields fields

end

end Json

end TensorTyping
