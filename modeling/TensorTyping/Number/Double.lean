import TensorTyping.Number.Rounding
import TensorTyping.Number.Decimal

/-!
# Double precision

Window positions and scaled sizes are computed in binary floating point of 53 significant bits.
Every value that arises is zero or a positive number well inside the exponent range, so a double is
a rational number and an operation is the exact one followed by one rounding.

* `Double.add`, `Double.sub`, `Double.mul`, `Double.div` — the rounded operations.
* `Double.text` — the shortest decimal.
* `Double.image` — the 64-bit image, in hexadecimal.
-/

namespace TensorTyping.Double

/-- The nearest double. -/
def round (x : Rat) : Rat :=
  Rounding.toBits 53 x

def add (x y : Rat) : Rat :=
  round (x + y)

def sub (x y : Rat) : Rat :=
  round (x - y)

def mul (x y : Rat) : Rat :=
  round (x * y)

/-- The quotient by a positive divisor. A divisor of 0 would give an infinity or no number at all,
which are not among these doubles. -/
def div (x y : Rat) : Rat :=
  round (x / y)

/-- The least power of two beyond all doubles. -/
def limit : Rat := 2 ^ (1024 : Int)

/-- The fewest digits that read back as `x`. -/
def digits (x : Rat) (tie : Decimal.Tie) : Decimal :=
  if x = 0 then ⟨0, 0⟩ else Decimal.shortest tie (fun c => round c == x) 17 x

/-- The text of a double in messages. -/
def text (x : Rat) : String :=
  Decimal.write .message (digits x Decimal.Style.message.tie)

/-- The place value of the exponent field: `2 ^ 52`. -/
def exponentUnit : Nat := 4503599627370496

/-- The bits of a double that is zero or positive and normal: the exponent field above the
fraction. -/
def bits (x : Rat) : Nat :=
  if x = 0 then 0
  else
    let unit := Rounding.binade x - 52
    (unit + 1074).toNat * exponentUnit + (x / 2 ^ unit).floor.toNat

/-- The bits of a double as sixteen hexadecimal digits. -/
def image (x : Rat) : String :=
  let digits := Nat.toDigits 16 (bits x)
  "f64:" ++ String.ofList (List.replicate (16 - digits.length) '0' ++ digits)

end TensorTyping.Double
