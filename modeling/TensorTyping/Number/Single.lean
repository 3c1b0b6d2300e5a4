import TensorTyping.Describe
import TensorTyping.Number.Rounding
import TensorTyping.Number.Decimal

/-!
# Single precision

Scale factors are binary floating-point numbers of 24 significant bits, given by their 32-bit
images: a sign, eight bits of exponent and 23 bits of fraction.

* `Single` — a number by its image; `Single.value` is the rational number it stands for.
* `Single.nearest` — the single nearest to a rational number.
* `Single.text`, `Single.literal` — its text in messages and in descriptions.
-/

namespace TensorTyping

/-- A single-precision number, given by its image. -/
structure Single where
  bits : UInt32
  deriving DecidableEq

namespace Single

/-- The place value of the sign: `2 ^ 31`. -/
def signUnit : Nat := 2147483648

/-- The place value of the exponent field: `2 ^ 23`. -/
def exponentUnit : Nat := 8388608

/-- Whether the sign is set. -/
def isNegative (s : Single) : Bool :=
  signUnit ≤ s.bits.toNat

def exponentField (s : Single) : Nat :=
  s.bits.toNat / exponentUnit % 256

def fraction (s : Single) : Nat :=
  s.bits.toNat % exponentUnit

/-- The largest exponent field is kept for infinities and for what is not a number. -/
def isFinite (s : Single) : Bool :=
  s.exponentField != 255

/-- The absolute value of a finite single; a zero exponent field means no hidden bit. -/
def magnitude (s : Single) : Rat :=
  if s.exponentField = 0 then s.fraction * 2 ^ (-149 : Int)
  else (exponentUnit + s.fraction : Nat) * 2 ^ (s.exponentField - 150 : Int)

/-- The number that a finite single stands for. -/
def value (s : Single) : Rat :=
  if s.isNegative then -s.magnitude else s.magnitude

/-- The image of infinity. -/
def infinity : Nat :=
  255 * exponentUnit

/-- The single nearest to `x`, for `x` that is not negative: a multiple of a unit that leaves 24
significant bits, but is never below the smallest one. Beyond the largest finite number lies
infinity. -/
def nearestImage (x : Rat) : Nat :=
  if x = 0 then 0
  else
    let unit := max (Rounding.binade x - 23) (-149)
    min ((unit + 149).toNat * exponentUnit + (Rounding.nearestEven (x / 2 ^ unit)).toNat) infinity

/-- The single nearest to `x`, negated when `negative` holds. -/
def nearest (negative : Bool) (x : Rat) : Single :=
  ⟨.ofNat (nearestImage x + if negative then signUnit else 0)⟩

/-- The fewest digits that read back as the magnitude of `s`. -/
def digits (s : Single) (tie : Decimal.Tie) : Decimal :=
  if s.magnitude = 0 then ⟨0, 0⟩
  else Decimal.shortest tie (fun c => nearestImage c == s.bits.toNat % signUnit) 9 s.magnitude

/-- The text of a single in a given style; what is not a number has no sign. -/
def write (style : Decimal.Style) (s : Single) : String :=
  let sign := if s.isNegative then "-" else ""
  if s.isFinite then sign ++ Decimal.write style (s.digits style.tie)
  else if s.fraction = 0 then sign ++ "inf"
  else "NaN"

/-- The text of a single in messages. -/
def text (s : Single) : String :=
  s.write .message

/-- The style of descriptions: the point is kept, and numbers below 0.0001 or from 10 ^ 16 on have
an exponent, which is signed only when it is negative. -/
def literal : Decimal.Style where
  tie := .upper
  isPositional lead := -4 ≤ lead && lead < 16
  keepsPoint := true
  signsExponent := false

instance : Describe Single where
  describe := write literal

end Single

end TensorTyping
