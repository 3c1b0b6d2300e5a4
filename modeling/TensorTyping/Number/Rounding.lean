/-!
# Rounding of rational numbers

Floating-point results are the exact rational results rounded to a number of significant bits. The
nearest candidate wins, and of two equally near ones the even one.

* `Rounding.nearestEven` — to an integer.
* `Rounding.binade` — the power of two at or below a positive number.
* `Rounding.toBits` — to a number of significant bits.
-/

namespace TensorTyping.Rounding

/-- The nearest integer, a half going to the even neighbour. -/
def nearestEven (x : Rat) : Int :=
  let below := x.floor
  let excess := x - below
  if excess < 1 / 2 then below
  else if 1 / 2 < excess then below + 1
  else if below % 2 = 0 then below
  else below + 1

/-- The exponent `e` with `2 ^ e ≤ x < 2 ^ (e + 1)`, for positive `x`. The bit lengths of numerator
and denominator leave two candidates. -/
def binade (x : Rat) : Int :=
  let e : Int := x.num.natAbs.log2 - x.den.log2
  if (2 : Rat) ^ e ≤ x then e else e - 1

/-- The nearest multiple of `2 ^ e`. -/
def toUnit (e : Int) (x : Rat) : Rat :=
  nearestEven (x / 2 ^ e) * 2 ^ e

/-- The nearest number with at most `p` significant bits, for `x` that is not negative. The exponent
is not bounded. -/
def toBits (p : Nat) (x : Rat) : Rat :=
  if x = 0 then 0 else toUnit (binade x - p + 1) x

end TensorTyping.Rounding
