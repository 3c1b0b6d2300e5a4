/-!
# Shortest decimals and their layout

A floating-point number is written with the fewest decimal digits that read back as the same number.
How these digits are laid out is a matter of style.

* `Decimal` — digits scaled by a power of ten.
* `Decimal.shortest` — the fewest digits that read back.
* `Decimal.Style`, `Decimal.write` — where the point goes, and when an exponent is written.
-/

namespace TensorTyping

/-- The number `digits * 10 ^ exponent`. -/
structure Decimal where
  digits : Nat
  exponent : Int
  deriving DecidableEq

namespace Decimal

def value (d : Decimal) : Rat :=
  d.digits * 10 ^ d.exponent

/-- The exponent `k` with `10 ^ k ≤ x < 10 ^ (k + 1)`, for positive `x`. -/
def decade (x : Rat) : Int :=
  let k : Int := (Nat.toDigits 10 x.num.natAbs).length - (Nat.toDigits 10 x.den).length
  if (10 : Rat) ^ k ≤ x then k else k - 1

/-- Which of two equally near decimals is taken. -/
inductive Tie where
  | upper
  | even
  deriving DecidableEq

/-- The neighbours of `x` on the grid of multiples of `10 ^ exponent` that read back, the nearer one
first choice. -/
def onGrid? (tie : Tie) (reads : Rat → Bool) (x : Rat) (exponent : Int) : Option Decimal :=
  let scaled := x / 10 ^ exponent
  let lower : Decimal := ⟨scaled.floor.toNat, exponent⟩
  let upper : Decimal := ⟨scaled.floor.toNat + 1, exponent⟩
  let excess := scaled - scaled.floor
  match reads lower.value, reads upper.value with
  | false, false => none
  | true, false => some lower
  | false, true => some upper
  | true, true =>
    if excess < 1 / 2 then some lower
    else if 1 / 2 < excess then some upper
    else match tie with
      | .upper => some upper
      | .even => if lower.digits % 2 = 0 then some lower else some upper

/-- The decimal of at most `places` digits that has the fewest digits among those that `reads`
accepts, for positive `x`. -/
def shortest (tie : Tie) (reads : Rat → Bool) (places : Nat) (x : Rat) : Decimal :=
  let top := decade x
  let found := (List.range places).findSome? fun (i : Nat) => onGrid? tie reads x (top - i)
  found.getD ⟨(x / 10 ^ (top - places)).floor.toNat, top - places⟩

/-- How the digits of a number are laid out. -/
structure Style where
  /-- Which of two equally near decimals is taken. -/
  tie : Tie
  /-- The exponents of the first digit for which the number is written without an exponent. -/
  isPositional : Int → Bool
  /-- Whether an integer is written with `.0`. -/
  keepsPoint : Bool
  /-- Whether an exponent that is not negative is written with `+`. -/
  signsExponent : Bool

private def zeros (n : Nat) : List Char :=
  List.replicate n '0'

/-- The digits with the point in its place. -/
def positional (keepsPoint : Bool) (digits : List Char) (exponent : Int) : List Char :=
  let whole := digits.length + exponent
  if 0 ≤ exponent then
    digits ++ zeros exponent.toNat ++ (if keepsPoint then ['.', '0'] else [])
  else if 0 < whole then
    digits.take whole.toNat ++ '.' :: digits.drop whole.toNat
  else
    '0' :: '.' :: zeros (-whole).toNat ++ digits

/-- One digit before the point, and the exponent of that digit. -/
def scientific (signsExponent : Bool) (digits : List Char) (lead : Int) : List Char :=
  let mantissa := match digits with
    | first :: second :: rest => first :: '.' :: second :: rest
    | short => short
  let plus := if signsExponent && 0 ≤ lead then ['+'] else []
  mantissa ++ 'e' :: plus ++ lead.repr.toList

/-- The digits of `n` without the zeros at its end, and how many zeros these are. -/
def significant (n : Nat) : List Char × Nat :=
  let reversed := (Nat.toDigits 10 n).reverse
  let trailing := (reversed.takeWhile (· == '0')).length
  ((reversed.drop trailing).reverse, trailing)

/-- The text of a decimal; zero has the one digit `0`. -/
def write (style : Style) (d : Decimal) : String :=
  if d.digits = 0 then
    String.ofList (positional style.keepsPoint ['0'] 0)
  else
    let (digits, trailing) := significant d.digits
    let exponent := d.exponent + trailing
    let lead := exponent + digits.length - 1
    if style.isPositional lead then
      String.ofList (positional style.keepsPoint digits exponent)
    else
      String.ofList (scientific style.signsExponent digits lead)

/-- The style of messages: never an exponent, and integers without a point. -/
def Style.message : Style where
  tie := .upper
  isPositional _ := true
  keepsPoint := false
  signsExponent := false

end Decimal

end TensorTyping
