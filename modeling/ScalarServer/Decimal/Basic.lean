import ScalarServer.Text.Digits

/-!
# Decimal numbers and how they are written

A decimal number is an integer coefficient scaled by a power of ten. It is written positionally,
with as many zeros as it takes, or scientifically, with one digit before the point.
-/

namespace ScalarServer

/-- `coefficient * 10 ^ exponent`. -/
structure Decimal where
  /-- The integer that is scaled. -/
  coefficient : Nat
  /-- The power of ten that scales it. -/
  exponent : Int
deriving DecidableEq, Repr

namespace Decimal

open Text

/-- The digits of the coefficient. -/
def digits (d : Decimal) : List Char :=
  digitsOf d.coefficient

/-- The power of ten of the first digit: `x` in `d.ddd * 10 ^ x`. -/
def scientificExponent (d : Decimal) : Int :=
  d.digits.length - 1 + d.exponent

/-- Whole part and fraction digits of the positional form; the fraction may be empty. -/
def positionalParts (d : Decimal) : List Char × List Char :=
  let ds := d.digits
  if 0 ≤ d.exponent then (ds ++ List.replicate d.exponent.toNat '0', [])
  else
    let places := (-d.exponent).toNat
    if places < ds.length then (ds.take (ds.length - places), ds.drop (ds.length - places))
    else (['0'], List.replicate (places - ds.length) '0' ++ ds)

/-- The positional form, with a point only before a fraction. -/
def positional (d : Decimal) : List Char :=
  match d.positionalParts with
  | (whole, []) => whole
  | (whole, fraction) => whole ++ '.' :: fraction

/-- The positional form with at least one digit behind the point. -/
def positionalWithPoint (d : Decimal) : List Char :=
  match d.positionalParts with
  | (whole, []) => whole ++ ['.', '0']
  | (whole, fraction) => whole ++ '.' :: fraction

/-- The scientific form: no point after a single digit, the exponent always with its sign. -/
def scientific (d : Decimal) : List Char :=
  let mantissa := match d.digits with
    | [] => []
    | [c] => [c]
    | c :: cs => c :: '.' :: cs
  let x := d.scientificExponent
  mantissa ++ 'e' :: (if x < 0 then '-' else '+') :: digitsOf x.natAbs

end Decimal

end ScalarServer
