import ScalarServer.Decimal.Basic
import ScalarServer.Floating.Round

/-!
# Reading numbers from text

Integer literals are an optional sign and at least one digit. Decimal literals may have a point
and an exponent as well, and the words for infinity and NaN count as literals too. A decimal
literal is read as the floating-point number nearest to its exact value.
-/

namespace ScalarServer.Decimal

open Text
open Floating (Format)

/-- A leading sign, and the rest of the text. -/
def takeSign : List Char → Bool × List Char
  | '-' :: cs => (true, cs)
  | '+' :: cs => (false, cs)
  | cs => (false, cs)

/-- The integer that a text writes with an optional sign and at least one digit. -/
def integerLiteral? (cs : List Char) : Option Int :=
  let (negative, ds) := takeSign cs
  if ds = [] ∨ !ds.all Char.isDigit then none
  else
    let n : Int := ofDigits ds
    some (if negative then -n else n)

/-- The exponent part of a decimal literal: nothing, or `e` with an optional sign and digits. -/
def exponentPart? : List Char → Option Int
  | [] => some 0
  | c :: cs => if c = 'e' ∨ c = 'E' then integerLiteral? cs else none

/-- The unsigned decimal that a text writes. At least one digit must stand beside the point. -/
def unsignedLiteral? (cs : List Char) : Option Decimal :=
  let (whole, afterWhole) := takeDigits cs
  let (fraction, rest) := match afterWhole with
    | '.' :: ds => takeDigits ds
    | _ => ([], afterWhole)
  if whole ++ fraction = [] then none
  else (exponentPart? rest).map fun e =>
    ⟨ofDigits (whole ++ fraction), e - fraction.length⟩

/-- The ordinal of the magnitude nearest to a decimal. A decimal far above or below all finite
magnitudes is settled by its size, so that no huge power of ten is computed. -/
def nearestOrdinal (fmt : Format) (d : Decimal) : Nat :=
  let size : Int := (digitsOf d.coefficient).length + d.exponent
  -- the decimal is below `10 ^ size` and at least `10 ^ (size - 1)`
  let bound : Int := twoPow fmt.exponentBits
  if d.coefficient = 0 then 0
  else if bound < size then fmt.infinity
  else if size < -bound then 0
  else fmt.nearest (d.coefficient * tenPow d.exponent.toNat) (tenPow (-d.exponent).toNat)

/-- The floating-point number that a text writes. -/
def floatingLiteral? (fmt : Format) (cs : List Char) : Option (Floating fmt) :=
  let (negative, body) := takeSign cs
  let word := lowercase body
  if word = "nan".toList then some .nan
  else if word = "inf".toList ∨ word = "infinity".toList then
    some (.ofOrdinal fmt negative fmt.infinity)
  else (unsignedLiteral? body).map fun d => .ofOrdinal fmt negative (nearestOrdinal fmt d)

end ScalarServer.Decimal
