import ScalarServer.Json.Basic
import ScalarServer.Text.Digits

/-!
# Reading JSON numbers

An integer literal that fits 64 bits is that integer. Every other literal is a double, computed in
one pass over its digits: they are gathered in a 64-bit significand for as long as they fit, and
the significand is then multiplied or divided by a power of ten in double arithmetic. So a literal
of many digits may come out one unit away from the nearest double. A literal that overflows has
no value.
-/

namespace ScalarServer.Json

open Text
open Floating (Format)

/-- The parts of a number literal. -/
structure NumberLiteral where
  /-- Whether a minus sign stands in front. -/
  negative : Bool
  /-- The digits before the point. -/
  whole : List Char
  /-- The digits after the point, if there is one. -/
  fraction : Option (List Char)
  /-- The sign and the digits of the exponent, if there is one. -/
  exponent : Option (Bool × List Char)
deriving Repr

/-- Appends digits to a significand as long as it fits 64 bits, and counts the digits taken. -/
def gather (significand : Nat) : List Char → Nat × Nat
  | [] => (significand, 0)
  | c :: cs =>
    let next := 10 * significand + digitValue c
    if next < 18446744073709551616 then
      let (result, taken) := gather next cs
      (result, taken + 1)
    else (significand, 0)

/-- The ordinal of the double nearest to a power of ten. -/
def powerOfTen (k : Nat) : Nat :=
  Format.binary64.nearest (tenPow k) 1

/-- Scales the magnitude with an ordinal by a power of ten, in steps that double arithmetic can
represent. There is no result beyond the finite doubles. -/
def scaled (ordinal : Nat) (exponent : Int) : Option Nat :=
  if 308 < exponent then
    if ordinal = 0 then some 0 else none
  else if 0 ≤ exponent then
    let product := Format.binary64.mul ordinal (powerOfTen exponent.toNat)
    if product = Format.binary64.infinity then none else some product
  else if -308 ≤ exponent then
    some (Format.binary64.div ordinal (powerOfTen (-exponent).toNat))
  else if ordinal = 0 then some 0
  else scaled (Format.binary64.div ordinal (powerOfTen 308)) (exponent + 308)
termination_by (-exponent).toNat
decreasing_by omega

/-- The double with a sign, a significand and a decimal exponent. -/
def realOfParts (negative : Bool) (significand : Nat) (exponent : Int) : Option Number :=
  (scaled (Format.binary64.nearest significand 1) exponent).bind fun ordinal =>
    Number.ofReal? (.ofOrdinal .binary64 negative ordinal)

/-- The greatest exponent that is computed with; it fits a signed 32-bit word. -/
def exponentLimit : Int :=
  2147483647

/-- The number that a literal stands for. -/
def NumberLiteral.value? (l : NumberLiteral) : Option Number :=
  let (head, taken) := gather 0 l.whole
  -- whole digits that no longer fit count as zeros
  let dropped : Int := l.whole.length - taken
  match l.fraction, l.exponent with
  | none, none =>
    if dropped ≠ 0 then realOfParts l.negative head dropped
    else if l.negative then
      if 0 < head ∧ head ≤ 9223372036854775808 then Number.ofInt? (-head)
      else Number.ofReal? (.ofOrdinal .binary64 true (Format.binary64.nearest head 1))
    else Number.ofInt? head
  | fraction, exponent =>
    -- fraction digits that no longer fit do not count
    let (significand, places) := gather head (fraction.getD [])
    let start := dropped - places
    match exponent with
    | none => realOfParts l.negative significand start
    | some (negativeExponent, digits) =>
      let e : Int := ofDigits digits
      if exponentLimit < e then
        if significand ≠ 0 ∧ !negativeExponent then none
        else Number.ofReal? (.ofOrdinal .binary64 l.negative 0)
      else
        let total := if negativeExponent then start - e else start + e
        realOfParts l.negative significand (max (-2147483648) (min exponentLimit total))

end ScalarServer.Json
