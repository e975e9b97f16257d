import ScalarServer.Decimal.Basic
import ScalarServer.Floating.Round

/-!
# Shortest decimal that reads back

A floating-point number is shown by the fewest digits that round to it, and by the nearest of
those. The reals that round to a magnitude lie between the midpoints to its neighbours, the
midpoints included exactly if its ordinal is even. With one more digit of precision the midpoints
are themselves representable, so both come from `Floating.Format.ratio`.
-/

namespace ScalarServer.Decimal

open Floating (Format)

/-- Which of two equally near decimals is taken. -/
inductive Tie where
  /-- The larger one. -/
  | up
  /-- The one whose last digit is even. -/
  | even
deriving DecidableEq, Repr

/-- Numerator and denominator of `coefficient * 10 ^ exponent`. -/
def ratio (d : Decimal) : Nat × Nat :=
  (d.coefficient * tenPow d.exponent.toNat, tenPow (-d.exponent).toNat)

/-- Comparison of two quotients. -/
def compareRatios (x y : Nat × Nat) : Ordering :=
  compare (x.1 * y.2) (y.1 * x.2)

/-- The format with one more binary digit; its ordinal `2 * n` is the magnitude `n` of `fmt`. -/
def withMidpoints (fmt : Format) : Format :=
  ⟨fmt.precision + 1, fmt.exponentBits⟩

/-- Whether a decimal is read as the magnitude with a positive finite ordinal. -/
def readsAs (fmt : Format) (ordinal : Nat) (d : Decimal) : Bool :=
  let above := compareRatios ((withMidpoints fmt).ratio (2 * ordinal - 1)) d.ratio
  let below := compareRatios d.ratio ((withMidpoints fmt).ratio (2 * ordinal + 1))
  let inside (o : Ordering) := o == .lt || (o == .eq && ordinal % 2 == 0)
  inside above && inside below

/-- The exponent of the greatest power of ten that is at most a positive quotient. -/
def log10Quotient (num den : Nat) : Int :=
  -- shifted by as many digits as the denominator has, the quotient is at least one
  let shift := (Text.digitsOf den).length
  ((Text.digitsOf (num * tenPow shift / den)).length : Int) - 1 - shift

/-- The decimals just below and just above a quotient, in steps of a power of ten. -/
def neighbours (num den : Nat) (exponent : Int) : Decimal × Decimal :=
  let q := num * tenPow (-exponent).toNat / (den * tenPow exponent.toNat)
  (⟨q, exponent⟩, ⟨q + 1, exponent⟩)

/-- The nearer of the two neighbours of a quotient. -/
def nearer (tie : Tie) (value : Nat × Nat) (low high : Decimal) : Decimal :=
  let middle := (⟨2 * low.coefficient + 1, low.exponent⟩ : Decimal).ratio
  match compareRatios (2 * value.1, value.2) middle with
  | .lt => low
  | .gt => high
  | .eq => match tie with
    | .up => high
    | .even => if low.coefficient % 2 == 0 then low else high

/-- Looks for a decimal that reads back in finer and finer steps. -/
def search (fmt : Format) (tie : Tie) (ordinal : Nat) (exponent : Int) : Nat → Decimal
  | 0 => (neighbours (fmt.ratio ordinal).1 (fmt.ratio ordinal).2 exponent).1
  | steps + 1 =>
    let value := fmt.ratio ordinal
    let (low, high) := neighbours value.1 value.2 exponent
    -- if any decimal in these steps reads back, so does one of the two neighbours
    match readsAs fmt ordinal low, readsAs fmt ordinal high with
    | true, true => nearer tie value low high
    | true, false => low
    | false, true => high
    | false, false => search fmt tie ordinal (exponent - 1) steps

/-- A decimal without trailing zeros in its coefficient. -/
def stripZeros : Nat → Decimal → Decimal
  | 0, d => d
  | fuel + 1, d =>
    if d.coefficient ≠ 0 ∧ d.coefficient % 10 = 0 then
      stripZeros fuel ⟨d.coefficient / 10, d.exponent + 1⟩
    else d

/-- The shortest decimal for the magnitude with a finite ordinal. As many digits as the format
has binary ones are always enough. -/
def shortest (fmt : Format) (tie : Tie) (ordinal : Nat) : Decimal :=
  if ordinal = 0 then ⟨0, 0⟩ else
    let value := fmt.ratio ordinal
    let found := search fmt tie ordinal (log10Quotient value.1 value.2) fmt.precision
    stripZeros (Text.digitsOf found.coefficient).length found

end ScalarServer.Decimal
