import ScalarServer.Floating.Basic

/-!
# Rounding to nearest

`Floating.Format.nearest` gives the ordinal of the representable magnitude nearest to an exact
quotient, the even one of two that are equally near; quotients too large for the format go to
infinity. Everything that produces a floating-point number from exact data goes through it:
integers, products and quotients, and the change from one format to another.
-/

namespace ScalarServer.Floating

/-- The quotient of two naturals, rounded to the nearest integer; a half goes to the even one. -/
def roundDiv (num den : Nat) : Nat :=
  let q := num / den
  let r := num % den
  if 2 * r < den then q
  else if den < 2 * r then q + 1
  else if q % 2 = 0 then q else q + 1

/-- The exponent of the greatest power of two that is at most a positive quotient. -/
def log2Quotient (num den : Nat) : Int :=
  let k : Int := (Nat.log2 num : Int) - (Nat.log2 den : Int)
  if den * twoPow k.toNat ≤ num * twoPow (-k).toNat then k else k - 1

/-- The ordinal of the magnitude nearest to a quotient. -/
def Format.nearest (fmt : Format) (num den : Nat) : Nat :=
  if num = 0 then 0 else
    -- the exponent of the last digit; subnormal numbers have fewer digits
    let e := max fmt.minExponent (log2Quotient num den - (fmt.precision - 1 : Nat))
    let q := roundDiv (num * twoPow (-e).toNat) (den * twoPow e.toNat)
    -- a significand that is rounded up to a power of two runs into the next binade
    min fmt.infinity (q + (e - fmt.minExponent).toNat * fmt.binade)

variable {fmt : Format}

/-- The number nearest to a quotient with a sign. -/
def ofRatio (fmt : Format) (negative : Bool) (num den : Nat) : Floating fmt :=
  ofOrdinal fmt negative (fmt.nearest num den)

/-- The number nearest to an integer. -/
def ofInt (fmt : Format) (n : Int) : Floating fmt :=
  ofRatio fmt (decide (n < 0)) n.natAbs 1

/-- The product of the magnitudes with two ordinals, rounded. -/
def Format.mul (fmt : Format) (m n : Nat) : Nat :=
  let (a, b) := fmt.ratio m
  let (c, d) := fmt.ratio n
  fmt.nearest (a * c) (b * d)

/-- The quotient of the magnitudes with two ordinals, rounded. -/
def Format.div (fmt : Format) (m n : Nat) : Nat :=
  let (a, b) := fmt.ratio m
  let (c, d) := fmt.ratio n
  fmt.nearest (a * d) (b * c)

/-- The nearest number of another format. NaN and the infinities stay what they are. -/
def convert (target : Format) : Floating fmt → Floating target
  | .nan => .nan
  | .number s n _ =>
    if n = fmt.infinity then ofOrdinal target s target.infinity
    else
      let (num, den) := fmt.ratio n
      ofRatio target s num den

/-- The integer part of a number, towards zero, clamped to signed 64-bit integers; 0 for NaN. -/
def truncate : Floating fmt → Int
  | .nan => 0
  | .number s n _ =>
    let (num, den) := fmt.ratio n
    let whole : Int :=
      if n = fmt.infinity then 9223372036854775808 else ((num / den : Nat) : Int)
    if s then max (-9223372036854775808) (-whole) else min 9223372036854775807 whole

/-- A single in double precision; every single is representable there. -/
def widen (x : Binary32) : Binary64 :=
  convert .binary64 x

/-- Whether a double is finite and its magnitude is above that of every finite single. -/
def exceedsSingle (x : Binary64) : Bool :=
  match x, widen largest with
  | .number _ n _, .number _ limit _ => n < Format.binary64.infinity && limit < n
  | _, _ => false

/-- A double in single precision. A finite double beyond the greatest single has none. -/
def narrow? (x : Binary64) : Option Binary32 :=
  if x.exceedsSingle then none else some (convert .binary32 x)

end ScalarServer.Floating
