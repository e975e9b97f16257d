import ScalarServer.Power

/-!
# Binary floating-point numbers

A number of an IEEE 754 interchange format is a sign and a magnitude. The magnitude is kept as
its ordinal: the number of representable magnitudes below it, which is also its bit pattern
without the sign bit. Zero is the ordinal 0, the subnormal numbers follow, then the normal ones,
and infinity is the last. A larger ordinal is a larger magnitude, so comparison and rounding need
nothing but natural numbers. All NaNs are one value.

Main definitions:

* `Floating.Format`, with the formats `binary32` and `binary64`;
* `Floating`, the numbers of a format, and `Floating.toBits`, `Floating.ofBits`;
* `Floating.Format.ratio`, the exact magnitude that an ordinal stands for.
-/

namespace ScalarServer

/-- A binary interchange format, given by two widths. -/
structure Floating.Format where
  /-- Binary digits of a significand, the leading one included. -/
  precision : Nat
  /-- Bits of the exponent field. -/
  exponentBits : Nat
deriving DecidableEq, Repr

namespace Floating.Format

/-- Single precision. -/
def binary32 : Format := ⟨24, 8⟩

/-- Double precision. -/
def binary64 : Format := ⟨53, 11⟩

variable (fmt : Format)

/-- The number of ordinals that share one exponent. -/
def binade : Nat :=
  twoPow (fmt.precision - 1)

/-- The ordinal of infinity. -/
def infinity : Nat :=
  (twoPow fmt.exponentBits - 1) * fmt.binade

/-- The exponent of the unit in which subnormal numbers count. -/
def minExponent : Int :=
  3 - (twoPow (fmt.exponentBits - 1) : Int) - (fmt.precision : Int)

/-- The integer that, scaled by `exponent`, gives the magnitude with an ordinal. -/
def significand (ordinal : Nat) : Nat :=
  if ordinal < fmt.binade then ordinal else fmt.binade + ordinal % fmt.binade

/-- The power of two by which `significand` is scaled. -/
def exponent (ordinal : Nat) : Int :=
  fmt.minExponent + ((ordinal / fmt.binade - 1 : Nat) : Int)

/-- The magnitude with an ordinal, as an exact quotient of naturals. -/
def ratio (ordinal : Nat) : Nat × Nat :=
  let e := fmt.exponent ordinal
  (fmt.significand ordinal * twoPow e.toNat, twoPow (-e).toNat)

/-- Bits of a number of the format. -/
def width : Nat :=
  fmt.exponentBits + fmt.precision

end Floating.Format

/-- The numbers of a format. -/
inductive Floating (fmt : Floating.Format) where
  /-- Not a number. -/
  | nan
  /-- A sign and the ordinal of a magnitude, infinity included. -/
  | number (negative : Bool) (ordinal : Nat) (le_infinity : ordinal ≤ fmt.infinity)
deriving DecidableEq

/-- Single-precision numbers. -/
abbrev Binary32 := Floating .binary32

/-- Double-precision numbers. -/
abbrev Binary64 := Floating .binary64

namespace Floating

variable {fmt : Format}

/-- The number with a sign and an ordinal; ordinals beyond infinity stand for infinity. -/
def ofOrdinal (fmt : Format) (negative : Bool) (ordinal : Nat) : Floating fmt :=
  .number negative (min ordinal fmt.infinity) (Nat.min_le_right _ _)

/-- Positive zero. -/
def zero : Floating fmt :=
  ofOrdinal fmt false 0

/-- Positive infinity. -/
def infinity : Floating fmt :=
  ofOrdinal fmt false fmt.infinity

/-- The greatest finite number. -/
def largest : Floating fmt :=
  ofOrdinal fmt false (fmt.infinity - 1)

/-- Whether a number is neither infinite nor NaN. -/
def isFinite : Floating fmt → Bool
  | .nan => false
  | .number _ n _ => n < fmt.infinity

/-- The number of the opposite sign. -/
def neg : Floating fmt → Floating fmt
  | .nan => .nan
  | .number s n h => .number (!s) n h

/-- Equality of numbers as quantities: NaN equals nothing, and the two zeros are equal. -/
def sameQuantity : Floating fmt → Floating fmt → Bool
  | .number s n _, .number s' n' _ => n == n' && (s == s' || n == 0)
  | _, _ => false

/-- The bit pattern of a number; NaN has the quiet one without sign or payload. -/
def toBits : Floating fmt → Nat
  | .nan => fmt.infinity + twoPow (fmt.precision - 2)
  | .number s n _ => (if s then twoPow (fmt.width - 1) else 0) + n

/-- The number with a bit pattern. -/
def ofBits (fmt : Format) (bits : Nat) : Floating fmt :=
  let n := bits % twoPow (fmt.width - 1)
  -- what is above infinity is a NaN, of either sign
  if h : n ≤ fmt.infinity then .number (bits / twoPow (fmt.width - 1) % 2 == 1) n h else .nan

end Floating

end ScalarServer
