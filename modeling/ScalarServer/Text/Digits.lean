/-!
# Digits

Decimal and hexadecimal digits of a text: reading runs of them, and writing numbers with the
fewest digits and lower-case letters.
-/

namespace ScalarServer.Text

/-- The value of a decimal digit. -/
def digitValue (c : Char) : Nat :=
  c.toNat - '0'.toNat

/-- The number that a run of decimal digits writes. -/
def ofDigits (digits : List Char) : Nat :=
  digits.foldl (fun n c => 10 * n + digitValue c) 0

/-- The leading run of decimal digits of a text, and the rest. -/
def takeDigits (cs : List Char) : List Char × List Char :=
  (cs.takeWhile Char.isDigit, cs.dropWhile Char.isDigit)

/-- The decimal digits of a number, without leading zeros. -/
def digitsOf (n : Nat) : List Char :=
  Nat.toDigits 10 n

/-- The decimal text of an integer: a minus sign if it is negative, then its digits. -/
def integerText (n : Int) : List Char :=
  if n < 0 then '-' :: digitsOf n.natAbs else digitsOf n.natAbs

/-- The value of a hexadecimal digit in either case. -/
def hexValue? (c : Char) : Option Nat :=
  if c.isDigit then some (c.toNat - '0'.toNat)
  else if 'a' ≤ c ∧ c ≤ 'f' then some (c.toNat - 'a'.toNat + 10)
  else if 'A' ≤ c ∧ c ≤ 'F' then some (c.toNat - 'A'.toNat + 10)
  else none

/-- The hexadecimal digits of a number, in lower case and without leading zeros. -/
def hexDigitsOf (n : Nat) : List Char :=
  Nat.toDigits 16 n

/-- The hexadecimal digits of a number, in lower case, padded with zeros to a width. -/
def hexPadded (width n : Nat) : List Char :=
  let digits := hexDigitsOf n
  List.replicate (width - digits.length) '0' ++ digits

/-- A letter `A` to `Z` in lower case; every other character as it is. -/
def lowerAscii (c : Char) : Char :=
  if 'A' ≤ c ∧ c ≤ 'Z' then Char.ofNat (c.toNat + 32) else c

/-- A text with the letters `A` to `Z` in lower case. -/
def lowercase (cs : List Char) : List Char :=
  cs.map lowerAscii

end ScalarServer.Text
