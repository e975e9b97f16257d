/-!
# Base64

Three bytes are written as four characters of an alphabet of sixty-four. A last group of one or
two bytes is filled up with equals signs. Reading accepts exactly what writing produces: padding
must be there, and the bits that a padded group does not use must be zero.
-/

namespace ScalarServer.Http.Base64

/-- The character for six bits. -/
def digit (n : Nat) : Char :=
  if n < 26 then Char.ofNat ('A'.toNat + n)
  else if n < 52 then Char.ofNat ('a'.toNat + (n - 26))
  else if n < 62 then Char.ofNat ('0'.toNat + (n - 52))
  else if n = 62 then '+' else '/'

/-- The six bits of a character. -/
def digitValue? (c : Char) : Option Nat :=
  if 'A' ≤ c ∧ c ≤ 'Z' then some (c.toNat - 'A'.toNat)
  else if 'a' ≤ c ∧ c ≤ 'z' then some (c.toNat - 'a'.toNat + 26)
  else if c.isDigit then some (c.toNat - '0'.toNat + 52)
  else if c = '+' then some 62
  else if c = '/' then some 63
  else none

/-- The written form of some bytes. -/
def encode : List UInt8 → List Char
  | [] => []
  | [a] => [digit (a.toNat / 4), digit (a.toNat % 4 * 16), '=', '=']
  | [a, b] =>
    [digit (a.toNat / 4), digit (a.toNat % 4 * 16 + b.toNat / 16), digit (b.toNat % 16 * 4), '=']
  | a :: b :: c :: rest =>
    digit (a.toNat / 4) :: digit (a.toNat % 4 * 16 + b.toNat / 16) ::
      digit (b.toNat % 16 * 4 + c.toNat / 64) :: digit (c.toNat % 64) :: encode rest

/-- The one byte of a group with two equals signs. -/
def oneByte? (p q : Char) : Option (List UInt8) := do
  let p ← digitValue? p
  let q ← digitValue? q
  if q % 16 = 0 then some [UInt8.ofNat (p * 4 + q / 16)] else none

/-- The two bytes of a group with one equals sign. -/
def twoBytes? (p q r : Char) : Option (List UInt8) := do
  let p ← digitValue? p
  let q ← digitValue? q
  let r ← digitValue? r
  if r % 4 = 0 then
    some [UInt8.ofNat (p * 4 + q / 16), UInt8.ofNat (q % 16 * 16 + r / 4)]
  else none

/-- The three bytes of a full group. -/
def threeBytes? (p q r s : Char) : Option (List UInt8) := do
  let p ← digitValue? p
  let q ← digitValue? q
  let r ← digitValue? r
  let s ← digitValue? s
  some [UInt8.ofNat (p * 4 + q / 16), UInt8.ofNat (q % 16 * 16 + r / 4),
    UInt8.ofNat (r % 4 * 64 + s)]

/-- The bytes that a text is the written form of. -/
def decode? : List Char → Option (List UInt8)
  | [] => some []
  | [p, q, '=', '='] => oneByte? p q
  | [p, q, r, '='] => twoBytes? p q r
  | p :: q :: r :: s :: rest => do
    let group ← threeBytes? p q r s
    let others ← decode? rest
    some (group ++ others)
  | _ => none

end ScalarServer.Http.Base64
