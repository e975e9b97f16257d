import ScalarServer.Text.Digits

/-!
# Percent encoding

A byte that may not stand in some part of a URL is written as a percent sign and two hexadecimal
digits. Encoding writes upper-case digits; decoding takes either case, and leaves a percent sign
alone that no two digits follow.
-/

namespace ScalarServer.Url

/-- An upper-case hexadecimal digit. -/
def upperHexDigit (n : Nat) : Char :=
  if n < 10 then Char.ofNat ('0'.toNat + n) else Char.ofNat ('A'.toNat + (n - 10))

/-- The bytes of the UTF-8 form of a character. -/
def utf8 (c : Char) : List UInt8 :=
  (String.singleton c).toUTF8.toList

/-- The escape of one byte. -/
def percentByte (b : UInt8) : List Char :=
  ['%', upperHexDigit (b.toNat / 16), upperHexDigit (b.toNat % 16)]

/-- The controls and everything beyond ASCII: what no part of a URL holds as it is. -/
def isControl (c : Char) : Bool :=
  c.toNat < 0x20 || 0x7f ≤ c.toNat

/-- What the path of a URL does not hold as it is. -/
def isPathEscaped (c : Char) : Bool :=
  isControl c || c == ' ' || c == '"' || c == '#' || c == '<' || c == '>' || c == '?' ||
    c.toNat == 0x60 || c == '\x7b' || c == '\x7d'

/-- A text with the escapes of the characters of a kind. -/
def percentEncode (escape : Char → Bool) (cs : List Char) : List Char :=
  cs.flatMap fun c => if escape c then (utf8 c).flatMap percentByte else [c]

/-- The bytes that a text with escapes stands for. -/
def percentDecode : List UInt8 → List UInt8
  | [] => []
  | b :: bytes =>
    match b, bytes with
    | 0x25, high :: low :: rest =>
      match Text.hexValue? (Char.ofNat high.toNat), Text.hexValue? (Char.ofNat low.toNat) with
      | some h, some l => UInt8.ofNat (16 * h + l) :: percentDecode rest
      | _, _ => b :: percentDecode (high :: low :: rest)
    | b, bytes => b :: percentDecode bytes
termination_by bytes => bytes.length

end ScalarServer.Url
