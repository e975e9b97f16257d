import ScalarServer.Power
import ScalarServer.Text.Digits
import ScalarServer.Text.Split

/-!
# IPv4 addresses as hosts

A host whose last part is a number is an address: up to four numbers with dots between them, of
which the last one fills all the bytes that the others leave. One dot at the end does not count. A
number is decimal, octal after a leading `0`, or hexadecimal after `0x`.
-/

namespace ScalarServer.Url.Ipv4

open Text

/-- The number that digits of a base write; no digits write zero. -/
def ofBase? (base : Nat) (cs : List Char) : Option Nat := do
  let digits ← cs.mapM hexValue?
  if digits.all (· < base) then some (digits.foldl (fun n d => base * n + d) 0) else none

/-- One number of an address. -/
def number? : List Char → Option Nat
  | [] => none
  | '0' :: 'x' :: digits => ofBase? 16 digits
  | '0' :: 'X' :: digits => ofBase? 16 digits
  | '0' :: digit :: digits => ofBase? 8 (digit :: digits)
  | digits => ofBase? 10 digits

/-- The parts of a host between its dots, without an empty one at the end. -/
def parts (cs : List Char) : List (List Char) :=
  let pieces := splitAll '.' cs
  if pieces.getLast? = some [] then pieces.dropLast else pieces

/-- Whether a host is meant as an address. -/
def isMeant (cs : List Char) : Bool :=
  match (parts cs).getLast? with
  | none => false
  | some part => (part != [] && part.all Char.isDigit) || (number? part).isSome

/-- The address that a host writes, as a number of 32 bits. -/
def ofText? (cs : List Char) : Option Nat := do
  let numbers ← (parts cs).mapM number?
  let last ← numbers.getLast?
  let front := numbers.dropLast
  let room := twoPow (8 * (4 - front.length))
  if 3 < front.length ∨ front.any (255 < ·) ∨ room ≤ last then none
  else some (front.foldl (fun n byte => 256 * n + byte) 0 * room + last)

/-- The form in which an address is shown: its four bytes in decimal. -/
def text (address : Nat) : List Char :=
  digitsOf (address / 16777216) ++ '.' :: (digitsOf (address / 65536 % 256) ++
    '.' :: (digitsOf (address / 256 % 256) ++ '.' :: digitsOf (address % 256)))

end ScalarServer.Url.Ipv4
