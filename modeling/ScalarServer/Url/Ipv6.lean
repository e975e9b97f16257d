import ScalarServer.Text.Digits
import ScalarServer.Text.Split

/-!
# IPv6 addresses

An address is eight pieces of sixteen bits, written in hexadecimal with colons between them. Two
colons in a row stand for as many zero pieces as are missing, and the last two pieces may be
written as the four decimal numbers of an IPv4 address. Addresses are shown in one form only: the
first longest run of at least two zero pieces is left out, and the rest is in lower case.
-/

namespace ScalarServer.Url.Ipv6

open Text

/-- A decimal number of an embedded IPv4 address: no leading zero, at most 255. -/
def ipv4Number? (cs : List Char) : Option Nat :=
  if cs = [] ∨ !cs.all Char.isDigit ∨ (cs.head? = some '0' ∧ cs.length ≠ 1) then none
  else
    let n := ofDigits cs
    if n ≤ 255 then some n else none

/-- The two pieces of an embedded IPv4 address. -/
def ipv4Pieces? (cs : List Char) : Option (List Nat) :=
  match (splitAll '.' cs).mapM ipv4Number? with
  | some [a, b, c, d] => some [a * 256 + b, c * 256 + d]
  | _ => none

/-- A piece in hexadecimal: one to four digits. -/
def hexPiece? (cs : List Char) : Option Nat :=
  if cs = [] ∨ 4 < cs.length then none
  else (cs.mapM hexValue?).map (·.foldl (fun n d => 16 * n + d) 0)

/-- The pieces that a text writes with single colons between them; only the last one may be an
embedded IPv4 address. No text means no pieces. -/
def pieces? (cs : List Char) : Option (List Nat) :=
  if cs = [] then some []
  else go (splitAll ':' cs)
where
  /-- The pieces of the parts between colons. -/
  go : List (List Char) → Option (List Nat)
    | [] => some []
    | [last] => if last.contains '.' then ipv4Pieces? last else (hexPiece? last).map ([·])
    | part :: parts => do
      let piece ← hexPiece? part
      let pieces ← go parts
      return piece :: pieces

/-- The text before and after the first double colon. -/
def splitGap : List Char → Option (List Char × List Char)
  | ':' :: ':' :: cs => some ([], cs)
  | [] => none
  | c :: cs => (splitGap cs).map fun (before, after) => (c :: before, after)

/-- The eight pieces of the address that a text writes. A double colon stands for at least one
piece, and an embedded IPv4 address cannot come before it. -/
def ofText? (cs : List Char) : Option (List Nat) :=
  match splitGap cs with
  | none => do
    let pieces ← pieces? cs
    if pieces.length = 8 then some pieces else none
  | some (before, after) => do
    -- no embedded address in front, also where `before` ends in one
    if before.contains '.' then none
    let front ← pieces? before
    let back ← pieces? after
    let missing := 8 - (front.length + back.length)
    if missing = 0 then none else some (front ++ List.replicate missing 0 ++ back)

/-- The length of the run of zeros at the start of a list. -/
def zeroRun (pieces : List Nat) : Nat :=
  (pieces.takeWhile (· == 0)).length

/-- Start and length of the first longest run of zeros, with positions counted from `start`. -/
def longestZeroRun : Nat → List Nat → Nat × Nat
  | start, [] => (start, 0)
  | start, piece :: pieces =>
    let here := zeroRun (piece :: pieces)
    let later := longestZeroRun (start + 1) pieces
    if later.2 ≤ here then (start, here) else later

/-- Pieces in hexadecimal with colons between them. -/
def joinPieces : List Nat → List Char
  | [] => []
  | [piece] => hexDigitsOf piece
  | piece :: pieces => hexDigitsOf piece ++ ':' :: joinPieces pieces

/-- The form in which an address is shown. -/
def text (pieces : List Nat) : List Char :=
  let (start, length) := longestZeroRun 0 pieces
  if length < 2 then joinPieces pieces
  else joinPieces (pieces.take start) ++ ':' :: ':' :: joinPieces (pieces.drop (start + length))

end ScalarServer.Url.Ipv6
