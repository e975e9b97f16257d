import ScalarServer.Text.Split
import ScalarServer.Url.Percent

/-!
# Paths of URLs

A path is a list of segments. Reading one escapes what a path cannot hold and resolves the
segments `.` and `..`, also where their dots are escaped. A `..` takes away the segment before it,
but never a drive letter such as `C:`.
-/

namespace ScalarServer.Url

open Text

/-- How a dot may be written in a segment that is made of dots only. -/
def dots? : List Char → Option Nat
  | [] => some 0
  | '.' :: cs => (dots? cs).map (· + 1)
  | '%' :: '2' :: 'e' :: cs => (dots? cs).map (· + 1)
  | '%' :: '2' :: 'E' :: cs => (dots? cs).map (· + 1)
  | _ => none

/-- Whether a segment is a drive letter: a letter and a colon or bar. -/
def isDriveLetter : List Char → Bool
  | [letter, mark] => letter.isAlpha && (mark == ':' || mark == '|')
  | _ => false

/-- Takes the last of some finished segments away, unless it is a drive letter. The segments are
listed from the last one back. -/
def dropSegment : List (List Char) → List (List Char)
  | [] => []
  | segment :: segments => if isDriveLetter segment then segment :: segments else segments

/-- Resolves the dots in some segments, after finished segments listed from the last one back. A
path that ends in dots ends in a slash. -/
def resolveDots (finished : List (List Char)) : List (List Char) → List (List Char)
  | [] => finished.reverse
  | [last] =>
    match dots? last with
    | some 1 => ([] :: finished).reverse
    | some 2 => ([] :: dropSegment finished).reverse
    | _ => (last :: finished).reverse
  | segment :: segments =>
    match dots? segment with
    | some 1 => resolveDots finished segments
    | some 2 => resolveDots (dropSegment finished) segments
    | _ => resolveDots (segment :: finished) segments

/-- The path that a text gives after the host, which begins with a slash unless it is empty. -/
def pathText (cs : List Char) : List Char :=
  match cs with
  | [] => []
  | c :: rest =>
    let body := if c = '/' then rest else c :: rest
    let segments := (splitAll '/' body).map (percentEncode isPathEscaped)
    (resolveDots [] segments).flatMap ('/' :: ·)

end ScalarServer.Url
