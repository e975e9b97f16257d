/-!
# Splitting a text at a separator

`splitAll` cuts at every occurrence of a separator, `splitFirst` at the first one, and
`afterLast` gives what stands behind the last one. The separators themselves belong to no part.
-/

namespace ScalarServer.Text

/-- The parts of a text between the occurrences of a separator; never empty. -/
def splitAll (separator : Char) : List Char → List (List Char)
  | [] => [[]]
  | c :: cs =>
    if c = separator then [] :: splitAll separator cs
    else match splitAll separator cs with
      | [] => [[c]]
      | part :: parts => (c :: part) :: parts

/-- The text before and the text after the first separator, if there is one. -/
def splitFirst (separator : Char) : List Char → Option (List Char × List Char)
  | [] => none
  | c :: cs =>
    if c = separator then some ([], cs)
    else (splitFirst separator cs).map fun (before, after) => (c :: before, after)

/-- The text after the last separator, or the whole text where there is none. -/
def afterLast (separator : Char) (cs : List Char) : List Char :=
  (cs.reverse.takeWhile (· != separator)).reverse

/-- What follows a given beginning of a text, if the text begins so. -/
def afterStart : List Char → List Char → Option (List Char)
  | [], cs => some cs
  | _ :: _, [] => none
  | p :: ps, c :: cs => if p = c then afterStart ps cs else none

/-- A text with a slash at every joint of its parts. -/
def joinSlash : List (List Char) → List Char
  | [] => []
  | [part] => part
  | part :: parts => part ++ '/' :: joinSlash parts

end ScalarServer.Text
