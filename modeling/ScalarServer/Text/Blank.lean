/-!
# Blanks

White space in the sense of the Unicode property `White_Space`, and trimming by it. Zero width
space and byte order mark do not have the property, so they survive trimming.
-/

namespace ScalarServer.Text

/-- Whether a character has the property `White_Space`. -/
def isBlank (c : Char) : Bool :=
  let n := c.toNat
  (0x9 ≤ n && n ≤ 0xd) || n == 0x20 || n == 0x85 || n == 0xa0 || n == 0x1680 ||
    (0x2000 ≤ n && n ≤ 0x200a) || n == 0x2028 || n == 0x2029 || n == 0x202f || n == 0x205f ||
    n == 0x3000

/-- A text without the characters of a kind at its end. -/
def dropEnd (p : Char → Bool) (cs : List Char) : List Char :=
  (cs.reverse.dropWhile p).reverse

/-- A text without the characters of a kind at either end. -/
def strip (p : Char → Bool) (cs : List Char) : List Char :=
  dropEnd p (cs.dropWhile p)

/-- A text without the blanks at either end. -/
def trim (cs : List Char) : List Char :=
  strip isBlank cs

/-- `trim` of a string. -/
def trimmed (s : String) : String :=
  .ofList (trim s.toList)

end ScalarServer.Text
