import ScalarServer.Decimal.Shortest

/-!
# Floating-point numbers as plain text

The text that people see: the shortest decimal that reads back, written positionally whatever its
size, without a point where there is no fraction.
-/

namespace ScalarServer.Floating

variable {fmt : Format}

/-- The plain text of a number. -/
def text : Floating fmt → List Char
  | .nan => "NaN".toList
  | .number negative n _ =>
    let magnitude :=
      if n = fmt.infinity then "inf".toList
      else (Decimal.shortest fmt .up n).positional
    if negative then '-' :: magnitude else magnitude

end ScalarServer.Floating
