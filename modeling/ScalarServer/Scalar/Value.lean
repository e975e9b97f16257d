import ScalarServer.Floating.Text
import ScalarServer.Scalar.Type

/-!
# Scalar values

A value carries its type: an integer knows its width, and its type guarantees that it fits.
-/

namespace ScalarServer

/-- A value of a scalar type. -/
inductive Value where
  /-- A truth value. -/
  | boolean (b : Bool)
  /-- An integer that fits its type. -/
  | integer (kind : IntegerType) (n : Int) (fits : kind.Holds n)
  /-- A single-precision number. -/
  | float (x : Binary32)
  /-- A double-precision number. -/
  | double (x : Binary64)
  /-- A text. -/
  | string (s : String)
deriving DecidableEq

namespace Value

/-- The type of a value. -/
def type : Value → ScalarType
  | .boolean _ => .boolean
  | .integer kind _ _ => .integer kind
  | .float _ => .float
  | .double _ => .double
  | .string _ => .string

/-- The value of an integer type congruent to an integer. -/
def wrapped (kind : IntegerType) (n : Int) : Value :=
  .integer kind (kind.wrap n) (kind.holds_wrap n)

/-- The value of an integer type that is an integer, if it fits. -/
def ofInt? (kind : IntegerType) (n : Int) : Option Value :=
  if h : kind.Holds n then some (.integer kind n h) else none

/-- Equality of values as clients see it: of one type, and of the same quantity, so that NaN
equals nothing and the two zeros are equal. -/
def agrees : Value → Value → Bool
  | .boolean a, .boolean b => a == b
  | .integer k m _, .integer k' n _ => k == k' && m == n
  | .float x, .float y => x.sameQuantity y
  | .double x, .double y => x.sameQuantity y
  | .string a, .string b => a == b
  | _, _ => false

/-- The text of a truth value. -/
def boolText (b : Bool) : String :=
  if b then "true" else "false"

/-- The plain text of a value. -/
def text : Value → String
  | .boolean b => boolText b
  | .integer _ n _ => .ofList (Text.integerText n)
  | .float x => .ofList x.text
  | .double x => .ofList x.text
  | .string s => s

end Value

end ScalarServer
