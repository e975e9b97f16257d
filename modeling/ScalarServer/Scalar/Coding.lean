import ScalarServer.Decimal.Literal
import ScalarServer.Error
import ScalarServer.Json.Render
import ScalarServer.Scalar.Value

/-!
# Scalar values as JSON

Strict coding: a JSON value is a scalar of a type only if it is of the matching JSON kind and
fits. A single-precision number becomes the double that its shortest decimal names, so that it
looks the same in JSON as in plain text; numbers that are not finite become `null`.
-/

namespace ScalarServer.Value

open Floating (Format)

/-- The JSON form of a double. -/
def realJson (x : Binary64) : Json :=
  match Json.Number.ofReal? x with
  | some n => .number n
  | none => .null

/-- An integer of a scalar type fits a JSON number. -/
theorem fits_json {kind : IntegerType} {n : Int} (h : kind.Holds n) :
    Json.Number.Fits n := by
  unfold Json.Number.Fits
  cases kind <;> simp only [IntegerType.Holds, IntegerType.least, IntegerType.size] at h <;> omega

/-- The JSON form of a value. -/
def toJson : Value → Json
  | .boolean b => .bool b
  | .integer _ n h => .number (.integer n (fits_json h))
  | .float x =>
    match Decimal.floatingLiteral? .binary64 x.text with
    | some y => realJson y
    | none => .null
  | .double x => realJson x
  | .string s => .string s

/-- The value of a type that a JSON value is, if it is one. -/
def ofJson? (type : ScalarType) (json : Json) : Option Value :=
  match type, json with
  | .boolean, .bool b => some (.boolean b)
  | .integer kind, .number (.integer n _) => ofInt? kind n
  | .float, .number n => n.toReal.narrow?.map .float
  | .double, .number n => some (.double n.toReal)
  | .string, .string s => some (.string s)
  | _, _ => none

/-- Strict decoding: the value of a type that a JSON value is. -/
def ofJson (json : Json) (type : ScalarType) : Except Error Value :=
  match ofJson? type json with
  | some v => .ok v
  | none => .error (.typeMismatch type json.render)

end ScalarServer.Value
