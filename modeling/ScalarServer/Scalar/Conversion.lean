import ScalarServer.Scalar.Coding

/-!
# Lenient conversion between types

Conversion that a client has to ask for. Integers wrap; floating-point numbers lose their
fraction, are clamped to 64 bits and then wrap; a number is true if its integer part is not zero;
a text is read as an integer or, failing that, as a decimal; and everything has a plain text. The
only failures are a text that is no number, and a finite number too large for single precision.
-/

namespace ScalarServer

/-- What a value or a text is, as a number. -/
inductive Quantity where
  /-- An integer. -/
  | integer (n : Int)
  /-- A double. -/
  | real (x : Binary64)

namespace Quantity

/-- The integer part of a quantity, clamped to 64 bits if it is a double. -/
def whole : Quantity → Int
  | .integer n => n
  | .real x => x.truncate

/-- Integers of 128 bits lie below this and not below its negative. -/
def quantityLimit : Int :=
  170141183460469231731687303715884105728

/-- The quantity that a text writes: an integer of 128 bits or a double. -/
def ofText? (s : String) : Option Quantity :=
  let cs := Text.trim s.toList
  match Decimal.integerLiteral? cs with
  | some n =>
    -- longer integers are read as decimals
    if -quantityLimit ≤ n ∧ n < quantityLimit then some (.integer n)
    else (Decimal.floatingLiteral? .binary64 cs).map .real
  | none => (Decimal.floatingLiteral? .binary64 cs).map .real

/-- The quantity of a value that is not a text. -/
def ofValue? : Value → Option Quantity
  | .boolean b => some (.integer (if b then 1 else 0))
  | .integer _ n _ => some (.integer n)
  | .float x => some (.real x.widen)
  | .double x => some (.real x)
  | .string _ => none

/-- The plain text of a quantity. -/
def text : Quantity → String
  | .integer n => .ofList (Text.integerText n)
  | .real x => .ofList x.text

/-- A quantity as a value of a type. -/
def toValue (q : Quantity) (target : ScalarType) : Except Error Value :=
  match target with
  | .boolean => .ok (.boolean (IntegerType.int64.wrap q.whole != 0))
  | .integer kind => .ok (.wrapped kind q.whole)
  | .float =>
    match q with
    | .integer n => .ok (.float (.ofInt .binary32 n))
    | .real x =>
      match x.narrow? with
      | some y => .ok (.float y)
      | none => .error (.conversion q.text target)
  | .double =>
    match q with
    | .integer n => .ok (.double (.ofInt .binary64 n))
    | .real x => .ok (.double x)
  | .string => .ok (.string q.text)

end Quantity

namespace Value

/-- A value as a value of another type. -/
def convert (v : Value) (target : ScalarType) : Except Error Value :=
  if v.type = target then .ok v
  else match target, v with
    | .string, v => .ok (.string v.text)
    | .boolean, .string s =>
      .ok (.boolean (Text.lowercase (Text.trim s.toList) == "true".toList))
    | target, .string s =>
      match Quantity.ofText? s with
      | some q => q.toValue target
      | none => .error (.conversion s target)
    | target, v =>
      match Quantity.ofValue? v with
      | some q => q.toValue target
      | none => .error (.conversion v.text target)

/-- The value that a JSON value is when no type is asked for: the smaller 64-bit type that an
integer fits, with the signed one first. -/
def natural? : Json → Option Value
  | .bool b => some (.boolean b)
  | .string s => some (.string s)
  | .number (.integer n _) => (ofInt? .int64 n).or (ofInt? .uint64 n)
  | .number (.real x _) => some (.double x)
  | .null | .array _ | .object _ => none

/-- Lenient decoding: strictly if that succeeds, otherwise by converting the natural value. -/
def coerceJson (json : Json) (target : ScalarType) : Except Error Value :=
  match ofJson? target json with
  | some v => .ok v
  | none =>
    match natural? json with
    | some v => v.convert target
    | none => .error (.conversion json.render target)

end Value

end ScalarServer
