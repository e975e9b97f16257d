import ScalarServer.Decimal.Shortest
import ScalarServer.Json.Basic

/-!
# JSON as compact text

Values are written without blanks. A real is written by its shortest decimal: positionally, always
with a fraction, from `0.00001` up to sixteen digits before the point, and otherwise
scientifically. Strings escape what the format requires and nothing else.
-/

namespace ScalarServer.Json

open Text
open Floating (Format)

/-- The text of a finite double. -/
def realText : Binary64 → List Char
  | .nan => "null".toList
  | .number negative n _ =>
    let d := Decimal.shortest .binary64 .even n
    let x := d.scientificExponent
    let magnitude :=
      if -5 ≤ x ∧ x ≤ 15 then d.positionalWithPoint else d.scientific
    if negative then '-' :: magnitude else magnitude

/-- The text of a number. -/
def Number.text : Number → List Char
  | .integer n _ => integerText n
  | .real x _ => realText x

/-- One character inside a JSON string. -/
def escapedChar (c : Char) : List Char :=
  if c = '"' then ['\\', '"']
  else if c = '\\' then ['\\', '\\']
  else if c = '\x08' then ['\\', 'b']
  else if c = '\x0c' then ['\\', 'f']
  else if c = '\n' then ['\\', 'n']
  else if c = '\r' then ['\\', 'r']
  else if c = '\t' then ['\\', 't']
  else if c.toNat < 0x20 then '\\' :: 'u' :: hexPadded 4 c.toNat
  else [c]

/-- A string in quotes. -/
def stringText (s : String) : List Char :=
  '"' :: (s.toList.flatMap escapedChar ++ ['"'])

/-- Texts with commas between them. -/
def joinComma : List (List Char) → List Char
  | [] => []
  | [t] => t
  | t :: ts => t ++ ',' :: joinComma ts

mutual

/-- The text of a value. -/
def text : Json → List Char
  | .null => "null".toList
  | .bool true => "true".toList
  | .bool false => "false".toList
  | .number n => n.text
  | .string s => stringText s
  | .array items => '[' :: (joinComma (itemTexts items) ++ [']'])
  | .object fields => '\x7b' :: (joinComma (fieldTexts fields) ++ ['\x7d'])

/-- The texts of the items of an array. -/
def itemTexts : List Json → List (List Char)
  | [] => []
  | item :: items => item.text :: itemTexts items

/-- The texts of the fields of an object. -/
def fieldTexts : List (String × Json) → List (List Char)
  | [] => []
  | (key, value) :: fields => (stringText key ++ ':' :: value.text) :: fieldTexts fields

end

/-- The text of a value as a string. -/
def render (j : Json) : String :=
  .ofList j.text

end ScalarServer.Json
