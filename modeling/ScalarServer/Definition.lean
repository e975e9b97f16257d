import ScalarServer.Json.Decode
import ScalarServer.Scalar.Conversion

/-!
# Variable definitions

What a configuration says about a variable: its name, its type and its first value.
-/

namespace ScalarServer

/-- A variable to be created. -/
structure VariableDefinition where
  /-- The name of the variable, and of its node. -/
  name : String
  /-- The value that the variable starts with. -/
  value : Value
  /-- The type that the variable keeps. -/
  type : ScalarType
deriving DecidableEq

/-- Whether a name can stand in the path of a node: it is not empty and has neither separator. -/
def isPathSegment (name : String) : Bool :=
  !name.isEmpty && !name.toList.contains '/' && !name.toList.contains ';'

namespace VariableDefinition

/-- Checks that the name can stand in a path and that the value has the type. -/
def validate (d : VariableDefinition) : Except Error Unit :=
  if !isPathSegment d.name then
    .error (.invalidDefinition ("display name " ++ Text.quote d.name ++
      " must be non-empty and free of '/' and ';'"))
  else if d.value.type ≠ d.type then .error (.typeMismatch d.type d.value.type.name)
  else .ok ()

/-- The JSON form of a definition. -/
def toJson (d : VariableDefinition) : Json :=
  .ofFields [("name", .string d.name), ("value", d.value.toJson), ("type", .string d.type.name)]

end VariableDefinition

/-- Reads the name of a type. -/
def ScalarType.ofDocument (d : Json.Document) : Except Json.Problem ScalarType := do
  let tag ← d.toText
  match ofTag tag with
  | .ok t => .ok t
  | .error e => .error (.content e.message)

namespace VariableDefinition

open Json (Document Problem RecordField)

/-- What has been read of a definition. -/
structure Partial where
  /-- The name. -/
  name : Option String
  /-- The value, before its type is known. -/
  value : Option Json
  /-- The type. -/
  type : Option ScalarType

/-- The fields of a definition, where a value may nest so deep. -/
def fields (room : Nat) : List (RecordField Partial) :=
  [RecordField.required "name" (·.name) Document.toText
     fun s p => { p with name := some s },
   RecordField.required "value" (·.value) (Document.toValue room)
     fun v p => { p with value := some v },
   RecordField.required "type" (·.type) ScalarType.ofDocument
     fun t p => { p with type := some t }]

/-- Reads a definition; the value must be of the type that the definition names. -/
def ofDocument (room : Nat) (d : Document) : Except Problem VariableDefinition := do
  let read ← d.toRecord "RawDefinition" (fields (room - 1)) ⟨none, none, none⟩
  match read with
  | ⟨some name, some json, some type⟩ =>
    match Value.ofJson json type with
    | .ok value => .ok ⟨name, value, type⟩
    | .error e => .error (.content e.message)
  -- cannot be: the three fields are required
  | _ => .error .malformed

/-- One variable of each type. -/
def defaults : List VariableDefinition :=
  [⟨"LlTestBoolean", .boolean true, .boolean⟩,
   ⟨"LlTestSByte", .integer .sbyte 127 (by decide), .integer .sbyte⟩,
   ⟨"LlTestByte", .integer .byte 244 (by decide), .integer .byte⟩,
   ⟨"LlTestInt16", .integer .int16 16 (by decide), .integer .int16⟩,
   ⟨"LlTestUInt16", .integer .uint16 16 (by decide), .integer .uint16⟩,
   ⟨"LlTestInt32", .integer .int32 32 (by decide), .integer .int32⟩,
   ⟨"LlTestUInt32", .integer .uint32 32 (by decide), .integer .uint32⟩,
   ⟨"LlTestInt64", .integer .int64 64 (by decide), .integer .int64⟩,
   ⟨"LlTestUInt64", .integer .uint64 64 (by decide), .integer .uint64⟩,
   ⟨"LlTestFloat", .float (.ofRatio .binary32 false 31415 10000), .float⟩,
   ⟨"LlTestDouble", .double (.ofRatio .binary64 false 27182 10000), .double⟩,
   ⟨"LlTestString", .string "Lablink", .string⟩]

end VariableDefinition

end ScalarServer
