import ScalarServer.Json.Document
import ScalarServer.Json.Render
import ScalarServer.Text.Quoted

/-!
# Reading documents as data

A decoder reads a document as a value of some type and reports the first fault that it meets: the
break where the text stops being JSON, or content of the wrong shape, for which there is a
message.

Records are read from objects by the names of their fields, or from arrays by their order.
Unknown members are passed over, a field that comes twice is a fault, and a field may have a
default. The reader of a record is described by a list of `RecordField`s over a type that collects
what has been read so far.

Main definitions:

* `Problem`, the two causes for which a document cannot be read;
* `Document.toText`, `toBool`, `toWord16`, `toList`, `toChoice` and `toRecord`, the decoders;
* `Document.toValue`, which reads any JSON value up to a depth;
* `decodeText`, which decodes a whole text.
-/

namespace ScalarServer.Json

/-- Why a document cannot be read. -/
inductive Problem where
  /-- The text is not JSON. -/
  | malformed
  /-- The content does not fit. -/
  | content (message : String)
deriving DecidableEq, Repr

/-- The text that describes a problem. -/
def Problem.message : Problem → String
  | .malformed => "<json syntax error>"
  | .content message => message

/-- How messages name the content of a document; a problem if there is no content to name. -/
def Document.description : Document → Except Problem String
  | .null => .ok "null"
  | .bool true => .ok "boolean `true`"
  | .bool false => .ok "boolean `false`"
  | .number (some (.integer n _)) => .ok ("integer `" ++ toString n ++ "`")
  | .number (some (.real x _)) => .ok ("floating point `" ++ String.ofList (realText x) ++ "`")
  | .string (some s) => .ok ("string " ++ Text.quote s)
  | .array _ _ => .ok "sequence"
  | .object _ _ => .ok "map"
  | .keyless _ => .ok "map"
  | .number none => .error .malformed
  | .string none => .error .malformed
  | .broken => .error .malformed

/-- The problem of a document of the wrong type. -/
def Document.wrongType {α : Type} (d : Document) (expected : String) : Except Problem α := do
  let found ← d.description
  .error (.content ("invalid type: " ++ found ++ ", expected " ++ expected))

/-- Reads a string. -/
def Document.toText (d : Document) : Except Problem String :=
  match d with
  | .string (some s) => .ok s
  | d => d.wrongType "a string"

/-- Reads a truth value. -/
def Document.toBool (d : Document) : Except Problem Bool :=
  match d with
  | .bool b => .ok b
  | d => d.wrongType "a boolean"

/-- Reads an integer of sixteen bits without sign. -/
def Document.toWord16 (d : Document) : Except Problem UInt16 :=
  match d with
  | .number (some (.integer n _)) =>
    if 0 ≤ n ∧ n < 65536 then .ok (UInt16.ofNat n.toNat)
    else .error (.content ("invalid value: integer `" ++ toString n ++ "`, expected u16"))
  | d => d.wrongType "u16"

mutual

/-- Passes over a document; only a break is a problem. -/
def Document.skip : Document → Except Problem Unit
  | .array items closed => do
    skipItems items
    if closed then .ok () else .error .malformed
  | .object members closed => do
    skipMembers members
    if closed then .ok () else .error .malformed
  | .keyless _ => .error .malformed
  | .broken => .error .malformed
  | .null => .ok ()
  | .bool _ => .ok ()
  | .number _ => .ok ()
  | .string _ => .ok ()

/-- Passes over the items of an array. -/
def skipItems : List Document → Except Problem Unit
  | [] => .ok ()
  | item :: items => do
    item.skip
    skipItems items

/-- Passes over the members of an object. -/
def skipMembers : List (Option String × Document) → Except Problem Unit
  | [] => .ok ()
  | (_, value) :: members => do
    value.skip
    skipMembers members

end

mutual

/-- Reads any value. There must be room for as many arrays and objects as it nests. -/
def Document.toValue (room : Nat) : Document → Except Problem Json
  | .null => .ok .null
  | .bool b => .ok (.bool b)
  | .number (some n) => .ok (.number n)
  | .number none => .error .malformed
  | .string (some s) => .ok (.string s)
  | .string none => .error .malformed
  | .array items closed =>
    match room with
    | 0 => .error .malformed
    | room + 1 => do
      let items ← toValues room items
      if closed then .ok (.array items) else .error .malformed
  | .object members closed =>
    match room with
    | 0 => .error .malformed
    | room + 1 => do
      let fields ← toFields room members
      if closed then .ok (ofFields fields) else .error .malformed
  | .keyless _ => .error .malformed
  | .broken => .error .malformed

/-- Reads the items of an array. -/
def toValues (room : Nat) : List Document → Except Problem (List Json)
  | [] => .ok []
  | item :: items => do
    let item ← item.toValue room
    let items ← toValues room items
    .ok (item :: items)

/-- Reads the members of an object. -/
def toFields (room : Nat) :
    List (Option String × Document) → Except Problem (List (String × Json))
  | [] => .ok []
  | (none, _) :: _ => .error .malformed
  | (some key, value) :: members => do
    let value ← value.toValue room
    let fields ← toFields room members
    .ok ((key, value) :: fields)

end

/-- Reads a list with a reader for its items. -/
def Document.toList {α : Type} (read : Document → Except Problem α) (d : Document) :
    Except Problem (List α) :=
  match d with
  | .array items closed => do
    let values ← items.mapM read
    if closed then .ok values else .error .malformed
  | d => d.wrongType "a sequence"

/-- The names in a message that offers two choices. -/
def choices (names : List String) : String :=
  " or ".intercalate (names.map fun name => "`" ++ name ++ "`")

/-- The choice with a name. -/
def chooseNamed {α : Type} (options : List (String × α)) (name : String) : Except Problem α :=
  match options.find? (·.1 == name) with
  | some (_, a) => .ok a
  | none => .error (.content
      ("unknown variant `" ++ name ++ "`, expected " ++ choices (options.map (·.1))))

/-- Reads one of some named choices: its name, or an object with the name as the only key and
nothing under it. -/
def Document.toChoice {α : Type} (options : List (String × α)) (d : Document) :
    Except Problem α :=
  match d with
  | .string (some name) => chooseNamed options name
  | .object ((some name, value) :: rest) closed => do
    -- the name is looked at before the text behind it
    let choice ← chooseNamed options name
    match value with
    | .null => if rest.isEmpty && closed then .ok choice else .error .malformed
    | value => value.wrongType "unit"
  | .keyless found => found.wrongType "variant identifier"
  | _ => .error .malformed

/-- One field of a record that is read into a collection of type `ρ`. -/
structure RecordField (ρ : Type) where
  /-- The name of the field. -/
  name : String
  /-- Whether the collection has the field. -/
  present : ρ → Bool
  /-- Reads the field into the collection. -/
  read : Document → ρ → Except Problem ρ
  /-- Whether the field may be absent. -/
  hasDefault : Bool

/-- A field that may be absent. -/
def RecordField.optional {ρ α : Type} (name : String) (get : ρ → Option α)
    (read : Document → Except Problem α) (put : α → ρ → ρ) : RecordField ρ where
  name := name
  present := fun r => (get r).isSome
  read := fun d r => (read d).map fun a => put a r
  hasDefault := true

/-- A field that must be there. -/
def RecordField.required {ρ α : Type} (name : String) (get : ρ → Option α)
    (read : Document → Except Problem α) (put : α → ρ → ρ) : RecordField ρ :=
  { RecordField.optional name get read put with hasDefault := false }

/-- Reads the members of an object into a collection. -/
def readMembers {ρ : Type} (fields : List (RecordField ρ)) :
    List (Option String × Document) → ρ → Except Problem ρ
  | [], collected => .ok collected
  | (none, _) :: _, _ => .error .malformed
  | (some key, value) :: members, collected =>
    match fields.find? (·.name == key) with
    | none => do
      value.skip
      readMembers fields members collected
    | some field =>
      if field.present collected then
        .error (.content ("duplicate field `" ++ key ++ "`"))
      else do
        let collected ← field.read value collected
        readMembers fields members collected

/-- Reads the items of an array into a collection, one for each field. The result is the number
of fields that were found and the items beyond them. -/
def readItems {ρ : Type} : List (RecordField ρ) → List Document → ρ →
    Except Problem (ρ × Nat × List Document)
  | [], items, collected => .ok (collected, 0, items)
  | _ :: _, [], collected => .ok (collected, 0, [])
  | field :: fields, item :: items, collected => do
    let collected ← field.read item collected
    let (collected, found, rest) ← readItems fields items collected
    .ok (collected, found + 1, rest)

/-- Reads a record with a name, from an empty collection. The fields without a default are
present in the result. -/
def Document.toRecord {ρ : Type} (name : String) (fields : List (RecordField ρ)) (empty : ρ)
    (d : Document) : Except Problem ρ :=
  match d with
  | .object members closed => do
    let collected ← readMembers fields members empty
    -- that a field is missing is clear only at the end of the object
    if !closed then .error .malformed
    else match fields.find? fun field => !field.hasDefault && !field.present collected with
      | some field => .error (.content ("missing field `" ++ field.name ++ "`"))
      | none => .ok collected
  | .keyless _ => .error .malformed
  | .array items closed => do
    let (collected, found, rest) ← readItems fields items empty
    -- superfluous items are a fault of the text, missing ones a fault of the content
    if !closed || !rest.isEmpty then .error .malformed
    else if (fields.drop found).any fun field => !field.hasDefault then
      .error (.content ("invalid length " ++ toString found ++ ", expected struct " ++ name ++
        " with " ++ toString fields.length ++ " elements"))
    else .ok collected
  | d => d.wrongType ("struct " ++ name)

/-- How many arrays and objects a text may nest. -/
def nestingLimit : Nat :=
  127

/-- Reads a whole text: a document and blanks. -/
def decodeText {α : Type} (read : Document → Except Problem α) (cs : List Char) :
    Except Problem α := do
  let (d, rest) := Document.ofText cs
  let a ← read d
  if (skipBlanks rest).isEmpty then .ok a else .error .malformed

end ScalarServer.Json
