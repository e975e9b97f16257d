import ScalarServer.Json.Literal
import ScalarServer.Text.Split

/-!
# JSON documents

A document is what a text says, read from left to right as far as it is JSON. Where it stops
being JSON the document has a break, and nothing after it. A reader of documents that goes from
left to right therefore meets the first fault of a text first, whether it is a fault of the text
or one of its content.

Some faults count only when the value is used: a string with half a surrogate pair, and a number
that overflows. Such a leaf is there, without a value.

Main definitions: `Document`, `Document.ofText`, and `Json.document`, the document of a value.
-/

namespace ScalarServer.Json

open Text

/-- What a text says, up to its first break. -/
inductive Document where
  /-- `null`. -/
  | null
  /-- `true` or `false`. -/
  | bool (b : Bool)
  /-- A number, with a value unless it overflows. -/
  | number (n : Option Number)
  /-- A string, with a value unless its surrogates are unpaired. -/
  | string (s : Option String)
  /-- An array. If it is not closed, a break follows the items. -/
  | array (items : List Document) (closed : Bool)
  /-- An object. If it is not closed, a break follows the members. -/
  | object (members : List (Option String × Document)) (closed : Bool)
  /-- An object that breaks at once, because this stands in the place of its first key. -/
  | keyless (found : Document)
  /-- Not JSON. -/
  | broken

/-- A text without the blanks that JSON allows between tokens. -/
def skipBlanks (cs : List Char) : List Char :=
  cs.dropWhile fun c => c == ' ' || c == '\t' || c == '\n' || c == '\r'

/-- The digits that must follow a point or an exponent mark. -/
def requiredDigits? (cs : List Char) : Option (List Char × List Char) :=
  match takeDigits cs with
  | ([], _) => none
  | found => some found

/-- The part of a number literal after the whole digits, and the rest of the text. -/
def fractionPart? : List Char → Option (Option (List Char) × List Char)
  | '.' :: cs => (requiredDigits? cs).map fun (ds, rest) => (some ds, rest)
  | cs => some (none, cs)

/-- The exponent of a number literal, and the rest of the text. -/
def exponentPart? : List Char → Option (Option (Bool × List Char) × List Char)
  | c :: cs =>
    if c = 'e' ∨ c = 'E' then
      let (negative, digits) := match cs with
        | '-' :: ds => (true, ds)
        | '+' :: ds => (false, ds)
        | ds => (false, ds)
      (requiredDigits? digits).map fun (ds, rest) => (some (negative, ds), rest)
    else some (none, c :: cs)
  | [] => some (none, [])

/-- A number literal at the start of a text, and the rest. A leading zero stands alone. -/
def numberLiteral? (cs : List Char) : Option (NumberLiteral × List Char) := do
  let (negative, body) := match cs with
    | '-' :: rest => (true, rest)
    | rest => (false, rest)
  let (whole, afterWhole) ← requiredDigits? body
  if whole.head? = some '0' ∧ whole.length ≠ 1 then none
  let (fraction, afterFraction) ← fractionPart? afterWhole
  let (exponent, rest) ← exponentPart? afterFraction
  return (⟨negative, whole, fraction, exponent⟩, rest)

/-- Four hexadecimal digits at the start of a text, as a number, and the rest. -/
def fourHex? : List Char → Option (Nat × List Char)
  | a :: b :: c :: d :: rest => do
    let a ← hexValue? a
    let b ← hexValue? b
    let c ← hexValue? c
    let d ← hexValue? d
    return (((a * 16 + b) * 16 + c) * 16 + d, rest)
  | _ => none

/-- The character after a backslash, for the escapes of one letter. -/
def simpleEscape? (c : Char) : Option Char :=
  if c = '"' then some '"'
  else if c = '\\' then some '\\'
  else if c = '/' then some '/'
  else if c = 'b' then some '\x08'
  else if c = 'f' then some '\x0c'
  else if c = 'n' then some '\n'
  else if c = 'r' then some '\r'
  else if c = 't' then some '\t'
  else none

/-- The second half of a surrogate pair at the start of a text, and the rest. -/
def trailingSurrogate? : List Char → Option (Nat × List Char)
  | '\\' :: 'u' :: cs => do
    let (n, rest) ← fourHex? cs
    if 0xdc00 ≤ n ∧ n ≤ 0xdfff then some (n, rest) else none
  | _ => none

/-- The inside of a string up to its closing quote, and the rest of the text. The characters are
absent if a surrogate stands alone. Each step takes at least one character, so the length of the
text bounds the number of steps. -/
def stringBody? : Nat → List Char → Option (Option (List Char) × List Char)
  | 0, _ => none
  | _ + 1, [] => none
  | fuel + 1, '\\' :: 'u' :: cs => do
    let (n, rest) ← fourHex? cs
    if 0xd800 ≤ n ∧ n ≤ 0xdbff then
      -- half a pair leaves the string without a value, but its other escapes must still be right
      match trailingSurrogate? rest with
      | some (m, rest) =>
        let (tail, rest) ← stringBody? fuel rest
        return (tail.map (Char.ofNat (0x10000 + (n - 0xd800) * 0x400 + (m - 0xdc00)) :: ·), rest)
      | none =>
        let (_, rest) ← stringBody? fuel rest
        return (none, rest)
    else if 0xdc00 ≤ n ∧ n ≤ 0xdfff then
      let (_, rest) ← stringBody? fuel rest
      return (none, rest)
    else
      let (tail, rest) ← stringBody? fuel rest
      return (tail.map (Char.ofNat n :: ·), rest)
  | fuel + 1, '\\' :: c :: cs => do
    let c ← simpleEscape? c
    let (tail, rest) ← stringBody? fuel cs
    return (tail.map (c :: ·), rest)
  | fuel + 1, c :: cs =>
    if c = '"' then some (some [], cs)
    else if c = '\\' ∨ c.toNat < 0x20 then none
    else (stringBody? fuel cs).map fun (tail, rest) => (tail.map (c :: ·), rest)

/-- A string after its opening quote, and the rest of the text. -/
def stringRest? (cs : List Char) : Option (Option String × List Char) :=
  (stringBody? (cs.length + 1) cs).map fun (s, rest) => (s.map String.ofList, rest)

/-- A word at the start of a text, as a given document, and the rest. -/
def word (spelling : String) (d : Document) (cs : List Char) : Document × List Char :=
  match afterStart spelling.toList cs with
  | some rest => (d, rest)
  | none => (.broken, [])

mutual

/-- The value at the start of a text, and the rest. Every call is for a text that is shorter than
the one before, or for the same text in another role, so three steps a character are enough. -/
def value : Nat → List Char → Document × List Char
  | 0, _ => (.broken, [])
  | fuel + 1, cs =>
    match skipBlanks cs with
    | [] => (.broken, [])
    | c :: rest =>
      if c = 'n' then word "null" .null (c :: rest)
      else if c = 't' then word "true" (.bool true) (c :: rest)
      else if c = 'f' then word "false" (.bool false) (c :: rest)
      else if c = '"' then
        match stringRest? rest with
        | some (s, rest) => (.string s, rest)
        | none => (.broken, [])
      else if c = '[' then
        match skipBlanks rest with
        | ']' :: rest => (.array [] true, rest)
        | rest =>
          let (items, closed, rest) := itemsOf fuel rest
          (.array items closed, rest)
      else if c = '\x7b' then
        match skipBlanks rest with
        | '\x7d' :: rest => (.object [] true, rest)
        | '"' :: rest =>
          let (members, closed, rest) := membersOf fuel rest
          (.object members closed, rest)
        -- a reader that wants a name here says what it finds instead
        | rest => (.keyless (value fuel rest).1, [])
      else match numberLiteral? (c :: rest) with
        | some (literal, rest) => (.number literal.value?, rest)
        | none => (.broken, [])

/-- The items of an array from one of them on, whether the array is closed, and the rest. -/
def itemsOf : Nat → List Char → List Document × Bool × List Char
  | 0, _ => ([], false, [])
  | fuel + 1, cs =>
    let (item, rest) := value fuel cs
    match skipBlanks rest with
    | ']' :: rest => ([item], true, rest)
    | ',' :: rest =>
      let (items, closed, rest) := itemsOf fuel rest
      (item :: items, closed, rest)
    | _ => ([item], false, [])

/-- The members of an object from the inside of a key on, whether the object is closed, and the
rest. -/
def membersOf : Nat → List Char → List (Option String × Document) × Bool × List Char
  | 0, _ => ([], false, [])
  | fuel + 1, cs =>
    match stringRest? cs with
    | none => ([], false, [])
    | some (key, afterKey) =>
      match skipBlanks afterKey with
      | ':' :: rest =>
        let (item, rest) := value fuel rest
        match skipBlanks rest with
        | '\x7d' :: rest => ([(key, item)], true, rest)
        | ',' :: rest =>
          match skipBlanks rest with
          | '"' :: rest =>
            let (members, closed, rest) := membersOf fuel rest
            ((key, item) :: members, closed, rest)
          | _ => ([(key, item)], false, [])
        | _ => ([(key, item)], false, [])
      | _ => ([(key, .broken)], false, [])

end

/-- The document that a text starts with, and the text after it. -/
def Document.ofText (cs : List Char) : Document × List Char :=
  value (3 * cs.length + 3) cs

mutual

/-- The document that says a value. -/
def document : Json → Document
  | .null => .null
  | .bool b => .bool b
  | .number n => .number (some n)
  | .string s => .string (some s)
  | .array items => .array (documents items) true
  | .object fields => .object (memberDocuments fields) true

/-- The documents of the items of an array. -/
def documents : List Json → List Document
  | [] => []
  | item :: items => item.document :: documents items

/-- The members of the document of an object. -/
def memberDocuments : List (String × Json) → List (Option String × Document)
  | [] => []
  | (key, value) :: fields => (some key, value.document) :: memberDocuments fields

end

end ScalarServer.Json
