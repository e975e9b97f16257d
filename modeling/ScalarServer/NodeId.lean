import ScalarServer.Error
import ScalarServer.Text.Split

/-!
# Node identifiers

A node is identified by the index of a namespace and a text. The text of a variable or folder is
the path of the folder it is in, a slash, and its name. Written out, an identifier reads
`ns=2;s=Plant/Line1/Speed;`, and the last semicolon may be left out when reading.
-/

namespace ScalarServer

open Text

/-- The identifier of a node. -/
structure NodeId where
  /-- The index of the namespace. -/
  namespaceIndex : UInt16
  /-- The text within the namespace. -/
  identifier : String
deriving DecidableEq

namespace NodeId

/-- The identifier of something with a name in a folder. Slashes around the path of the folder do
not count, and at the top there is no path. -/
def inFolder (namespaceIndex : UInt16) (folderPath name : String) : NodeId :=
  let path := strip (· == '/') folderPath.toList
  if path = [] then ⟨namespaceIndex, name⟩
  else ⟨namespaceIndex, .ofList (path ++ '/' :: name.toList)⟩

/-- What stands after the last slash of the identifier. -/
def name (id : NodeId) : String :=
  .ofList (afterLast '/' id.identifier.toList)

/-- The written form. -/
def text (id : NodeId) : String :=
  "ns=" ++ toString id.namespaceIndex.toNat ++ ";s=" ++ id.identifier ++ ";"

/-- The namespace index that a text writes: digits, with a plus sign or none, below 65536. -/
def indexOfText? (cs : List Char) : Option UInt16 :=
  let digits := match cs with
    | '+' :: ds => ds
    | ds => ds
  if digits = [] ∨ !digits.all Char.isDigit then none
  else
    let n := ofDigits digits
    if n < 65536 then some (UInt16.ofNat n) else none

/-- A text without the semicolon at its end, if there is one. -/
def withoutFinalSemicolon (cs : List Char) : List Char :=
  if cs.getLast? = some ';' then cs.dropLast else cs

/-- The identifier that a text writes. -/
def ofText? (s : String) : Option NodeId := do
  let (namespacePart, identifierPart) ← splitFirst ';' (withoutFinalSemicolon s.toList)
  let digits ← afterStart "ns=".toList namespacePart
  let index ← indexOfText? digits
  let identifier ← afterStart "s=".toList identifierPart
  if identifier = [] ∨ ';' ∈ identifier then none
  else some ⟨index, .ofList identifier⟩

/-- Reads the written form. -/
def parse (s : String) : Except Error NodeId :=
  match ofText? s with
  | some id => .ok id
  | none => .error (.invalidNodeId s)

/-- The order of identifiers: by namespace, then by the characters of the text. -/
def before (a b : NodeId) : Bool :=
  if a.namespaceIndex = b.namespaceIndex then decide (a.identifier ≤ b.identifier)
  else decide (a.namespaceIndex < b.namespaceIndex)

/-- The distinct identifiers of a list, in order. -/
def sorted (ids : List NodeId) : List NodeId :=
  ids.eraseDups.mergeSort before

end NodeId

end ScalarServer
