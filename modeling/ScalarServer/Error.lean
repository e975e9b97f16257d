import ScalarServer.Scalar.Type
import ScalarServer.Text.Quoted

/-!
# Errors

Everything that can go wrong, by its cause, with the text that says it.
-/

namespace ScalarServer

/-- A refusal, and what it is about. -/
inductive Error where
  /-- No scalar type is called so. -/
  | unsupportedType (tag : String)
  /-- A value of one type was needed, and something else was found. -/
  | typeMismatch (expected : ScalarType) (found : String)
  /-- A value cannot be converted. -/
  | conversion (value : String) (target : ScalarType)
  /-- A text does not name a node. -/
  | invalidNodeId (text : String)
  /-- A variable cannot be defined so. -/
  | invalidDefinition (reason : String)
  /-- A node with this identifier exists. -/
  | duplicateNode (node : String)
  /-- There is no such node, or not of the kind that was asked for. -/
  | unknownNode (node : String)
  /-- No namespace has this index. -/
  | unknownNamespace (index : UInt16)
  /-- Clients may not write the node. -/
  | notWritable (node : String)
  /-- The client is not who it should be. -/
  | authFailed (reason : String)
  /-- The configuration is of no use. -/
  | config (reason : String)
  /-- The node store refuses. -/
  | backend (reason : String)
  /-- Reading or writing failed. -/
  | io (reason : String)
  /-- A JSON text cannot be read. -/
  | json (reason : String)
deriving DecidableEq

namespace Error

/-- The text of an error. -/
def message : Error → String
  | .unsupportedType tag => "unsupported type tag: " ++ tag
  | .typeMismatch expected found =>
    "type mismatch: expected " ++ expected.name ++ ", found " ++ found
  | .conversion value target => "cannot convert " ++ Text.quote value ++ " to " ++ target.name
  | .invalidNodeId text => "invalid node id: " ++ text
  | .invalidDefinition reason => "invalid variable definition: " ++ reason
  | .duplicateNode node => "duplicate node: " ++ node
  | .unknownNode node => "unknown node: " ++ node
  | .unknownNamespace index => "unknown namespace index: " ++ toString index.toNat
  | .notWritable node => "node is not writable: " ++ node
  | .authFailed reason => "authentication failed: " ++ reason
  | .config reason => "config error: " ++ reason
  | .backend reason => "backend error: " ++ reason
  | .io reason => "io error: " ++ reason
  | .json reason => "json error: " ++ reason

end Error

/-- The type that a tag names. -/
def ScalarType.ofTag (tag : String) : Except Error ScalarType :=
  match named? tag with
  | some t => .ok t
  | none => .error (.unsupportedType tag)

end ScalarServer
