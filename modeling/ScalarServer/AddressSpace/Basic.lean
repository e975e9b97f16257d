import ScalarServer.Definition
import ScalarServer.NodeId

/-!
# The address space

The nodes that clients see: folders, which list their children, and variables, which hold a value
of a fixed type. Nodes are numbered in the order of their creation. The namespaces that node
identifiers refer to are numbered in the order of their registration, and the first one belongs
to the Objects folder, below which everything else is.

The time at which a value was set is a reading of the address space's own clock, which moves with
every value that is set.
-/

namespace ScalarServer

/-- What clients may do with a variable. -/
inductive AccessLevel where
  /-- Read it. -/
  | read
  /-- Read it and write it. -/
  | readWrite
deriving DecidableEq, Repr

/-- The name of an access level. -/
def AccessLevel.name : AccessLevel → String
  | .read => "read"
  | .readWrite => "readwrite"

/-- What a folder holds. -/
structure FolderNode where
  /-- The name in its parent. -/
  name : String
  /-- The names from the Objects folder down, with slashes between them. -/
  path : String
  /-- The nodes in the folder, in the order of their creation. -/
  children : List NodeId
deriving DecidableEq

/-- What a variable holds. -/
structure VariableNode where
  /-- The name. -/
  name : String
  /-- The type of every value of the variable. -/
  type : ScalarType
  /-- The value now. -/
  value : Value
  /-- What clients may do. -/
  access : AccessLevel
  /-- When the value was set. -/
  stamp : Nat
deriving DecidableEq

/-- The kinds of nodes. -/
inductive NodeKind where
  /-- A folder. -/
  | folder (node : FolderNode)
  /-- A variable. -/
  | scalar (node : VariableNode)
deriving DecidableEq

/-- A node. -/
structure Node where
  /-- The identifier. -/
  id : NodeId
  /-- The number in the order of creation. -/
  seq : Nat
  /-- What it is. -/
  kind : NodeKind
deriving DecidableEq

/-- All nodes and namespaces. -/
structure AddressSpace where
  /-- The URIs of the namespaces; their positions are their indices. -/
  namespaces : List String
  /-- The nodes. -/
  nodes : List Node
  /-- The number of the next node. -/
  nextSeq : Nat
  /-- The next reading of the clock. -/
  clock : Nat
deriving DecidableEq

/-- A folder that has been created, as its creator knows it. -/
structure Folder where
  /-- The identifier. -/
  id : NodeId
  /-- The path. -/
  path : String
deriving DecidableEq

/-- What clients are told about a variable. -/
structure VariableInfo where
  /-- The identifier. -/
  id : NodeId
  /-- The name. -/
  name : String
  /-- The type. -/
  type : ScalarType
  /-- The value now. -/
  value : Value
  /-- Whether it can be written. -/
  writable : Bool
  /-- When the value was set. -/
  stamp : Nat
deriving DecidableEq

/-- How a node of this variable looks to clients. -/
def VariableNode.info (v : VariableNode) (id : NodeId) : VariableInfo :=
  ⟨id, v.name, v.type, v.value, v.access = .readWrite, v.stamp⟩

/-- The developer's view of a folder. -/
def Folder.describe (f : Folder) : String :=
  "Folder \x7b id: NodeIdentifier \x7b namespace_index: " ++ toString f.id.namespaceIndex.toNat ++
    ", identifier: " ++ Text.quote f.id.identifier ++ " \x7d, path: " ++ Text.quote f.path ++
    " \x7d"

namespace AddressSpace

/-- The URI of the first namespace. -/
def baseNamespace : String :=
  "http://opcfoundation.org/UA/"

/-- The name of the folder at the top. -/
def objectsName : String :=
  "Objects"

/-- The identifier of the folder at the top. -/
def objectsId : NodeId :=
  ⟨0, objectsName⟩

/-- The folder at the top; its path is empty. -/
def objects : Folder :=
  ⟨objectsId, ""⟩

/-- The address space with nothing in it but the Objects folder. -/
def empty : AddressSpace where
  namespaces := [baseNamespace]
  nodes := [⟨objectsId, 0, .folder ⟨objectsName, "", []⟩⟩]
  nextSeq := 1
  clock := 0

/-- The node with an identifier. -/
def node? (s : AddressSpace) (id : NodeId) : Option Node :=
  s.nodes.find? (·.id = id)

/-- The folder with an identifier. -/
def folder? (s : AddressSpace) (id : NodeId) : Option FolderNode :=
  match s.node? id with
  | some ⟨_, _, .folder f⟩ => some f
  | _ => none

/-- The variable with an identifier, or why there is none. -/
def variableNode (s : AddressSpace) (id : NodeId) : Except Error VariableNode :=
  match s.node? id with
  | none => .error (.unknownNode id.text)
  | some ⟨_, _, .scalar v⟩ => .ok v
  | some ⟨_, _, .folder _⟩ => .error (.unknownNode (id.text ++ " is not a variable"))

/-- What clients are told about the variable with an identifier. -/
def variableInfo (s : AddressSpace) (id : NodeId) : Except Error VariableInfo :=
  (s.variableNode id).map (·.info id)

/-- The value of a variable. -/
def read (s : AddressSpace) (id : NodeId) : Except Error Value :=
  (s.variableInfo id).map (·.value)

/-- What a node is, as a variable with its number. -/
def numberedVariable? (n : Node) : Option (Nat × VariableInfo) :=
  match n.kind with
  | .scalar v => some (n.seq, v.info n.id)
  | .folder _ => none

/-- The variables among some nodes, in the order of their creation. -/
def variablesAmong (nodes : List Node) : List VariableInfo :=
  ((nodes.filterMap numberedVariable?).mergeSort fun a b => a.1 ≤ b.1).map (·.2)

/-- All variables, in the order of their creation. -/
def allVariables (s : AddressSpace) : List VariableInfo :=
  variablesAmong s.nodes

/-- The nodes in a folder, in the order of their creation. -/
def browse (s : AddressSpace) (id : NodeId) : Except Error (List NodeId) :=
  match s.node? id with
  | none => .error (.unknownNode id.text)
  | some ⟨_, _, .folder f⟩ => .ok f.children
  | some ⟨_, _, .scalar _⟩ => .error (.unknownNode (id.text ++ " is not a folder"))

/-- The name of the folder with an identifier. -/
def folderName? (s : AddressSpace) (id : NodeId) : Option String :=
  (s.folder? id).map (·.name)

/-- The number of nodes. -/
def nodeCount (s : AddressSpace) : Nat :=
  s.nodes.length

/-- The index of the namespace with a URI. -/
def namespaceIndex? (s : AddressSpace) (uri : String) : Option UInt16 :=
  (s.namespaces.idxOf? uri).map UInt16.ofNat

end AddressSpace

end ScalarServer
