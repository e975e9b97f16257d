import ScalarServer.Action
import ScalarServer.AddressSpace.Basic

/-!
# Operations on the address space

Registering namespaces, creating folders and variables, changing what clients may do, and
writing values. A refused operation changes nothing.
-/

namespace ScalarServer.AddressSpace

/-- Registers a namespace and answers with its index. A URI that is registered already keeps its
index. Indices have sixteen bits. -/
def registerNamespace (uri : String) : Action AddressSpace UInt16 := do
  let s ← Action.state
  match s.namespaceIndex? uri with
  | some index => return index
  | none =>
    let index := s.namespaces.length
    if index < 65536 then
      Action.modify fun s => { s with namespaces := s.namespaces ++ [uri] }
      Action.log .debug ("Registered namespace " ++ toString index ++ " = " ++ uri)
      return UInt16.ofNat index
    else Action.refuse (.backend "namespace table is full")

/-- Refuses an index that no namespace has. -/
def checkNamespace (index : UInt16) : Action AddressSpace Unit := do
  let s ← Action.state
  if index.toNat < s.namespaces.length then return ()
  else Action.refuse (.unknownNamespace index)

/-- Changes the node with an identifier. -/
def updateNode (id : NodeId) (f : NodeKind → NodeKind) (s : AddressSpace) : AddressSpace :=
  { s with nodes := s.nodes.map fun n => if n.id = id then { n with kind := f n.kind } else n }

/-- A folder with one more child; variables have none. -/
def addChild (child : NodeId) : NodeKind → NodeKind
  | .folder f => .folder { f with children := f.children ++ [child] }
  | .scalar v => .scalar v

/-- The address space with one more node in a folder. -/
def withNode (parent id : NodeId) (kind : NodeKind) (s : AddressSpace) : AddressSpace :=
  updateNode parent (addChild id)
    { s with nodes := s.nodes ++ [⟨id, s.nextSeq, kind⟩], nextSeq := s.nextSeq + 1 }

/-- Creates a node in a folder. -/
def insertChild (parent id : NodeId) (kind : NodeKind) : Action AddressSpace Unit := do
  let s ← Action.state
  -- the parent is looked at first, then the identifier
  if (s.folder? parent).isNone then
    Action.refuse (.unknownNode (parent.text ++ " is not a folder"))
  else if (s.node? id).isSome then Action.refuse (.duplicateNode id.text)
  else Action.modify (withNode parent id kind)

/-- Creates a folder with a name in another one. -/
def addFolder (parent : Folder) (namespaceIndex : UInt16) (name : String) :
    Action AddressSpace Folder := do
  checkNamespace namespaceIndex
  if !isPathSegment name then
    Action.refuse (.invalidNodeId ("invalid folder name " ++ Text.quote name))
  else
    let id := NodeId.inFolder namespaceIndex parent.path name
    insertChild parent.id id (.folder ⟨name, id.identifier, []⟩)
    Action.log .debug ("Added folder " ++ id.text)
    return ⟨id, id.identifier⟩

/-- Moves the clock on. -/
def tick : Action AddressSpace Unit :=
  Action.modify fun s => { s with clock := s.clock + 1 }

/-- Creates a variable that clients can read, in a folder. -/
def addVariable (parent id : NodeId) (d : VariableDefinition) : Action AddressSpace Unit := do
  checkNamespace id.namespaceIndex
  Action.ofExcept d.validate
  let s ← Action.state
  insertChild parent id (.scalar ⟨d.name, d.type, d.value, .read, s.clock⟩)
  tick

/-- A variable after a change; folders do not change. -/
def onVariable (f : VariableNode → VariableNode) : NodeKind → NodeKind
  | .scalar v => .scalar (f v)
  | .folder d => .folder d

/-- Sets what clients may do with a variable. -/
def setAccess (id : NodeId) (access : AccessLevel) : Action AddressSpace Unit := do
  let s ← Action.state
  let _ ← Action.ofExcept (s.variableNode id)
  Action.modify (updateNode id (onVariable fun v => { v with access }))

/-- Lets clients write a variable. -/
def setWritable (id : NodeId) : Action AddressSpace Unit :=
  setAccess id .readWrite

/-- Gives a variable a value of its type, if clients may write it. -/
def write (id : NodeId) (value : Value) : Action AddressSpace Unit := do
  let s ← Action.state
  let v ← Action.ofExcept (s.variableNode id)
  if v.access ≠ .readWrite then Action.refuse (.notWritable id.text)
  else if value.type ≠ v.type then Action.refuse (.typeMismatch v.type value.type.name)
  else
    Action.modify (updateNode id (onVariable fun v => { v with value, stamp := s.clock }))
    tick

end ScalarServer.AddressSpace
