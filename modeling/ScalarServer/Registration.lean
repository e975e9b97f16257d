import ScalarServer.AddressSpace.Operations

/-!
# Registration of variables

Creates the defined variables in a folder, in order, and lets clients write them. The first
refusal ends the registration; what was created before stays.

Registration works on any store that can create variables and let clients write them. The address
space is one. A store can also be watched: `Backend.recorded` keeps a list of the calls.
-/

namespace ScalarServer

/-- A folder of some store, in which variables can be created. -/
structure Backend (σ : Type) where
  /-- The path of the folder. -/
  path : String
  /-- Creates a variable in the folder. -/
  addVariable : NodeId → VariableDefinition → Action σ Unit
  /-- Lets clients write a variable. -/
  setWritable : NodeId → Action σ Unit

/-- A variable that has been registered. -/
structure RegisteredVariable where
  /-- The identifier. -/
  id : NodeId
  /-- The name. -/
  name : String
  /-- The type. -/
  type : ScalarType
  /-- Whether clients can write it. -/
  writable : Bool
deriving DecidableEq

/-- A folder of the address space as a place for variables. -/
def Folder.backend (f : Folder) : Backend AddressSpace where
  path := f.path
  addVariable := AddressSpace.addVariable f.id
  setWritable := AddressSpace.setWritable

namespace Registration

variable {σ : Type}

/-- Registers one variable. -/
def registerOne (namespaceIndex : UInt16) (b : Backend σ) (d : VariableDefinition) :
    Action σ RegisteredVariable := do
  let id := NodeId.inFolder namespaceIndex b.path d.name
  b.addVariable id d
  b.setWritable id
  Action.log .debug
    ("Registered " ++ id.text ++ " (" ++ d.type.name ++ ") = " ++ d.value.text)
  return ⟨id, d.name, d.type, true⟩

/-- Registers variables one after the other. -/
def registerEach (namespaceIndex : UInt16) (b : Backend σ) :
    List VariableDefinition → Action σ (List RegisteredVariable)
  | [] => return []
  | d :: ds => do
    let first ← registerOne namespaceIndex b d
    let others ← registerEach namespaceIndex b ds
    return first :: others

/-- Registers variables, and logs how many. -/
def registerAll (namespaceIndex : UInt16) (b : Backend σ) (ds : List VariableDefinition) :
    Action σ (List RegisteredVariable) := do
  let registered ← registerEach namespaceIndex b ds
  Action.log .info
    ("Registered " ++ toString registered.length ++ " variables under " ++ b.path)
  return registered

end Registration

/-- Something that registration asks of a store. -/
inductive Backend.Call where
  /-- To create a variable. -/
  | add (id : NodeId)
  /-- To let clients write a variable. -/
  | writable (id : NodeId)
deriving DecidableEq

/-- The text of a call. -/
def Backend.Call.text : Backend.Call → String
  | .add id => "add " ++ id.text
  | .writable id => "writable " ++ id.text

/-- An action on a part of a state, after a note about it in the other part. -/
def Action.noted {σ α κ : Type} (call : κ) (a : Action σ α) : Action (σ × List κ) α :=
  fun (s, calls) =>
    match a s with
    | ⟨result, s', log⟩ => ⟨result, (s', calls ++ [call]), log⟩

/-- A store with a list of the calls that it gets, refused ones included. -/
def Backend.recorded {σ : Type} (b : Backend σ) : Backend (σ × List Backend.Call) where
  path := b.path
  addVariable := fun id d => (b.addVariable id d).noted (.add id)
  setWritable := fun id => (b.setWritable id).noted (.writable id)

end ScalarServer
