import ScalarServer.Proofs.AddressSpace.Effects

/-!
# Runs of an address space

A run is a sequence of calls of the operations, from the address space with nothing in it but the
Objects folder. Calls may be refused. The only thing that a caller has to respect is that folders
are created in folders which the address space has handed out.

- `Effect s c answer s'`: what a call can do to an address space, one case for each way in which a
  call can end;
- `perform_effect`: a call does one of these things, so an invariant is a case split on `Effect`;
- `Run history s`: a run with this history ends in `s`.
-/

namespace ScalarServer.AddressSpace

/-- A call of an operation. -/
inductive Call where
  /-- To register a namespace. -/
  | registerNamespace (uri : String)
  /-- To create a folder. -/
  | addFolder (parent : Folder) (index : UInt16) (name : String)
  /-- To create a variable. -/
  | addVariable (parent id : NodeId) (d : VariableDefinition)
  /-- To set what clients may do with a variable. -/
  | setAccess (id : NodeId) (access : AccessLevel)
  /-- To write a variable. -/
  | write (id : NodeId) (value : Value)

/-- What a call is answered with. -/
inductive Answer where
  /-- The index of a namespace. -/
  | index (index : UInt16)
  /-- A folder. -/
  | folder (f : Folder)
  /-- That it has been done. -/
  | done

/-- The operation that is called. -/
def Call.perform : Call → Action AddressSpace Answer
  | .registerNamespace uri => .index <$> AddressSpace.registerNamespace uri
  | .addFolder parent index name => .folder <$> AddressSpace.addFolder parent index name
  | .addVariable parent id d => (fun _ => .done) <$> AddressSpace.addVariable parent id d
  | .setAccess id access => (fun _ => .done) <$> AddressSpace.setAccess id access
  | .write id value => (fun _ => .done) <$> AddressSpace.write id value

/-- What a call can do to an address space, with what it is answered. -/
inductive Effect (s : AddressSpace) : Call → Except Error Answer → AddressSpace → Prop
  | refused (c : Call) (e : Error) : Effect s c (.error e) s
  | known {uri : String} (h : uri ∈ s.namespaces) :
      Effect s (.registerNamespace uri) (.ok (.index (.ofNat (s.namespaces.idxOf uri)))) s
  | registered {uri : String} (h : uri ∉ s.namespaces) (hroom : s.namespaces.length < 65536) :
      Effect s (.registerNamespace uri) (.ok (.index (.ofNat s.namespaces.length)))
        { s with namespaces := s.namespaces ++ [uri] }
  | folder {parent : Folder} {index : UInt16} {name : String}
      (h : s.FolderFits parent index name) :
      Effect s (.addFolder parent index name)
        (.ok (.folder ⟨.inFolder index parent.path name,
          (NodeId.inFolder index parent.path name).identifier⟩))
        (withNode parent.id (.inFolder index parent.path name)
          (.folder ⟨name, (NodeId.inFolder index parent.path name).identifier, []⟩) s)
  | scalar {parent id : NodeId} {d : VariableDefinition} (h : s.VariableFits parent id d) :
      Effect s (.addVariable parent id d) (.ok .done)
        { withNode parent id (.scalar (s.newVariable d)) s with clock := s.clock + 1 }
  | access {id : NodeId} {access : AccessLevel} {v : VariableNode}
      (h : s.variableNode id = .ok v) :
      Effect s (.setAccess id access) (.ok .done) (s.withAccess id access)
  | value {id : NodeId} {value : Value} {v : VariableNode} (h : s.variableNode id = .ok v)
      (haccess : v.access = .readWrite) (htype : value.type = v.type) :
      Effect s (.write id value) (.ok .done) (s.withValue id value)

/-- Every call has one of the effects. -/
theorem perform_effect (c : Call) (s : AddressSpace) :
    Effect s c (c.perform.run s).result (c.perform.run s).state := by
  cases c with
  | registerNamespace uri =>
    simp only [Call.perform, Action.map_result, Action.map_state]
    by_cases hmem : uri ∈ s.namespaces
    · obtain ⟨hresult, hstate⟩ := registerNamespace_of_mem hmem
      rw [hresult, hstate]
      exact .known hmem
    · by_cases hroom : s.namespaces.length < 65536
      · obtain ⟨hresult, hstate⟩ := registerNamespace_of_room hmem hroom
        rw [hresult, hstate]
        exact .registered hmem hroom
      · obtain ⟨hresult, hstate⟩ := registerNamespace_of_full hmem hroom
        rw [hresult, hstate]
        exact .refused _ _
  | addFolder parent index name =>
    simp only [Call.perform, Action.map_result, Action.map_state]
    by_cases hfits : s.FolderFits parent index name
    · obtain ⟨hresult, hstate⟩ := addFolder_of_fits hfits
      rw [hresult, hstate]
      exact .folder hfits
    · obtain ⟨⟨e, hresult⟩, hstate⟩ := addFolder_of_not_fits hfits
      rw [hresult, hstate]
      exact .refused _ _
  | addVariable parent id d =>
    simp only [Call.perform, Action.map_result, Action.map_state]
    by_cases hfits : s.VariableFits parent id d
    · obtain ⟨hresult, hstate⟩ := addVariable_of_fits hfits
      rw [hresult, hstate]
      exact .scalar hfits
    · obtain ⟨⟨e, hresult⟩, hstate⟩ := addVariable_of_not_fits hfits
      rw [hresult, hstate]
      exact .refused _ _
  | setAccess id access =>
    simp only [Call.perform, Action.map_result, Action.map_state]
    cases hv : s.variableNode id with
    | ok v =>
      obtain ⟨hresult, hstate⟩ := setAccess_of_variable access hv
      rw [hresult, hstate]
      exact .access hv
    | error e =>
      obtain ⟨hresult, hstate⟩ := setAccess_of_not_variable access hv
      rw [hresult, hstate]
      exact .refused _ _
  | write id value =>
    simp only [Call.perform, Action.map_result, Action.map_state]
    cases hv : s.variableNode id with
    | ok v =>
      by_cases hwritable : v.access = .readWrite ∧ value.type = v.type
      · obtain ⟨hresult, hstate⟩ := write_of_writable hv hwritable.1 hwritable.2
        rw [hresult, hstate]
        exact .value hv hwritable.1 hwritable.2
      · obtain ⟨hresult, hstate⟩ := write_of_not_writable hv hwritable
        rw [hresult, hstate]
        exact .refused _ _
    | error e =>
      obtain ⟨hresult, hstate⟩ := write_of_not_variable value hv
      rw [hresult, hstate]
      exact .refused _ _

/-! ## Histories -/

/-- A call with what came of it. -/
structure Event where
  /-- The call. -/
  call : Call
  /-- The answer, or why there was none. -/
  result : Except Error Answer

namespace Event

/-- The folder that a call was answered with. -/
def folder? (e : Event) : Option Folder :=
  match e.result with
  | .ok (.folder f) => some f
  | _ => none

/-- Whether the call has created a node. -/
def creates (e : Event) : Bool :=
  match e.call, e.result with
  | .addFolder _ _ _, .ok _ => true
  | .addVariable _ _ _, .ok _ => true
  | _, _ => false

end Event

/-- The folders that a caller can have: the Objects folder, and those that calls were answered
with. -/
def handedOut (history : List Event) : List Folder :=
  objects :: history.filterMap Event.folder?

/-- Whether a call creates nothing but folders in folders out of a list. -/
def Call.Within (folders : List Folder) : Call → Prop
  | .addFolder parent _ _ => parent ∈ folders
  | _ => True

/-- The address spaces that runs end in, with what was called and answered, the latest last. -/
inductive Run : List Event → AddressSpace → Prop
  | start : Run [] empty
  | call {history : List Event} {s : AddressSpace} (c : Call) (hrun : Run history s)
      (hwithin : c.Within (handedOut history)) :
      Run (history ++ [⟨c, (c.perform.run s).result⟩]) (c.perform.run s).state

end ScalarServer.AddressSpace
