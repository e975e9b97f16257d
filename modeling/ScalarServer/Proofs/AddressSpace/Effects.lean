import ScalarServer.Proofs.Action
import ScalarServer.Proofs.AddressSpace.Lookup

/-!
# What an operation comes to

For each operation on the address space, when it answers, what it answers with, and what it leaves
behind. An operation is given from both sides: `…_of_…` is the operation where it is possible, and
`…_of_not_…` says that it is refused otherwise and changes nothing.
-/

namespace ScalarServer.AddressSpace

variable {s : AddressSpace} {id parent : NodeId}

/-! ## Namespaces -/

theorem namespaceIndex?_of_mem {uri : String} (h : uri ∈ s.namespaces) :
    s.namespaceIndex? uri = some (UInt16.ofNat (s.namespaces.idxOf uri)) := by
  have hindex : s.namespaces.idxOf? uri = some (s.namespaces.idxOf uri) :=
    List.findIdx?_eq_some_iff_findIdx_eq.mpr ⟨List.idxOf_lt_length_of_mem h, rfl⟩
  rw [namespaceIndex?, hindex, Option.map_some]

theorem namespaceIndex?_of_not_mem {uri : String} (h : uri ∉ s.namespaces) :
    s.namespaceIndex? uri = none := by
  rw [namespaceIndex?, List.idxOf?_eq_none_iff.mpr h, Option.map_none]

/-- A registered URI keeps its index. -/
theorem registerNamespace_of_mem {uri : String} (h : uri ∈ s.namespaces) :
    ((registerNamespace uri).run s).result = .ok (UInt16.ofNat (s.namespaces.idxOf uri)) ∧
      ((registerNamespace uri).run s).state = s := by
  simp [registerNamespace, namespaceIndex?_of_mem h]

/-- A new URI gets the next index, as long as that has sixteen bits. -/
theorem registerNamespace_of_room {uri : String} (h : uri ∉ s.namespaces)
    (hroom : s.namespaces.length < 65536) :
    ((registerNamespace uri).run s).result = .ok (UInt16.ofNat s.namespaces.length) ∧
      ((registerNamespace uri).run s).state =
        { s with namespaces := s.namespaces ++ [uri] } := by
  simp [registerNamespace, namespaceIndex?_of_not_mem h, hroom]

theorem registerNamespace_of_full {uri : String} (h : uri ∉ s.namespaces)
    (hfull : ¬ s.namespaces.length < 65536) :
    ((registerNamespace uri).run s).result = .error (.backend "namespace table is full") ∧
      ((registerNamespace uri).run s).state = s := by
  simp [registerNamespace, namespaceIndex?_of_not_mem h, hfull]

/-- Whether an index is that of a namespace. -/
def Knows (s : AddressSpace) (index : UInt16) : Prop :=
  index.toNat < s.namespaces.length

@[simp]
theorem checkNamespace_state (index : UInt16) : ((checkNamespace index).run s).state = s := by
  simp only [checkNamespace, Action.bind_state, Action.run_state]
  split <;> rfl

theorem checkNamespace_of_knows {index : UInt16} (h : s.Knows index) :
    ((checkNamespace index).run s).result = .ok () := by
  unfold Knows at h
  simp [checkNamespace, h]

theorem checkNamespace_of_not_knows {index : UInt16} (h : ¬ s.Knows index) :
    ((checkNamespace index).run s).result = .error (.unknownNamespace index) := by
  unfold Knows at h
  simp [checkNamespace, h]

/-! ## Creation of nodes -/

theorem insertChild_of_vacant (kind : NodeKind) (h : s.Vacant parent id) :
    ((insertChild parent id kind).run s).result = .ok () ∧
      ((insertChild parent id kind).run s).state = withNode parent id kind s := by
  obtain ⟨⟨f, hf⟩, hnone⟩ := h
  simp [insertChild, hf, hnone]

theorem insertChild_of_not_vacant (kind : NodeKind) (h : ¬ s.Vacant parent id) :
    (∃ e, ((insertChild parent id kind).run s).result = .error e) ∧
      ((insertChild parent id kind).run s).state = s := by
  unfold Vacant at h
  cases hf : s.folder? parent with
  | none => simp [insertChild, hf]
  | some f =>
    cases hn : s.node? id with
    | none => simp [hf, hn] at h
    | some n => simp [insertChild, hf, hn]

/-- When a folder can be created in another one. -/
structure FolderFits (s : AddressSpace) (parent : Folder) (index : UInt16) (name : String) :
    Prop where
  /-- The namespace is registered. -/
  known : s.Knows index
  /-- The name can stand in a path. -/
  segment : isPathSegment name = true
  /-- The parent is a folder, and there is no such node yet. -/
  vacant : s.Vacant parent.id (NodeId.inFolder index parent.path name)

theorem addFolder_of_fits {parent : Folder} {index : UInt16} {name : String}
    (h : s.FolderFits parent index name) :
    ((addFolder parent index name).run s).result =
        .ok ⟨.inFolder index parent.path name,
          (NodeId.inFolder index parent.path name).identifier⟩ ∧
      ((addFolder parent index name).run s).state =
        withNode parent.id (.inFolder index parent.path name)
          (.folder ⟨name, (NodeId.inFolder index parent.path name).identifier, []⟩) s := by
  have hinsert := insertChild_of_vacant
    (.folder ⟨name, (NodeId.inFolder index parent.path name).identifier, []⟩) h.vacant
  simp [addFolder, checkNamespace_of_knows h.known, h.segment, hinsert]

theorem addFolder_of_not_fits {parent : Folder} {index : UInt16} {name : String}
    (h : ¬ s.FolderFits parent index name) :
    (∃ e, ((addFolder parent index name).run s).result = .error e) ∧
      ((addFolder parent index name).run s).state = s := by
  -- the checks, in the order in which they are made
  by_cases hknown : s.Knows index
  · by_cases hsegment : isPathSegment name = true
    · have hvacant : ¬ s.Vacant parent.id (.inFolder index parent.path name) :=
        fun hvacant => h ⟨hknown, hsegment, hvacant⟩
      obtain ⟨⟨e, he⟩, hstate⟩ := insertChild_of_not_vacant
        (.folder ⟨name, (NodeId.inFolder index parent.path name).identifier, []⟩) hvacant
      simp [addFolder, checkNamespace_of_knows hknown, hsegment, he, hstate]
    · simp [addFolder, checkNamespace_of_knows hknown, hsegment]
  · simp [addFolder, checkNamespace_of_not_knows hknown]

/-- When a variable can be created in a folder. -/
structure VariableFits (s : AddressSpace) (parent id : NodeId) (d : VariableDefinition) :
    Prop where
  /-- The namespace is registered. -/
  known : s.Knows id.namespaceIndex
  /-- The definition is in order. -/
  valid : d.validate = .ok ()
  /-- The parent is a folder, and there is no such node yet. -/
  vacant : s.Vacant parent id

/-- A definition as a variable that clients can read. -/
def newVariable (s : AddressSpace) (d : VariableDefinition) : VariableNode :=
  ⟨d.name, d.type, d.value, .read, s.clock⟩

theorem addVariable_of_fits {d : VariableDefinition} (h : s.VariableFits parent id d) :
    ((addVariable parent id d).run s).result = .ok () ∧
      ((addVariable parent id d).run s).state =
        { withNode parent id (.scalar (s.newVariable d)) s with clock := s.clock + 1 } := by
  have hinsert := insertChild_of_vacant (.scalar (s.newVariable d)) h.vacant
  unfold newVariable at hinsert ⊢
  simp [addVariable, tick, checkNamespace_of_knows h.known, h.valid, hinsert]

theorem addVariable_of_not_fits {d : VariableDefinition} (h : ¬ s.VariableFits parent id d) :
    (∃ e, ((addVariable parent id d).run s).result = .error e) ∧
      ((addVariable parent id d).run s).state = s := by
  -- the checks, in the order in which they are made
  by_cases hknown : s.Knows id.namespaceIndex
  · cases hvalid : d.validate with
    | error e => simp [addVariable, checkNamespace_of_knows hknown, hvalid]
    | ok u =>
      have hvacant : ¬ s.Vacant parent id := fun hvacant => h ⟨hknown, hvalid, hvacant⟩
      obtain ⟨⟨e, he⟩, hstate⟩ :=
        insertChild_of_not_vacant (.scalar (s.newVariable d)) hvacant
      unfold newVariable at he hstate
      simp [addVariable, checkNamespace_of_knows hknown, hvalid, he, hstate]
  · simp [addVariable, checkNamespace_of_not_knows hknown]

/-! ## Changes of variables -/

/-- The address space with another access level for a variable. -/
def withAccess (id : NodeId) (access : AccessLevel) (s : AddressSpace) : AddressSpace :=
  updateNode id (onVariable fun v => { v with access }) s

theorem setAccess_of_variable {v : VariableNode} (access : AccessLevel)
    (h : s.variableNode id = .ok v) :
    ((setAccess id access).run s).result = .ok () ∧
      ((setAccess id access).run s).state = s.withAccess id access := by
  simp [setAccess, withAccess, h]

theorem setAccess_of_not_variable {e : Error} (access : AccessLevel)
    (h : s.variableNode id = .error e) :
    ((setAccess id access).run s).result = .error e ∧
      ((setAccess id access).run s).state = s := by
  simp [setAccess, h]

/-- The address space with another value for a variable. -/
def withValue (id : NodeId) (value : Value) (s : AddressSpace) : AddressSpace :=
  { updateNode id (onVariable fun v => { v with value, stamp := s.clock }) s with
    clock := s.clock + 1 }

/-- Why a value cannot be written to a variable that exists. -/
def writeRefusal (v : VariableNode) (id : NodeId) (value : Value) : Error :=
  if v.access ≠ .readWrite then .notWritable id.text else .typeMismatch v.type value.type.name

theorem write_of_writable {v : VariableNode} {value : Value} (h : s.variableNode id = .ok v)
    (haccess : v.access = .readWrite) (htype : value.type = v.type) :
    ((write id value).run s).result = .ok () ∧
      ((write id value).run s).state = s.withValue id value := by
  simp [write, tick, withValue, h, haccess, htype]

theorem write_of_not_writable {v : VariableNode} {value : Value}
    (h : s.variableNode id = .ok v) (hnot : ¬ (v.access = .readWrite ∧ value.type = v.type)) :
    ((write id value).run s).result = .error (writeRefusal v id value) ∧
      ((write id value).run s).state = s := by
  by_cases haccess : v.access = .readWrite
  · have htype : ¬ value.type = v.type := fun htype => hnot ⟨haccess, htype⟩
    simp [write, writeRefusal, h, haccess, htype]
  · simp [write, writeRefusal, h, haccess]

theorem write_of_not_variable {e : Error} (value : Value) (h : s.variableNode id = .error e) :
    ((write id value).run s).result = .error e ∧ ((write id value).run s).state = s := by
  simp [write, h]

end ScalarServer.AddressSpace
