import ScalarServer.Proofs.AddressSpace.Variables
import ScalarServer.Proofs.Path
import ScalarServer.Registration

/-!
# Registration in a folder of the address space

Registration creates the variables of a list of definitions in a folder, and lets clients write
them. It succeeds exactly if every definition fits by itself and no name stands twice: what is
created for one definition is never in the way of another.

- `Registrable`: when the variables of a list of definitions can be created in a folder;
- `withVariables`: the address space with these variables;
- `registerAll_of_registrable`, `registrable_of_registerAll`: registration from both sides.
-/

namespace ScalarServer

/-- The identifier of a variable in a folder. -/
def Folder.variableId (f : Folder) (index : UInt16) (d : VariableDefinition) : NodeId :=
  .inFolder index f.path d.name

/-- A definition as a variable registered in a folder. -/
def Folder.registered (f : Folder) (index : UInt16) (d : VariableDefinition) :
    RegisteredVariable :=
  ⟨f.variableId index d, d.name, d.type, true⟩

/-- What clients are told, apart from the time, about a variable that has just been registered in a
folder. -/
def Folder.initialInfo (f : Folder) (index : UInt16) (d : VariableDefinition) : VariableInfo :=
  ⟨f.variableId index d, d.name, d.type, d.value, true, 0⟩

/-- Registration of one variable, in any store, where both of its parts are done. -/
theorem Registration.registerOne_of_done {σ : Type} {index : UInt16} {b : Backend σ}
    {d : VariableDefinition} {s t u : σ}
    (hadd : ((b.addVariable (.inFolder index b.path d.name) d).run s).result = .ok ())
    (hadded : ((b.addVariable (.inFolder index b.path d.name) d).run s).state = t)
    (hset : ((b.setWritable (.inFolder index b.path d.name)).run t).result = .ok ())
    (hdone : ((b.setWritable (.inFolder index b.path d.name)).run t).state = u) :
    ((registerOne index b d).run s).result =
        .ok ⟨.inFolder index b.path d.name, d.name, d.type, true⟩ ∧
      ((registerOne index b d).run s).state = u := by
  simp [registerOne, hadd, hadded, hset, hdone]

namespace AddressSpace

variable {s : AddressSpace} {id parent : NodeId} {f : Folder} {index : UInt16}
  {d : VariableDefinition} {ds : List VariableDefinition}

/-- A definition as a variable that clients can write. -/
def writableVariable (s : AddressSpace) (d : VariableDefinition) : VariableNode :=
  ⟨d.name, d.type, d.value, .readWrite, s.clock⟩

/-- The address space with one more variable that clients can write. -/
def withVariable (parent id : NodeId) (d : VariableDefinition) (s : AddressSpace) :
    AddressSpace :=
  { withNode parent id (.scalar (s.writableVariable d)) s with clock := s.clock + 1 }

/-- The address space with more variables in a folder. -/
def withVariables (index : UInt16) (f : Folder) :
    List VariableDefinition → AddressSpace → AddressSpace
  | [], s => s
  | d :: ds, s => withVariables index f ds (s.withVariable f.id (f.variableId index d) d)

/-! ## One variable -/

@[simp]
theorem withVariable_namespaces :
    (s.withVariable parent id d).namespaces = s.namespaces := rfl

theorem nodeCount_withVariable : (s.withVariable parent id d).nodeCount = s.nodeCount + 1 :=
  nodeCount_withNode _

theorem WellFormed.withVariable (h : s.WellFormed) (hvacant : s.Vacant parent id) :
    (s.withVariable parent id d).WellFormed :=
  (h.withNode hvacant rfl).congr rfl rfl

theorem allVariables_withVariable (h : s.WellFormed) (hvacant : s.Vacant parent id) :
    (s.withVariable parent id d).allVariables =
      s.allVariables ++ [(s.writableVariable d).info id] :=
  allVariables_withNode h hvacant rfl

/-- One more variable is found, the folder has one more child, and all other nodes are as
before. -/
theorem node?_withVariable (h : s.Vacant parent id) (j : NodeId) :
    (s.withVariable parent id d).node? j =
      if j = id then some ⟨id, s.nextSeq, .scalar (s.writableVariable d)⟩
      else if j = parent then
        (s.node? parent).map fun n => { n with kind := addChild id n.kind }
      else s.node? j :=
  node?_withNode h _ j

theorem node?_withVariable_eq_none_iff (h : s.Vacant parent id) (j : NodeId) :
    (s.withVariable parent id d).node? j = none ↔ j ≠ id ∧ s.node? j = none :=
  node?_withNode_eq_none_iff h _ j

theorem exists_folder?_withVariable (h : s.Vacant parent id) {j : NodeId}
    (hfolder : ∃ e, s.folder? j = some e) :
    ∃ e, (s.withVariable parent id d).folder? j = some e :=
  exists_folder?_withNode h _ hfolder

/-- Creating a variable and letting clients write it makes a variable that clients can write. -/
theorem withAccess_withNode (h : s.Vacant parent id) :
    withAccess id .readWrite
        { withNode parent id (.scalar (s.newVariable d)) s with clock := s.clock + 1 } =
      s.withVariable parent id d := by
  have hnode := updateNode_withNode h (.scalar (s.newVariable d))
    (onVariable fun v => { v with access := .readWrite })
  have hnodes := congrArg AddressSpace.nodes hnode
  exact AddressSpace.ext rfl hnodes rfl rfl

theorem registerOne_of_fits (h : s.VariableFits f.id (f.variableId index d) d) :
    ((Registration.registerOne index f.backend d).run s).result = .ok (f.registered index d) ∧
      ((Registration.registerOne index f.backend d).run s).state =
        s.withVariable f.id (f.variableId index d) d := by
  obtain ⟨hadd, hadded⟩ := addVariable_of_fits h
  have hnew : variableNode { withNode f.id (f.variableId index d) (.scalar (s.newVariable d)) s with
      clock := s.clock + 1 } (f.variableId index d) = .ok (s.newVariable d) := by
    refine variableNode_eq_ok_iff.mpr ⟨s.nextSeq, ?_⟩
    exact (node?_withNode h.vacant _ _).trans (if_pos rfl)
  obtain ⟨hset, hdone⟩ := setAccess_of_variable .readWrite hnew
  rw [withAccess_withNode h.vacant] at hdone
  exact Registration.registerOne_of_done hadd hadded hset hdone

theorem registerOne_of_not_fits (h : ¬ s.VariableFits f.id (f.variableId index d) d) :
    (∃ e, ((Registration.registerOne index f.backend d).run s).result = .error e) ∧
      ((Registration.registerOne index f.backend d).run s).state = s := by
  obtain ⟨⟨e, hresult⟩, hstate⟩ := addVariable_of_not_fits h
  unfold Folder.variableId at hresult hstate
  simp [Registration.registerOne, Folder.backend, hresult, hstate]

/-- A variable that fits has the index of a namespace. -/
theorem VariableFits.knows (h : s.VariableFits f.id (f.variableId index d) d) : s.Knows index := by
  have hid := h.known
  rwa [Folder.variableId, inFolder_namespaceIndex] at hid

/-! ## Several variables -/

/-- When the variables of a list of definitions can be created in a folder. -/
structure Registrable (s : AddressSpace) (index : UInt16) (f : Folder)
    (ds : List VariableDefinition) : Prop where
  /-- Each of them can be created by itself. -/
  fits : ∀ d ∈ ds, s.VariableFits f.id (f.variableId index d) d
  /-- No name stands twice. -/
  names_nodup : (ds.map (·.name)).Nodup

/-- In a folder, identifiers and names of variables correspond. -/
theorem variableId_eq_iff {d e : VariableDefinition} :
    f.variableId index d = f.variableId index e ↔ d.name = e.name := by
  constructor
  · exact fun h => inFolder_injective h
  · intro h
    rw [Folder.variableId, Folder.variableId, h]

theorem variableId_mem_iff :
    f.variableId index d ∈ ds.map (f.variableId index) ↔ d.name ∈ ds.map (·.name) := by
  simp only [List.mem_map, variableId_eq_iff]

/-- The variables of a list can be created if the first one can, and the others after it. -/
theorem registrable_cons_iff :
    s.Registrable index f (d :: ds) ↔
      s.VariableFits f.id (f.variableId index d) d ∧
        (s.withVariable f.id (f.variableId index d) d).Registrable index f ds := by
  constructor
  · intro h
    have hfirst := h.fits d List.mem_cons_self
    have hnames := List.nodup_cons.mp h.names_nodup
    refine ⟨hfirst, ⟨?_, hnames.2⟩⟩
    intro e he
    have hfits := h.fits e (List.mem_cons_of_mem _ he)
    -- the first variable is not in the way of another one, since that has another name
    refine ⟨hfits.known, hfits.valid, exists_folder?_withVariable hfirst.vacant hfits.vacant.1, ?_⟩
    rw [node?_withVariable_eq_none_iff hfirst.vacant]
    refine ⟨?_, hfits.vacant.2⟩
    intro heq
    apply hnames.1
    rw [← variableId_mem_iff, ← heq]
    exact List.mem_map_of_mem he
  · rintro ⟨hfirst, hothers⟩
    refine ⟨?_, List.nodup_cons.mpr ⟨?_, hothers.names_nodup⟩⟩
    · intro e he
      rcases List.mem_cons.mp he with rfl | he
      · exact hfirst
      · have hfits := hothers.fits e he
        have hvacant := hfits.vacant.2
        rw [node?_withVariable_eq_none_iff hfirst.vacant] at hvacant
        exact ⟨hfits.known, hfits.valid, hfirst.vacant.1, hvacant.2⟩
    · -- a second variable of the same name would have found its place taken
      intro hmem
      obtain ⟨e, he, hname⟩ := List.mem_map.mp hmem
      have hvacant := (hothers.fits e he).vacant.2
      rw [node?_withVariable_eq_none_iff hfirst.vacant] at hvacant
      exact hvacant.1 (variableId_eq_iff.mpr hname)

theorem registerEach_of_registrable (h : s.Registrable index f ds) :
    ((Registration.registerEach index f.backend ds).run s).result =
        .ok (ds.map (f.registered index)) ∧
      ((Registration.registerEach index f.backend ds).run s).state =
        s.withVariables index f ds := by
  induction ds generalizing s with
  | nil => exact ⟨rfl, rfl⟩
  | cons d ds ih =>
    obtain ⟨hfirst, hothers⟩ := registrable_cons_iff.mp h
    obtain ⟨hresult, hstate⟩ := registerOne_of_fits hfirst
    obtain ⟨hresult', hstate'⟩ := ih hothers
    simp [Registration.registerEach, withVariables, hresult, hstate, hresult', hstate']

theorem registrable_of_registerEach {rs : List RegisteredVariable}
    (h : ((Registration.registerEach index f.backend ds).run s).result = .ok rs) :
    s.Registrable index f ds := by
  induction ds generalizing s rs with
  | nil => exact ⟨by simp, by simp⟩
  | cons d ds ih =>
    by_cases hfirst : s.VariableFits f.id (f.variableId index d) d
    · obtain ⟨hresult, hstate⟩ := registerOne_of_fits hfirst
      unfold Registration.registerEach at h
      obtain ⟨first, -, h⟩ := Action.bind_result_eq_ok_iff.mp h
      rw [hstate] at h
      obtain ⟨others, hothers, -⟩ := Action.bind_result_eq_ok_iff.mp h
      exact registrable_cons_iff.mpr ⟨hfirst, ih hothers⟩
    · obtain ⟨⟨e, hresult⟩, -⟩ := registerOne_of_not_fits hfirst
      simp [Registration.registerEach, hresult] at h

/-- Registration answers with one variable for each definition. -/
theorem registerAll_of_registrable (h : s.Registrable index f ds) :
    ((Registration.registerAll index f.backend ds).run s).result =
        .ok (ds.map (f.registered index)) ∧
      ((Registration.registerAll index f.backend ds).run s).state =
        s.withVariables index f ds := by
  obtain ⟨hresult, hstate⟩ := registerEach_of_registrable h
  simp [Registration.registerAll, hresult, hstate]

/-- If registration answers, nothing was in its way. -/
theorem registrable_of_registerAll {rs : List RegisteredVariable}
    (h : ((Registration.registerAll index f.backend ds).run s).result = .ok rs) :
    s.Registrable index f ds := by
  obtain ⟨registered, hregistered, -⟩ := Action.bind_result_eq_ok_iff.mp h
  exact registrable_of_registerEach hregistered

/-! ## The address space with the variables -/

@[simp]
theorem withVariables_namespaces : (s.withVariables index f ds).namespaces = s.namespaces := by
  induction ds generalizing s with
  | nil => rfl
  | cons d ds ih => exact ih

theorem nodeCount_withVariables :
    (s.withVariables index f ds).nodeCount = s.nodeCount + ds.length := by
  induction ds generalizing s with
  | nil => rfl
  | cons d ds ih =>
    simp only [withVariables, ih, nodeCount_withVariable, List.length_cons]
    omega

theorem Registrable.wellFormed (h : s.Registrable index f ds) (hwell : s.WellFormed) :
    (s.withVariables index f ds).WellFormed := by
  induction ds generalizing s with
  | nil => exact hwell
  | cons d ds ih =>
    obtain ⟨hfirst, hothers⟩ := registrable_cons_iff.mp h
    exact ih hothers (hwell.withVariable hfirst.vacant)

/-- The new variables stand behind all others, which are listed as before. -/
theorem Registrable.exists_allVariables (h : s.Registrable index f ds) (hwell : s.WellFormed) :
    ∃ added, (s.withVariables index f ds).allVariables = s.allVariables ++ added ∧
      added.map VariableInfo.untimed = ds.map (f.initialInfo index) := by
  induction ds generalizing s with
  | nil => exact ⟨[], (List.append_nil _).symm, rfl⟩
  | cons d ds ih =>
    obtain ⟨hfirst, hothers⟩ := registrable_cons_iff.mp h
    obtain ⟨added, hall, hadded⟩ := ih hothers (hwell.withVariable hfirst.vacant)
    refine ⟨(s.writableVariable d).info (f.variableId index d) :: added, ?_, ?_⟩
    · rw [withVariables, hall, allVariables_withVariable hwell hfirst.vacant, List.append_assoc,
        List.singleton_append]
    · rw [List.map_cons, List.map_cons, hadded]
      rfl

/-- The new variables stand behind all others, in the order of their definitions. -/
theorem Registrable.allVariables (h : s.Registrable index f ds) (hwell : s.WellFormed) :
    (s.withVariables index f ds).allVariables.map VariableInfo.untimed =
      s.allVariables.map VariableInfo.untimed ++ ds.map (f.initialInfo index) := by
  obtain ⟨added, hall, hadded⟩ := h.exists_allVariables hwell
  rw [hall, List.map_append, hadded]

end AddressSpace

end ScalarServer
