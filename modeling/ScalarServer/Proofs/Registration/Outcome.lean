import ScalarServer.Proofs.Construction

/-!
# How a registration ends

A registration in a folder that has been handed out ends in one of two ways. If nothing is in its
way, the folder has one more variable for each definition afterwards. Otherwise it is refused for
what is in the way of the first definition that cannot be registered, and the folder has the
variables of the definitions before that one.

- `Furnished`, `Registrable.furnished`: what is left behind, node by node;
- `Run.denotes`: folders that have been handed out are there;
- `Stopped`, `registerAll_exact`: both ends of a registration, in every run.
-/

namespace ScalarServer.AddressSpace

variable {s t : AddressSpace} {f : Folder} {index : UInt16} {d : VariableDefinition}
  {ds : List VariableDefinition}

/-! ## What is left behind -/

/-- What the second address space has to do with the first one, when the variables of some
definitions have been registered in a folder of it. -/
structure Furnished (s : AddressSpace) (index : UInt16) (f : Folder)
    (ds : List VariableDefinition) (t : AddressSpace) : Prop where
  /-- The namespaces are the same. -/
  namespaces : t.namespaces = s.namespaces
  /-- As many numbers have been given out. -/
  nextSeq : t.nextSeq = s.nextSeq + ds.length
  /-- The nodes are those from before, and one for each definition. -/
  ids : t.nodes.map Node.id = s.nodes.map Node.id ++ ds.map (f.variableId index)
  /-- The new nodes are variables that clients can write, numbered in the order of the
  definitions. -/
  created : ∀ k d, ds[k]? = some d → ∃ stamp, t.node? (f.variableId index d) =
    some ⟨f.variableId index d, s.nextSeq + k, .scalar ⟨d.name, d.type, d.value, .readWrite, stamp⟩⟩
  /-- The folder has them as further children, in this order. -/
  folder : ∀ seq node, s.node? f.id = some ⟨f.id, seq, .folder node⟩ →
    t.node? f.id = some ⟨f.id, seq,
      .folder { node with children := node.children ++ ds.map (f.variableId index) }⟩
  /-- All other nodes are as before. -/
  others : ∀ id, id ≠ f.id → id ∉ ds.map (f.variableId index) → t.node? id = s.node? id
  /-- The variables from before are listed as before, and the new ones after them. -/
  listed : ∃ added, t.allVariables = s.allVariables ++ added ∧
    added.map VariableInfo.untimed = ds.map (f.initialInfo index)

theorem nextSeq_withVariables :
    (s.withVariables index f ds).nextSeq = s.nextSeq + ds.length := by
  induction ds generalizing s with
  | nil => rfl
  | cons d ds ih =>
    have hfirst : (s.withVariable f.id (f.variableId index d) d).nextSeq = s.nextSeq + 1 := rfl
    rw [withVariables, ih, hfirst, List.length_cons]
    omega

theorem ids_withVariables :
    (s.withVariables index f ds).nodes.map Node.id =
      s.nodes.map Node.id ++ ds.map (f.variableId index) := by
  induction ds generalizing s with
  | nil => exact (List.append_nil _).symm
  | cons d ds ih =>
    have hfirst : (s.withVariable f.id (f.variableId index d) d).nodes.map Node.id =
        s.nodes.map Node.id ++ [f.variableId index d] := withNode_ids _
    rw [withVariables, ih, hfirst, List.append_assoc, List.map_cons, List.singleton_append]

/-- Only the folder and the new nodes are others than before. -/
theorem Registrable.node?_of_not_mem (h : s.Registrable index f ds) {j : NodeId} (hj : j ≠ f.id)
    (hnew : j ∉ ds.map (f.variableId index)) :
    (s.withVariables index f ds).node? j = s.node? j := by
  induction ds generalizing s with
  | nil => rfl
  | cons d ds ih =>
    obtain ⟨hfirst, hothers⟩ := registrable_cons_iff.mp h
    rw [List.map_cons, List.mem_cons, not_or] at hnew
    rw [withVariables, ih hothers hnew.2, node?_withVariable hfirst.vacant, if_neg hnew.1,
      if_neg hj]

/-- The folder has the new nodes as further children. -/
theorem Registrable.node?_folder (h : s.Registrable index f ds) {seq : Nat} {node : FolderNode}
    (hnode : s.node? f.id = some ⟨f.id, seq, .folder node⟩) :
    (s.withVariables index f ds).node? f.id = some ⟨f.id, seq,
      .folder { node with children := node.children ++ ds.map (f.variableId index) }⟩ := by
  induction ds generalizing s node with
  | nil => simpa [withVariables] using hnode
  | cons d ds ih =>
    obtain ⟨hfirst, hothers⟩ := registrable_cons_iff.mp h
    -- the children of the others come after the one of the first definition
    have hgrown : (s.withVariable f.id (f.variableId index d) d).node? f.id = some ⟨f.id, seq,
        .folder { node with children := node.children ++ [f.variableId index d] }⟩ := by
      rw [node?_withVariable hfirst.vacant, if_neg hfirst.vacant.parent_ne, if_pos rfl, hnode]
      rfl
    rw [withVariables, ih hothers hgrown, List.append_assoc, List.map_cons, List.singleton_append]

/-- Every definition has its variable. -/
theorem Registrable.node?_created (h : s.Registrable index f ds) {k : Nat}
    (hd : ds[k]? = some d) :
    ∃ stamp, (s.withVariables index f ds).node? (f.variableId index d) =
      some ⟨f.variableId index d, s.nextSeq + k,
        .scalar ⟨d.name, d.type, d.value, .readWrite, stamp⟩⟩ := by
  induction ds generalizing s k with
  | nil => simp at hd
  | cons x ds ih =>
    obtain ⟨hfirst, hothers⟩ := registrable_cons_iff.mp h
    cases k with
    | zero =>
      -- the first variable stays as it is when the others are created
      rw [List.getElem?_cons_zero, Option.some.injEq] at hd
      subst hd
      have hnew : f.variableId index x ∉ ds.map (f.variableId index) :=
        mt variableId_mem_iff.mp (List.nodup_cons.mp h.names_nodup).1
      refine ⟨s.clock, ?_⟩
      rw [withVariables, hothers.node?_of_not_mem hfirst.vacant.parent_ne.symm hnew,
        node?_withVariable hfirst.vacant, if_pos rfl]
      rfl
    | succ k =>
      -- the others are numbered from the next number on
      rw [List.getElem?_cons_succ] at hd
      obtain ⟨stamp, hstamp⟩ := ih hothers hd
      have hseq : (s.withVariable f.id (f.variableId index x) x).nextSeq = s.nextSeq + 1 := rfl
      refine ⟨stamp, ?_⟩
      rw [withVariables, hstamp, hseq, Nat.add_right_comm, Nat.add_assoc]

/-- Definitions that can be registered leave behind what they should. -/
theorem Registrable.furnished (h : s.Registrable index f ds) (hwell : s.WellFormed) :
    s.Furnished index f ds (s.withVariables index f ds) where
  namespaces := withVariables_namespaces
  nextSeq := nextSeq_withVariables
  ids := ids_withVariables
  created _ _ hd := h.node?_created hd
  folder _ _ hnode := h.node?_folder hnode
  others _ hj hnew := h.node?_of_not_mem hj hnew
  listed := h.exists_allVariables hwell

/-- Where there is a node afterwards, the place was taken before or has been by one of the
definitions. -/
theorem Furnished.taken (h : s.Furnished index f ds t)
    (hnode : t.node? (f.variableId index d) ≠ none) : s.Taken index f ds d := by
  rw [Ne, node?_eq_none_iff, not_not, h.ids, List.mem_append] at hnode
  rcases hnode with hold | hnew
  · exact .inl fun hnone => node?_eq_none_iff.mp hnone hold
  · exact .inr (variableId_mem_iff.mp hnew)

/-! ## Both ends -/

/-- Every folder that has been handed out in a run is there. -/
theorem Run.denotes {history : List Event} (hrun : Run history s) :
    ∀ f ∈ handedOut history, s.Denotes f := by
  induction hrun with
  | start =>
    intro f hf
    rw [List.mem_singleton.mp hf]
    exact spelled_empty.root
  | @call history s c hrun _ ih =>
    have heffect := perform_effect c s
    intro f hf
    rw [handedOut, List.filterMap_append, ← List.cons_append, List.mem_append] at hf
    rcases hf with hf | hf
    · exact (ih f hf).effect heffect
    · -- the folder that the last call was answered with
      obtain ⟨e, he, hfolder⟩ := List.mem_filterMap.mp hf
      rw [List.mem_singleton.mp he] at hfolder
      have hanswer : (c.perform.run s).result = .ok (.folder f) := by
        unfold Event.folder? at hfolder
        split at hfolder
        · rename_i heq
          rw [← Option.some.inj hfolder]
          exact heq
        · cases hfolder
      rw [hanswer] at heffect
      exact heffect.denotes

/-- Where a registration ends that is refused: at a definition, with others before and after it. -/
structure Stopped (s : AddressSpace) (index : UInt16) (f : Folder)
    (done : List VariableDefinition) (d : VariableDefinition) (rest : List VariableDefinition)
    (e : Error) (t : AddressSpace) : Prop where
  /-- Nothing is in the way of the definitions before. -/
  clear : done = [] ∨ s.Clear index f done
  /-- Something is in the way of this one, and this is the reason that is given. -/
  obstacle : s.Obstacle index f done d e
  /-- The definitions before could have been registered alone. -/
  alone : ((Registration.registerAll index f.backend done).run s).result =
    .ok (done.map (f.registered index))
  /-- This would have led to the same. -/
  same : t = ((Registration.registerAll index f.backend done).run s).state
  /-- They have their variables. -/
  furnished : s.Furnished index f done t
  /-- Of the others, there is nothing but where a place was taken before or has been by one of
  those. -/
  nothing : ∀ x ∈ d :: rest, t.node? (f.variableId index x) ≠ none → s.Taken index f done x

/-- In every address space that a run ends in and every folder that has been handed out, a
registration succeeds exactly if nothing is in its way, and then creates the variables and nothing
else; and otherwise it is refused at the first definition with an obstacle, for this, after the
definitions before have been registered. -/
theorem registerAll_exact {history : List Event} (hrun : Run history s)
    (hf : f ∈ handedOut history) (index : UInt16) (ds : List VariableDefinition) :
    ((∃ rs, ((Registration.registerAll index f.backend ds).run s).result = .ok rs) ↔
        ds = [] ∨ s.Clear index f ds) ∧
      (∀ rs, ((Registration.registerAll index f.backend ds).run s).result = .ok rs →
        rs = ds.map (f.registered index) ∧
          s.Furnished index f ds ((Registration.registerAll index f.backend ds).run s).state) ∧
      ∀ e, ((Registration.registerAll index f.backend ds).run s).result = .error e →
        ∃ done d rest, ds = done ++ d :: rest ∧
          s.Stopped index f done d rest e
            ((Registration.registerAll index f.backend ds).run s).state := by
  have hwell := hrun.wellFormed
  obtain ⟨node, hnode, -⟩ := hrun.denotes f hf
  have hfolder : ∃ node, s.folder? f.id = some node := ⟨node, hnode⟩
  refine ⟨⟨?_, ?_⟩, ?_, ?_⟩
  · rintro ⟨rs, hrs⟩
    exact (registrable_iff hfolder).mp (registrable_of_registerAll hrs)
  · intro hclear
    exact ⟨_, (registerAll_of_registrable ((registrable_iff hfolder).mpr hclear)).1⟩
  · intro rs hrs
    have hregistrable := registrable_of_registerAll hrs
    obtain ⟨hresult, hstate⟩ := registerAll_of_registrable hregistrable
    rw [hresult] at hrs
    rw [hstate]
    exact ⟨(Except.ok.inj hrs).symm, hregistrable.furnished hwell⟩
  · intro e he
    -- the definitions before the first obstacle have been registered as if they were alone
    obtain ⟨done, d, rest, rfl, hdone, hobstacle⟩ := exists_obstacle_of_registerAll hfolder he
    obtain ⟨-, hstate⟩ := registerAll_of_obstacle hfolder hdone hobstacle rest
    obtain ⟨halone, hsame⟩ := registerAll_of_registrable hdone
    have hfurnished := hdone.furnished hwell
    rw [hstate]
    exact ⟨done, d, rest, rfl, (registrable_iff hfolder).mp hdone, hobstacle, halone, hsame.symm,
      hfurnished, fun x _ => hfurnished.taken⟩

/-- A registration that ends at the second variable of a name. -/
theorem registerAll_exact_plant :
    ∃ s, Run [⟨.registerNamespace "urn:plant", .ok (.index 1)⟩,
          ⟨.addFolder objects 1 "Plant", .ok (.folder ⟨⟨1, "Plant"⟩, "Plant"⟩)⟩] s ∧
      ∃ done d rest,
        [⟨"On", .boolean true, .boolean⟩, ⟨"On", .boolean false, .boolean⟩] = done ++ d :: rest ∧
          s.Stopped 1 ⟨⟨1, "Plant"⟩, "Plant"⟩ done d rest (.duplicateNode "ns=1;s=Plant/On;")
            ((Registration.registerAll 1 (Folder.backend ⟨⟨1, "Plant"⟩, "Plant"⟩)
              [⟨"On", .boolean true, .boolean⟩, ⟨"On", .boolean false, .boolean⟩]).run s).state := by
  have hrun := (Run.start.call (.registerNamespace "urn:plant") trivial).call
    (.addFolder objects 1 "Plant") (List.mem_cons_self ..)
  have hfolder : (⟨⟨1, "Plant"⟩, "Plant"⟩ : Folder) ∈ handedOut
      [⟨.registerNamespace "urn:plant", .ok (.index 1)⟩,
        ⟨.addFolder objects 1 "Plant", .ok (.folder ⟨⟨1, "Plant"⟩, "Plant"⟩)⟩] :=
    List.mem_cons_of_mem _ (List.mem_cons_self ..)
  exact ⟨_, hrun, (registerAll_exact hrun hfolder 1
    [⟨"On", .boolean true, .boolean⟩, ⟨"On", .boolean false, .boolean⟩]).2.2 _ rfl⟩

end ScalarServer.AddressSpace
