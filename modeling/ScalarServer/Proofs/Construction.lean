import ScalarServer.Proofs.AddressSpace.Spelling
import ScalarServer.Proofs.Registration.Obstacles

/-!
# Address spaces as they are built

Those who build an address space register namespaces, create folders and register variables in
folders that they have been handed, and change variables. Each of these may be refused, and a
registration may end half-way. Every node then has an identifier that spells the way to it, and
every folder that was handed out is there.

- `Order`, `Built`: what can be asked for, and the address spaces that this leads to;
- `Spelled.effect`, `Denotes.effect`: what a call keeps;
- `registerAll_invariant`: what a registration keeps, wherever it ends;
- `Order.keeps`: what an order keeps;
- `addFolder_ne_unknownNode`, `registerAll_ne_unknownNode`: no folder that was handed out is
  missing;
- `spelled_of_built`: identifiers spell ways in every address space that has been built so.
-/

namespace ScalarServer.AddressSpace

variable {s t : AddressSpace} {c : Call} {f : Folder} {index : UInt16} {d : VariableDefinition}
  {ds : List VariableDefinition}

/-- Something that is asked for by those who build an address space. -/
inductive Order where
  /-- To call an operation. -/
  | call (c : Call)
  /-- To register variables in a folder. -/
  | registerAll (index : UInt16) (folder : Folder) (ds : List VariableDefinition)

/-- What is done. -/
def Order.perform : Order → Action AddressSpace Answer
  | .call c => c.perform
  | .registerAll index f ds =>
    (fun _ => .done) <$> Registration.registerAll index f.backend ds

/-- Whether something is created in folders out of a list only, and variables are created by
registration only. -/
def Order.Within (folders : List Folder) : Order → Prop
  | .call (.addVariable _ _ _) => False
  | .call c => c.Within folders
  | .registerAll _ f _ => f ∈ folders

/-- The folder in an answer, in a list. -/
def newFolders : Except Error Answer → List Folder
  | .ok (.folder f) => [f]
  | _ => []

theorem eq_of_mem_newFolders {answer : Except Error Answer} (h : f ∈ newFolders answer) :
    answer = .ok (.folder f) := by
  rcases answer with e | ⟨index | g | _⟩
  · cases h
  · cases h
  · rw [List.mem_singleton.mp h]
  · cases h

/-- The address spaces that orders lead to, with the folders that have been handed out. -/
inductive Built : List Folder → AddressSpace → Prop
  | start : Built [objects] empty
  | order {folders : List Folder} {s : AddressSpace} (o : Order) (hbuilt : Built folders s)
      (hwithin : o.Within folders) :
      Built (folders ++ newFolders (o.perform.run s).result) (o.perform.run s).state

/-! ## Calls -/

/-- A folder in hand stays what it is, whatever is called. -/
theorem Denotes.effect (hf : s.Denotes f) {answer : Except Error Answer}
    (heffect : Effect s c answer t) : t.Denotes f := by
  cases heffect with
  | refused => exact hf
  | known => exact hf
  | registered => exact hf
  | folder hfits => exact hf.withNode hfits.vacant _
  | scalar hfits => exact hf.withNode hfits.vacant _
  | access =>
    rw [Denotes, withAccess, folder?_updateNode_onVariable]
    exact hf
  | @value id value =>
    have hsame : (s.withValue id value).folder? f.id = s.folder? f.id :=
      folder?_updateNode_onVariable _ f.id
    rw [Denotes, hsame]
    exact hf

/-- A folder that a call is answered with is there. -/
theorem Effect.denotes (heffect : Effect s c (.ok (.folder f)) t) : t.Denotes f := by
  cases heffect with
  | folder hfits => exact ⟨_, folder?_withNode_self hfits.vacant _, rfl⟩

/-- Identifiers stay right if folders are created in folders that are there. -/
theorem Spelled.effect (h : s.Spelled) {answer : Except Error Answer}
    (heffect : Effect s c answer t) {folders : List Folder} (hfolders : ∀ f ∈ folders, s.Denotes f)
    (hwithin : (Order.call c).Within folders) : t.Spelled := by
  cases heffect with
  | refused => exact h
  | known => exact h
  | registered =>
    -- the nodes are the same, and there is one more namespace to know
    refine h.congr (h.wellFormed.congr rfl rfl) (fun _ => rfl) (fun _ => rfl) ?_
    rw [List.length_append]
    exact Nat.le_add_right _ _
  | @folder parent index name hfits =>
    refine h.withNode (.folder ⟨name, _, []⟩) (hfolders parent hwithin) hfits.known hfits.segment
      hfits.vacant rfl ?_
    rintro d ⟨⟩
    rfl
  | scalar =>
    -- nobody creates a variable by a call of their own
    exact absurd hwithin id
  | access => exact h.onVariable _ fun _ => rfl
  | @value id value =>
    have hvalue : (updateNode id (AddressSpace.onVariable fun v =>
        { v with value, stamp := s.clock }) s).Spelled := h.onVariable _ fun _ => rfl
    exact hvalue.withClock _

/-! ## Registration -/

theorem Denotes.withVariable {g : Folder} (hg : s.Denotes g)
    (hfits : s.VariableFits f.id (f.variableId index d) d) :
    (s.withVariable f.id (f.variableId index d) d).Denotes g :=
  hg.withNode hfits.vacant _

theorem Spelled.withVariable (h : s.Spelled) (hf : s.Denotes f)
    (hfits : s.VariableFits f.id (f.variableId index d) d) :
    (s.withVariable f.id (f.variableId index d) d).Spelled := by
  have hsegment := (validate_eq_ok_iff.mp hfits.valid).1
  have hnode := h.withNode (.scalar (s.writableVariable d)) hf hfits.knows hsegment hfits.vacant rfl
    nofun
  exact hnode.withClock _

/-- What one more variable keeps is kept by a registration, however far it comes. -/
theorem registerAll_invariant {P : AddressSpace → Prop} (hs : P s)
    (hstep : ∀ {u : AddressSpace} {d : VariableDefinition}, P u →
      u.VariableFits f.id (f.variableId index d) d →
      P (u.withVariable f.id (f.variableId index d) d)) (ds : List VariableDefinition) :
    P ((Registration.registerAll index f.backend ds).run s).state := by
  rw [Registration.registerAll_state]
  -- by induction on the definitions: the first refusal ends it, and has changed nothing
  induction ds generalizing s with
  | nil => exact hs
  | cons d ds ih =>
    rw [Registration.registerEach, Action.bind_state]
    by_cases hfits : s.VariableFits f.id (f.variableId index d) d
    · obtain ⟨hresult, hstate⟩ := registerOne_of_fits hfits
      rw [hresult, hstate]
      dsimp only
      -- the others are tried from here; their answer does not matter
      rw [Action.bind_state]
      split
      · exact ih (hstep hs hfits)
      · exact ih (hstep hs hfits)
    · obtain ⟨⟨e, hresult⟩, hstate⟩ := registerOne_of_not_fits hfits
      rw [hresult, hstate]
      exact hs

/-! ## Refusals -/

/-- In a folder that is there, only the identifier can be in the way. -/
theorem insertChild_error {parent id : NodeId} {kind : NodeKind} {e : Error}
    (hparent : ∃ node, s.folder? parent = some node)
    (h : ((insertChild parent id kind).run s).result = .error e) : e = .duplicateNode id.text := by
  obtain ⟨node, hnode⟩ := hparent
  cases hid : s.node? id with
  | none => simp [insertChild, hnode, hid] at h
  | some n =>
    simp only [insertChild, Action.bind_result, Action.run_state, hnode, hid] at h
    cases h
    rfl

theorem checkNamespace_error {e : Error} (h : ((checkNamespace index).run s).result = .error e) :
    e = .unknownNamespace index := by
  by_cases hknown : s.Knows index
  · rw [checkNamespace_of_knows hknown] at h
    cases h
  · rw [checkNamespace_of_not_knows hknown] at h
    cases h
    rfl

/-- A folder that was handed out is not missed when another one is created in it. -/
theorem addFolder_ne_unknownNode {name : String} {e : Error} (hf : s.Denotes f)
    (h : ((addFolder f index name).run s).result = .error e) (reason : String) :
    e ≠ .unknownNode reason := by
  obtain ⟨node, hnode, -⟩ := hf
  -- the checks, in the order in which they are made
  rcases Action.bind_result_eq_error_iff.mp h with hcheck | ⟨_, -, h⟩
  · rw [checkNamespace_error hcheck]
    nofun
  · rw [checkNamespace_state] at h
    split at h
    · cases h
      nofun
    · rcases Action.bind_result_eq_error_iff.mp h with hinsert | ⟨_, -, h⟩
      · rw [insertChild_error ⟨node, hnode⟩ hinsert]
        nofun
      · cases h

/-- Nor is it missed by a registration, wherever that ends. -/
theorem registerAll_ne_unknownNode {e : Error} (hf : s.Denotes f)
    (h : ((Registration.registerAll index f.backend ds).run s).result = .error e)
    (reason : String) : e ≠ .unknownNode reason := by
  obtain ⟨node, hnode, -⟩ := hf
  obtain ⟨done, d, rest, -, -, hobstacle⟩ := exists_obstacle_of_registerAll ⟨node, hnode⟩ h
  exact hobstacle.ne_unknownNode reason

/-! ## Address spaces -/

/-- What an order keeps: identifiers are right, and the folders in hand are there, the one that
it is answered with among them. -/
theorem Order.keeps (o : Order) {folders : List Folder} (hspelled : s.Spelled)
    (hfolders : ∀ f ∈ folders, s.Denotes f) (hwithin : o.Within folders) :
    (o.perform.run s).state.Spelled ∧
      ∀ f ∈ folders ++ newFolders (o.perform.run s).result, (o.perform.run s).state.Denotes f := by
  cases o with
  | call c =>
    have heffect := perform_effect c s
    refine ⟨hspelled.effect heffect hfolders hwithin, fun f hf => ?_⟩
    rcases List.mem_append.mp hf with hf | hf
    · exact (hfolders f hf).effect heffect
    · have hresult : (c.perform.run s).result = .ok (.folder f) := eq_of_mem_newFolders hf
      rw [hresult] at heffect
      exact heffect.denotes
  | registerAll index g ds =>
    -- every variable on the way keeps both
    have hkept : ((Registration.registerAll index g.backend ds).run s).state.Spelled ∧
        ∀ f ∈ folders, ((Registration.registerAll index g.backend ds).run s).state.Denotes f :=
      registerAll_invariant (P := fun u => u.Spelled ∧ ∀ f ∈ folders, u.Denotes f)
        ⟨hspelled, hfolders⟩
        (fun hu hfits => ⟨hu.1.withVariable (hu.2 g hwithin) hfits,
          fun f hf => (hu.2 f hf).withVariable hfits⟩) ds
    rw [Order.perform, Action.map_state]
    refine ⟨hkept.1, fun f hf => ?_⟩
    rcases List.mem_append.mp hf with hf | hf
    · exact hkept.2 f hf
    · -- a registration is not answered with a folder
      have hresult := eq_of_mem_newFolders hf
      rw [Action.map_result] at hresult
      cases hall : ((Registration.registerAll index g.backend ds).run s).result with
      | ok registered =>
        rw [hall] at hresult
        cases hresult
      | error e =>
        rw [hall] at hresult
        cases hresult

theorem Built.spelled_and_denotes {folders : List Folder} (h : Built folders s) :
    s.Spelled ∧ ∀ f ∈ folders, s.Denotes f := by
  induction h with
  | start =>
    refine ⟨spelled_empty, fun f hf => ?_⟩
    rw [List.mem_singleton.mp hf]
    exact spelled_empty.root
  | order o _ hwithin ih => exact o.keeps ih.1 ih.2 hwithin

/-- In every address space that has been built, the identifier of every node below the Objects
folder spells the one way to it. Every folder that was handed out is there with its path, and is
never missed by what creates something in it. -/
theorem spelled_of_built {folders : List Folder} (h : Built folders s) :
    (∀ id n, s.node? id = some n → id ≠ objectsId → ∃ way names, s.Spells id way names) ∧
      ∀ f ∈ folders, s.Denotes f ∧
        (∀ index name e, ((addFolder f index name).run s).result = .error e →
          ∀ reason, e ≠ .unknownNode reason) ∧
        ∀ index ds e, ((Registration.registerAll index f.backend ds).run s).result = .error e →
          ∀ reason, e ≠ .unknownNode reason := by
  obtain ⟨hspelled, hfolders⟩ := h.spelled_and_denotes
  refine ⟨fun id n hn hid => hspelled.spells hn hid, fun f hf => ⟨hfolders f hf, ?_, ?_⟩⟩
  · exact fun index name e he => addFolder_ne_unknownNode (hfolders f hf) he
  · exact fun index ds e he => registerAll_ne_unknownNode (hfolders f hf) he

/-- A folder in which a registration has ended half-way: the name of the second variable has a
slash. -/
theorem spelled_of_built_plant :
    ∃ s, Built [objects, ⟨⟨1, "Plant"⟩, "Plant"⟩] s ∧
      (∃ way names, s.Spells ⟨1, "Plant/On"⟩ way names) ∧
      s.Denotes ⟨⟨1, "Plant"⟩, "Plant"⟩ := by
  have hbuilt := ((Built.start.order (.call (.registerNamespace "urn:plant")) trivial).order
    (.call (.addFolder objects 1 "Plant")) (List.mem_cons_self ..)).order
    (.registerAll 1 ⟨⟨1, "Plant"⟩, "Plant"⟩
      [⟨"On", .boolean true, .boolean⟩, ⟨"On/Off", .boolean true, .boolean⟩])
    (List.mem_cons_of_mem _ (List.mem_cons_self ..))
  obtain ⟨hspells, hfolders⟩ := spelled_of_built hbuilt
  exact ⟨_, hbuilt, hspells ⟨1, "Plant/On"⟩ _ rfl (by decide),
    (hfolders _ (List.mem_cons_of_mem _ (List.mem_cons_self ..))).1⟩

end ScalarServer.AddressSpace
