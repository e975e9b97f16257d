import ScalarServer.Proofs.Registration
import ScalarServer.Proofs.Registration.Calls

/-!
# What is in the way of a registration

In a folder that is there, a definition can be refused for three reasons: its namespace is not
registered, it is not in order, or there is a node with its identifier already. For a list of
definitions all of this can be told beforehand, since a variable that has just been registered is
in the way of later definitions with its name, and of no others.

- `Clear`, `Obstacle`: what is in the way of definitions, and the reason that is given for it;
- `Registrable.obstacle_iff`: what is in the way after other definitions;
- `registrable_or_obstacle`: where something is in the way, there is a first definition that it
  stops;
- `registerAll_of_obstacle`, `exists_obstacle_of_registerAll`: a registration that is refused, from
  both sides.
-/

namespace ScalarServer.AddressSpace

variable {s t : AddressSpace} {f : Folder} {index : UInt16} {d x : VariableDefinition}
  {ds earlier others : List VariableDefinition} {e : Error}

/-- When nothing is in the way of a list of definitions. -/
structure Clear (s : AddressSpace) (index : UInt16) (f : Folder) (ds : List VariableDefinition) :
    Prop where
  /-- The namespace is registered. -/
  known : s.Knows index
  /-- All definitions are in order. -/
  valid : ∀ d ∈ ds, d.validate = .ok ()
  /-- No name stands twice. -/
  names_nodup : (ds.map (·.name)).Nodup
  /-- There are no such nodes yet. -/
  free : ∀ d ∈ ds, s.node? (f.variableId index d) = none

/-- Whether there is a node in the place of a definition, from the start or by one of others that
have been registered before. -/
def Taken (s : AddressSpace) (index : UInt16) (f : Folder) (earlier : List VariableDefinition)
    (d : VariableDefinition) : Prop :=
  s.node? (f.variableId index d) ≠ none ∨ d.name ∈ earlier.map (·.name)

/-- What is in the way of a definition when others have been registered before, and the reason that
is given for it. Of several things, it is the first one of these. -/
inductive Obstacle (s : AddressSpace) (index : UInt16) (f : Folder)
    (earlier : List VariableDefinition) (d : VariableDefinition) : Error → Prop
  /-- The namespace is not registered. -/
  | unknown (h : ¬ s.Knows index) : Obstacle s index f earlier d (.unknownNamespace index)
  /-- The definition is not in order. -/
  | invalid {e : Error} (hknown : s.Knows index) (h : d.validate = .error e) :
      Obstacle s index f earlier d e
  /-- There is such a node. -/
  | taken (hknown : s.Knows index) (hvalid : d.validate = .ok ())
      (h : s.Taken index f earlier d) :
      Obstacle s index f earlier d (.duplicateNode (f.variableId index d).text)

theorem Obstacle.congr (h : s.Obstacle index f earlier d e)
    (hnamespaces : t.namespaces = s.namespaces)
    (htaken : s.Taken index f earlier d → t.Taken index f others d) :
    t.Obstacle index f others d e := by
  have hknows : t.Knows index ↔ s.Knows index := by rw [Knows, Knows, hnamespaces]
  cases h with
  | unknown h => exact .unknown (mt hknows.mp h)
  | invalid hknown h => exact .invalid (hknows.mpr hknown) h
  | taken hknown hvalid h => exact .taken (hknows.mpr hknown) hvalid (htaken h)

/-- That a node is missing is never a reason. -/
theorem Obstacle.ne_unknownNode (h : s.Obstacle index f earlier d e) (reason : String) :
    e ≠ .unknownNode reason := by
  cases h with
  | unknown => nofun
  | invalid _ h =>
    unfold VariableDefinition.validate at h
    split at h
    · cases h
      nofun
    · split at h <;> cases h
      nofun
  | taken => nofun

/-- In a folder that is there, the variables of a list can be created if there are none, or if
nothing is in the way. -/
theorem registrable_iff (hf : ∃ node, s.folder? f.id = some node) :
    s.Registrable index f ds ↔ ds = [] ∨ s.Clear index f ds := by
  constructor
  · intro h
    cases ds with
    | nil => exact .inl rfl
    | cons d ds =>
      have hfits := h.fits d List.mem_cons_self
      exact .inr ⟨hfits.knows, fun e he => (h.fits e he).valid, h.names_nodup,
        fun e he => (h.fits e he).vacant.2⟩
  · rintro (rfl | h)
    · exact ⟨by simp, by simp⟩
    · refine ⟨fun e he => ⟨?_, h.valid e he, hf, h.free e he⟩, h.names_nodup⟩
      rw [Folder.variableId, inFolder_namespaceIndex]
      exact h.known

/-! ## One definition -/

theorem addVariable_of_obstacle (hf : ∃ node, s.folder? f.id = some node)
    (h : s.Obstacle index f [] d e) :
    ((addVariable f.id (f.variableId index d) d).run s).result = .error e ∧
      ((addVariable f.id (f.variableId index d) d).run s).state = s := by
  have hindex : (f.variableId index d).namespaceIndex = index := inFolder_namespaceIndex ..
  -- one case for each check, all checks before it having been passed
  cases h with
  | unknown h => simp [addVariable, hindex, checkNamespace_of_not_knows h]
  | invalid hknown h => simp [addVariable, hindex, checkNamespace_of_knows hknown, h]
  | taken hknown hvalid h =>
    obtain ⟨node, hnode⟩ := hf
    have hsome : (s.node? (f.variableId index d)).isSome := by
      simpa [Option.isSome_iff_ne_none, Taken] using h
    simp [addVariable, insertChild, hindex, checkNamespace_of_knows hknown, hvalid, hnode, hsome]

/-- A definition with an obstacle is refused for it, and nothing happens. -/
theorem registerOne_of_obstacle (hf : ∃ node, s.folder? f.id = some node)
    (h : s.Obstacle index f [] d e) :
    ((Registration.registerOne index f.backend d).run s).result = .error e ∧
      ((Registration.registerOne index f.backend d).run s).state = s := by
  obtain ⟨hresult, hstate⟩ := addVariable_of_obstacle hf h
  unfold Folder.variableId at hresult hstate
  simp [Registration.registerOne, Folder.backend, hresult, hstate]

theorem exists_obstacle_of_not_fits (hf : ∃ node, s.folder? f.id = some node)
    (h : ¬ s.VariableFits f.id (f.variableId index d) d) : ∃ e, s.Obstacle index f [] d e := by
  -- the folder is there, so the checks are all that can fail
  by_cases hknown : s.Knows index
  · cases hvalid : d.validate with
    | error e => exact ⟨e, .invalid hknown hvalid⟩
    | ok _ =>
      refine ⟨_, .taken hknown hvalid (.inl fun hfree => h ⟨?_, hvalid, hf, hfree⟩)⟩
      rw [Folder.variableId, inFolder_namespaceIndex]
      exact hknown
  · exact ⟨_, .unknown hknown⟩

/-! ## After other definitions -/

/-- A variable takes the place of later definitions with its name, and of no others. -/
theorem taken_withVariable_iff (hfirst : s.VariableFits f.id (f.variableId index d) d) :
    (s.withVariable f.id (f.variableId index d) d).Taken index f earlier x ↔
      s.Taken index f (d :: earlier) x := by
  rw [Taken, Taken, Ne, node?_withVariable_eq_none_iff hfirst.vacant, Ne, variableId_eq_iff,
    not_and_or, not_not, List.map_cons, List.mem_cons, or_assoc, or_left_comm]

theorem obstacle_withVariable_iff (hfirst : s.VariableFits f.id (f.variableId index d) d) :
    (s.withVariable f.id (f.variableId index d) d).Obstacle index f earlier x e ↔
      s.Obstacle index f (d :: earlier) x e :=
  ⟨fun h => h.congr rfl (taken_withVariable_iff hfirst).mp,
    fun h => h.congr rfl (taken_withVariable_iff hfirst).mpr⟩

/-- What is in the way after some definitions can be told beforehand. -/
theorem Registrable.obstacle_iff (h : s.Registrable index f ds) :
    (s.withVariables index f ds).Obstacle index f [] x e ↔ s.Obstacle index f ds x e := by
  induction ds generalizing s with
  | nil => rfl
  | cons d ds ih =>
    obtain ⟨hfirst, hothers⟩ := registrable_cons_iff.mp h
    exact (ih hothers).trans (obstacle_withVariable_iff hfirst)

theorem Registrable.exists_folder? (h : s.Registrable index f ds)
    (hf : ∃ node, s.folder? f.id = some node) :
    ∃ node, (s.withVariables index f ds).folder? f.id = some node := by
  induction ds generalizing s with
  | nil => exact hf
  | cons d ds ih =>
    obtain ⟨hfirst, hothers⟩ := registrable_cons_iff.mp h
    exact ih hothers (exists_folder?_withVariable hfirst.vacant hf)

/-- Either the variables of all definitions can be created, or there is a first definition with an
obstacle. -/
theorem registrable_or_obstacle (hf : ∃ node, s.folder? f.id = some node) (index : UInt16)
    (ds : List VariableDefinition) :
    s.Registrable index f ds ∨ ∃ done d rest e, ds = done ++ d :: rest ∧
      s.Registrable index f done ∧ s.Obstacle index f done d e := by
  induction ds generalizing s with
  | nil => exact .inl ⟨by simp, by simp⟩
  | cons x ds ih =>
    by_cases hfirst : s.VariableFits f.id (f.variableId index x) x
    · -- the others find an address space with the first variable; what is in their way there is
      -- also in their way here, after that definition
      rcases ih (exists_folder?_withVariable hfirst.vacant hf) with
        hothers | ⟨done, d, rest, e, rfl, hdone, hobstacle⟩
      · exact .inl (registrable_cons_iff.mpr ⟨hfirst, hothers⟩)
      · exact .inr ⟨x :: done, d, rest, e, rfl, registrable_cons_iff.mpr ⟨hfirst, hdone⟩,
          (obstacle_withVariable_iff hfirst).mp hobstacle⟩
    · obtain ⟨e, hobstacle⟩ := exists_obstacle_of_not_fits hf hfirst
      exact .inr ⟨[], x, ds, e, rfl, ⟨by simp, by simp⟩, hobstacle⟩

/-! ## Registration -/

/-- A registration ends at the first definition with an obstacle, and has done what is due for
those before. -/
theorem registerAll_of_obstacle (hf : ∃ node, s.folder? f.id = some node)
    (hearlier : s.Registrable index f earlier) (h : s.Obstacle index f earlier d e)
    (rest : List VariableDefinition) :
    ((Registration.registerAll index f.backend (earlier ++ d :: rest)).run s).result = .error e ∧
      ((Registration.registerAll index f.backend (earlier ++ d :: rest)).run s).state =
        s.withVariables index f earlier := by
  obtain ⟨hresult, hstate⟩ := registerEach_of_registrable hearlier
  -- the obstacle is still there when its turn has come
  obtain ⟨hrefused, hsame⟩ :=
    registerOne_of_obstacle (hearlier.exists_folder? hf) (hearlier.obstacle_iff.mpr h)
  rw [Registration.registerAll_result, Registration.registerAll_state,
    Registration.registerEach_append]
  simp [Registration.registerEach, hresult, hstate, hrefused, hsame]

/-- Whenever a registration is refused, there is a first definition with an obstacle, and this is
the reason. -/
theorem exists_obstacle_of_registerAll (hf : ∃ node, s.folder? f.id = some node)
    (h : ((Registration.registerAll index f.backend ds).run s).result = .error e) :
    ∃ done d rest, ds = done ++ d :: rest ∧ s.Registrable index f done ∧
      s.Obstacle index f done d e := by
  rcases registrable_or_obstacle hf index ds with
    hregistrable | ⟨done, d, rest, e', rfl, hdone, hobstacle⟩
  · rw [(registerAll_of_registrable hregistrable).1] at h
    cases h
  · rw [(registerAll_of_obstacle hf hdone hobstacle rest).1] at h
    cases h
    exact ⟨done, d, rest, rfl, hdone, hobstacle⟩

end ScalarServer.AddressSpace
