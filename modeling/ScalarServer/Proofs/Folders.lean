import ScalarServer.Proofs.Registration
import ScalarServer.Startup

/-!
# Folders inside each other

The folders that lead down to the variables, each inside the one before it, in an address space
that holds nothing else. Only two things can be wrong with their names: a semicolon, and that the
outermost folder would be the Objects folder itself.

- `Chain s index path`: the address space holds the folders along a path, and no more;
- `Chain.step`: one more folder;
- `addFolders_of_names`, `names_of_addFolders`: the folders of a configuration from both sides;
- `Chain.registrable_iff`: what can be wrong with the variables in the innermost folder.
-/

namespace ScalarServer

open AddressSpace

/-- The folder that lies under some names; under none it is the Objects folder. -/
def folderAt (index : UInt16) (path : List String) : Folder :=
  ⟨if path = [] then objectsId else ⟨index, "/".intercalate path⟩, "/".intercalate path⟩

/-- Only at the top can something be taken for the Objects folder. -/
def HidesObjects (index : UInt16) (path : List String) : Prop :=
  index = 0 ∧ path = [objectsName]

variable {s : AddressSpace} {index : UInt16} {path : List String} {name : String}

@[simp]
theorem folderAt_nil (index : UInt16) : folderAt index [] = objects := rfl

@[simp]
theorem folderAt_concat : folderAt index (path ++ [name]) =
    ⟨⟨index, "/".intercalate (path ++ [name])⟩, "/".intercalate (path ++ [name])⟩ := by
  simp [folderAt]

theorem slash_mem_intercalate (hpath : path ≠ []) (name : String) :
    '/' ∈ ("/".intercalate (path ++ [name])).toList := by
  rw [toList_intercalate_concat hpath]
  simp

/-- Below the top, no path is taken for the Objects folder. -/
theorem not_hidesObjects_of_ne_nil (hpath : path ≠ []) (more : List String) (hmore : more ≠ []) :
    ¬ HidesObjects index (path ++ more) := by
  rintro ⟨-, heq⟩
  have hlength := congrArg List.length heq
  have hpos := List.length_pos_iff.mpr hpath
  have hpos' := List.length_pos_iff.mpr hmore
  simp only [List.length_append, List.length_cons, List.length_nil] at hlength
  omega

/-- Names have no slashes, so the Objects folder can only be hidden by its own name. -/
theorem id_eq_objectsId_iff (hpath : path ≠ []) :
    (⟨index, "/".intercalate path⟩ : NodeId) = objectsId ↔ HidesObjects index path := by
  unfold objectsId HidesObjects
  rw [NodeId.mk.injEq]
  refine and_congr_right fun _ => ⟨?_, ?_⟩
  · intro heq
    rcases List.eq_nil_or_concat path with rfl | ⟨upper, last, rfl⟩
    · exact absurd rfl hpath
    · rw [List.concat_eq_append] at heq ⊢
      by_cases hupper : upper = []
      · simpa [hupper] using heq
      · -- a path of several names has a slash, the name of the Objects folder has none
        have hslash := slash_mem_intercalate hupper last
        rw [heq] at hslash
        exact absurd hslash (by decide)
  · rintro rfl
    rfl

/-- A longer path makes another identifier. -/
theorem intercalate_append_ne (hpath : path ≠ []) {more : List String} (hmore : more ≠ []) :
    "/".intercalate (path ++ more) ≠ "/".intercalate path := by
  intro heq
  rw [String.intercalate_append_of_ne_nil hpath hmore] at heq
  have hlength := congrArg (fun text => text.toList.length) heq
  simp [String.toList_append] at hlength

/-- The address space holds the folders along a path, each inside the one before it, and no more
than these. -/
structure Chain (s : AddressSpace) (index : UInt16) (path : List String) : Prop where
  /-- The nodes are in order. -/
  wellFormed : s.WellFormed
  /-- The namespace of the folders is registered. -/
  known : s.Knows index
  /-- The path consists of names. -/
  names : ∀ name ∈ path, IsName name
  /-- The innermost folder is there. -/
  folder : ∃ f, s.folder? (folderAt index path).id = some f
  /-- In the innermost folder there is nothing. -/
  free : ∀ more : List String, more ≠ [] → ¬ HidesObjects index (path ++ more) →
    s.node? ⟨index, "/".intercalate (path ++ more)⟩ = none
  /-- There is one node for each name, and the Objects folder. -/
  count : s.nodeCount = 1 + path.length
  /-- There are no variables. -/
  noVariables : s.allVariables = []

/-- The address space with nothing in it but the Objects folder is an empty chain. -/
theorem chain_nil (hnodes : s.nodes = empty.nodes) (hseq : s.nextSeq = empty.nextSeq)
    (hknown : s.Knows index) : Chain s index [] where
  wellFormed := wellFormed_empty.congr hnodes hseq
  known := hknown
  names := by simp
  folder := (wellFormed_empty.congr hnodes hseq).root
  free := by
    intro more hmore hhides
    rw [List.nil_append] at hhides ⊢
    have hne := mt (id_eq_objectsId_iff hmore).mp hhides
    rw [node?_eq_none_iff, hnodes]
    simpa [empty] using hne
  count := by simp [nodeCount, hnodes, empty]
  noVariables := by
    rw [allVariables_eq_filterMap (wellFormed_empty.congr hnodes hseq), hnodes]
    rfl

namespace Chain

/-- The identifiers of what lies in the innermost folder. -/
theorem inFolder_eq (h : Chain s index path) (name : String) :
    NodeId.inFolder index (folderAt index path).path name =
      ⟨index, "/".intercalate (path ++ [name])⟩ :=
  inFolder_intercalate index h.names name

/-- In the innermost folder, there is room for everything but the Objects folder. -/
theorem vacant_iff (h : Chain s index path) (name : String) :
    s.Vacant (folderAt index path).id ⟨index, "/".intercalate (path ++ [name])⟩ ↔
      ¬ HidesObjects index (path ++ [name]) := by
  have hne : path ++ [name] ≠ [] := by simp
  constructor
  · rintro ⟨-, hnone⟩ hhides
    obtain ⟨f, hf⟩ := h.wellFormed.root
    obtain ⟨seq, hnode⟩ := folder?_eq_some_iff.mp hf
    rw [(id_eq_objectsId_iff hne).mpr hhides, hnode] at hnone
    cases hnone
  · intro hhides
    exact ⟨h.folder, h.free [name] (List.cons_ne_nil _ _) hhides⟩

/-- One more folder in the innermost one. -/
theorem step (h : Chain s index path) (hname : IsName name)
    (hhides : ¬ HidesObjects index (path ++ [name])) (f : FolderNode)
    (hchildren : f.children = []) :
    Chain (withNode (folderAt index path).id ⟨index, "/".intercalate (path ++ [name])⟩
      (.folder f) s) index (path ++ [name]) where
  wellFormed := h.wellFormed.withNode ((h.vacant_iff name).mpr hhides) hchildren
  known := h.known
  names := by
    intro other hother
    rcases List.mem_append.mp hother with hother | hother
    · exact h.names other hother
    · rw [List.mem_singleton.mp hother]
      exact hname
  folder := by
    rw [folderAt_concat]
    exact ⟨f, folder?_withNode_self ((h.vacant_iff name).mpr hhides) f⟩
  free := by
    intro more hmore hhidden
    rw [node?_withNode_eq_none_iff ((h.vacant_iff name).mpr hhides)]
    constructor
    · -- what lies in the new folder has a longer path than the folder
      intro heq
      exact intercalate_append_ne (by simp) hmore (congrArg NodeId.identifier heq)
    · rw [List.append_assoc] at hhidden ⊢
      exact h.free ([name] ++ more) (by simp) hhidden
  count := by
    rw [nodeCount_withNode, h.count, List.length_append, List.length_singleton]
    omega
  noVariables := by
    have hkind : (NodeKind.folder f).children = [] := hchildren
    rw [allVariables_withNode h.wellFormed ((h.vacant_iff name).mpr hhides) hkind, h.noVariables]
    rfl

/-- When one more folder can be created in the innermost one. -/
theorem folderFits_iff (h : Chain s index path) (hname : IsName name) :
    s.FolderFits (folderAt index path) index name ↔
      ';' ∉ name.toList ∧ ¬ HidesObjects index (path ++ [name]) := by
  constructor
  · rintro ⟨-, hsegment, hvacant⟩
    rw [h.inFolder_eq] at hvacant
    exact ⟨(isPathSegment_of_isName hname).mp hsegment, (h.vacant_iff name).mp hvacant⟩
  · rintro ⟨hsemicolon, hhides⟩
    refine ⟨h.known, (isPathSegment_of_isName hname).mpr hsemicolon, ?_⟩
    rw [h.inFolder_eq]
    exact (h.vacant_iff name).mpr hhides

end Chain

/-! ## The folders of a configuration -/

/-- One more folder in the innermost one, as the operation creates it. -/
theorem addFolder_of_chain (h : Chain s index path) (hname : IsName name)
    (hsemicolon : ';' ∉ name.toList) (hhides : ¬ HidesObjects index (path ++ [name])) :
    ((addFolder (folderAt index path) index name).run s).result =
        .ok (folderAt index (path ++ [name])) ∧
      Chain ((addFolder (folderAt index path) index name).run s).state index (path ++ [name]) ∧
      ((addFolder (folderAt index path) index name).run s).state.namespaces = s.namespaces := by
  obtain ⟨hresult, hstate⟩ :=
    addFolder_of_fits ((h.folderFits_iff hname).mpr ⟨hsemicolon, hhides⟩)
  rw [h.inFolder_eq] at hresult hstate
  rw [hresult, hstate, folderAt_concat]
  exact ⟨rfl, h.step hname hhides _ rfl, rfl⟩

/-- Folders are created, each inside the one before it, if there is no semicolon in their names and
the outermost one does not take the place of the Objects folder. -/
theorem addFolders_of_names (h : Chain s index path) {names : List String}
    (hnames : ∀ name ∈ names, IsName name) (hsemicolon : ∀ name ∈ names, ';' ∉ name.toList)
    (hhides : ∀ name ∈ names.head?, ¬ HidesObjects index (path ++ [name])) :
    ((addFolders index (folderAt index path) names).run s).result =
        .ok (folderAt index (path ++ names)) ∧
      Chain ((addFolders index (folderAt index path) names).run s).state index (path ++ names) ∧
      ((addFolders index (folderAt index path) names).run s).state.namespaces =
        s.namespaces := by
  induction names generalizing s path with
  | nil =>
    rw [List.append_nil]
    exact ⟨rfl, h, rfl⟩
  | cons name names ih =>
    rw [List.forall_mem_cons] at hnames hsemicolon
    obtain ⟨hresult, hchain, hnamespaces⟩ :=
      addFolder_of_chain h hnames.1 hsemicolon.1 (hhides name rfl)
    -- only the first of the folders can be at the top
    have hbelow : ∀ other ∈ names.head?, ¬ HidesObjects index (path ++ [name] ++ [other]) :=
      fun other _ => not_hidesObjects_of_ne_nil (by simp) [other] (List.cons_ne_nil _ _)
    obtain ⟨hresult', hchain', hnamespaces'⟩ := ih hchain hnames.2 hsemicolon.2 hbelow
    rw [List.append_assoc, List.singleton_append] at hresult' hchain'
    rw [addFolders]
    simp only [Action.bind_result, Action.bind_state, hresult]
    exact ⟨hresult', hchain', hnamespaces'.trans hnamespaces⟩

/-- If folders have been created, there was nothing wrong with their names. -/
theorem names_of_addFolders (h : Chain s index path) {names : List String}
    (hnames : ∀ name ∈ names, IsName name) {f : Folder}
    (hresult : ((addFolders index (folderAt index path) names).run s).result = .ok f) :
    (∀ name ∈ names, ';' ∉ name.toList) ∧
      ∀ name ∈ names.head?, ¬ HidesObjects index (path ++ [name]) := by
  induction names generalizing s path with
  | nil => simp
  | cons name names ih =>
    rw [List.forall_mem_cons] at hnames
    by_cases hfits : s.FolderFits (folderAt index path) index name
    · obtain ⟨hsemicolon, hhides⟩ := (h.folderFits_iff hnames.1).mp hfits
      obtain ⟨hadded, hchain, -⟩ := addFolder_of_chain h hnames.1 hsemicolon hhides
      rw [addFolders] at hresult
      obtain ⟨folder, hfolder, hothers⟩ := Action.bind_result_eq_ok_iff.mp hresult
      rw [hadded, Except.ok.injEq] at hfolder
      subst hfolder
      obtain ⟨hsemicolons, -⟩ := ih hchain hnames.2 hothers
      exact ⟨List.forall_mem_cons.mpr ⟨hsemicolon, hsemicolons⟩, by simpa using hhides⟩
    · obtain ⟨⟨e, hrefused⟩, -⟩ := addFolder_of_not_fits hfits
      simp [addFolders, hrefused] at hresult

/-! ## The variables in the innermost folder -/

/-- The variables of a list can be created in the innermost folder if each definition is in order
and no name stands twice. -/
theorem Chain.registrable_iff (h : Chain s index path) (hpath : path ≠ [])
    {ds : List VariableDefinition} :
    s.Registrable index (folderAt index path) ds ↔
      (∀ d ∈ ds, d.validate = .ok ()) ∧ (ds.map (·.name)).Nodup := by
  constructor
  · intro hregistrable
    exact ⟨fun d hd => (hregistrable.fits d hd).valid, hregistrable.names_nodup⟩
  · rintro ⟨hvalid, hnodup⟩
    refine ⟨?_, hnodup⟩
    intro d hd
    have hid : (folderAt index path).variableId index d =
        ⟨index, "/".intercalate (path ++ [d.name])⟩ := h.inFolder_eq d.name
    rw [hid]
    -- there is a folder above the variable, so it cannot be taken for the Objects folder
    refine ⟨h.known, hvalid d hd, (h.vacant_iff d.name).mpr ?_⟩
    exact not_hidesObjects_of_ne_nil hpath [d.name] (List.cons_ne_nil _ _)

end ScalarServer
