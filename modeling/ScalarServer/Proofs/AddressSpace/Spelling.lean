import ScalarServer.Proofs.AddressSpace.Tree
import ScalarServer.Proofs.AddressSpace.Variables
import ScalarServer.Proofs.NodeId
import ScalarServer.Proofs.Path

/-!
# What identifiers spell

Where every node has been created under an identifier that its folder gives to its name, an
identifier spells the way to the node: the names that clients pass when they browse from the Objects
folder down to it.

- `Leads s way id`: browsing leads from the Objects folder to a node by this way;
- `WellFormed.exists_leads`, `WellFormed.leads_unique`: there is one way to every node;
- `Spelled`: every node has the identifier that its folder gives to its name;
- `Spelled.congr`, `Spelled.withNode`: changes that keep it so;
- `Spells`, `Spelled.spells`: then every identifier spells the way to its node.
-/

namespace ScalarServer

/-- The name of a node, whatever it is. -/
def NodeKind.name : NodeKind → String
  | .folder f => f.name
  | .scalar v => v.name

@[simp]
theorem name_addChild (child : NodeId) (kind : NodeKind) :
    (AddressSpace.addChild child kind).name = kind.name := by
  cases kind <;> rfl

namespace AddressSpace

open Relation

variable {s t : AddressSpace} {id parent p q c : NodeId} {way other : List NodeId} {name : String}

/-! ## Ways -/

/-- Browsing leads from the Objects folder to a node, by way of the nodes of a list, of which it is
the last. -/
inductive Leads (s : AddressSpace) : List NodeId → NodeId → Prop
  | top : Leads s [] objectsId
  | down {way : List NodeId} {p c : NodeId} (hway : Leads s way p) (hchild : s.HasChild p c) :
      Leads s (way ++ [c]) c

namespace WellFormed

theorem exists_leads (h : s.WellFormed) {n : Node} (hn : s.node? id = some n) :
    ∃ way, s.Leads way id := by
  have hreachable := h.reachable hn
  clear hn
  induction hreachable with
  | refl => exact ⟨[], .top⟩
  | tail _ hchild ih =>
    obtain ⟨way, hway⟩ := ih
    exact ⟨_, hway.down hchild⟩

theorem parent_eq (h : s.WellFormed) (hp : s.HasChild p c) (hq : s.HasChild q c) : p = q := by
  obtain ⟨m, hm, hcm⟩ := hasChild_iff.mp hp
  obtain ⟨n, hn, hcn⟩ := hasChild_iff.mp hq
  rw [← id_of_node? hm, ← id_of_node? hn,
    h.parent_unique (mem_nodes_of_node? hm) (mem_nodes_of_node? hn) hcm hcn]

/-- There is one way to every node: its last step begins at the one folder that shows the node. -/
theorem leads_unique (h : s.WellFormed) (hway : s.Leads way id) (hother : s.Leads other id) :
    other = way := by
  induction hway generalizing other with
  | top =>
    cases hother with
    | top => rfl
    | down _ hchild => exact absurd hchild (h.isTree.root_no_child _)
  | down _ hchild ih =>
    cases hother with
    | top => exact absurd hchild (h.isTree.root_no_child _)
    | down hway' hchild' =>
      rw [h.parent_eq hchild' hchild] at hway'
      rw [ih hway']

end WellFormed

theorem exists_folder_of_hasChild (h : s.HasChild p c) :
    ∃ f, s.folder? p = some f ∧ c ∈ f.children := by
  obtain ⟨children, hbrowse, hmem⟩ := h
  obtain ⟨⟨i, seq, kind⟩, hn, f, rfl, rfl⟩ := browse_eq_ok_iff.mp hbrowse
  cases id_of_node? hn
  exact ⟨f, folder?_eq_some_iff.mpr ⟨seq, hn⟩, hmem⟩

/-! ## Names and folders -/

/-- The name of the node with an identifier. -/
def nodeName? (s : AddressSpace) (id : NodeId) : Option String :=
  (s.node? id).map (·.kind.name)

/-- A folder that someone has in hand is there, and has the path that they know it by. -/
def Denotes (s : AddressSpace) (f : Folder) : Prop :=
  ∃ node, s.folder? f.id = some node ∧ node.path = f.path

/-- What is created in a folder by its name gets the identifier that the folder gives to the name.
-/
structure Spelled (s : AddressSpace) : Prop where
  /-- The nodes are in order. -/
  wellFormed : s.WellFormed
  /-- The path of the Objects folder is empty. -/
  root : s.Denotes objects
  /-- Below it, names can stand in a path. -/
  segment : ∀ id name, s.nodeName? id = some name → id ≠ objectsId → isPathSegment name = true
  /-- Identifiers are of registered namespaces. -/
  known : ∀ id name, s.nodeName? id = some name → s.Knows id.namespaceIndex
  /-- The path of a folder is the text of its identifier. -/
  path : ∀ id f, s.folder? id = some f → id ≠ objectsId → f.path = id.identifier
  /-- The children of a folder have the identifiers that it gives to their names. -/
  child : ∀ id f, s.folder? id = some f → ∀ c ∈ f.children, ∀ name, s.nodeName? c = some name →
    c = .inFolder c.namespaceIndex f.path name

/-- In the beginning there is the Objects folder. -/
theorem eq_of_node?_empty {n : Node} (h : empty.node? id = some n) :
    id = objectsId ∧ n = ⟨objectsId, 0, .folder ⟨objectsName, "", []⟩⟩ := by
  have hn := List.mem_singleton.mp (mem_nodes_of_node? h)
  exact ⟨by rw [← id_of_node? h, hn], hn⟩

theorem spelled_empty : Spelled empty where
  wellFormed := wellFormed_empty
  root := ⟨⟨objectsName, "", []⟩, by simp [empty, folder?, node?, objects], rfl⟩
  segment := by
    intro id name hname hid
    obtain ⟨n, hn, -⟩ := Option.map_eq_some_iff.mp hname
    exact absurd (eq_of_node?_empty hn).1 hid
  known := by
    intro id name hname
    obtain ⟨n, hn, -⟩ := Option.map_eq_some_iff.mp hname
    rw [(eq_of_node?_empty hn).1]
    exact Nat.one_pos
  path := by
    intro id f hf hid
    obtain ⟨seq, hn⟩ := folder?_eq_some_iff.mp hf
    exact absurd (eq_of_node?_empty hn).1 hid
  child := by
    intro id f hf
    obtain ⟨seq, hn⟩ := folder?_eq_some_iff.mp hf
    cases (eq_of_node?_empty hn).2
    simp

/-! ## Changes -/

theorem nodeName?_updateNode {f : NodeKind → NodeKind} (hf : ∀ kind, (f kind).name = kind.name)
    (id j : NodeId) : (updateNode id f s).nodeName? j = s.nodeName? j := by
  rw [nodeName?, node?_updateNode]
  by_cases hj : j = id
  · rw [if_pos hj, hj, Option.map_map, nodeName?]
    congr 1
    funext n
    exact hf n.kind
  · rw [if_neg hj, nodeName?]

/-- A change that keeps names and folders, and does not take namespaces away, keeps identifiers
right. -/
theorem Spelled.congr (h : s.Spelled) (hwell : t.WellFormed)
    (hnames : ∀ id, t.nodeName? id = s.nodeName? id) (hfolders : ∀ id, t.folder? id = s.folder? id)
    (hnamespaces : s.namespaces.length ≤ t.namespaces.length) : t.Spelled where
  wellFormed := hwell
  root := by
    rw [Denotes, hfolders]
    exact h.root
  segment := by simpa only [hnames] using h.segment
  known := by
    intro id name hname
    rw [hnames] at hname
    exact Nat.lt_of_lt_of_le (h.known id name hname) hnamespaces
  path := by simpa only [hfolders] using h.path
  child := by simpa only [hfolders, hnames] using h.child

/-- The clock has nothing to do with it. -/
theorem Spelled.withClock (h : s.Spelled) (clock : Nat) :
    ({ s with clock } : AddressSpace).Spelled :=
  h.congr (h.wellFormed.congr rfl rfl) (fun _ => rfl) (fun _ => rfl) (Nat.le_refl _)

theorem nodeName?_withNode (h : s.Vacant parent id) (kind : NodeKind) (j : NodeId) :
    (withNode parent id kind s).nodeName? j = if j = id then some kind.name else s.nodeName? j := by
  rw [nodeName?, node?_withNode h]
  by_cases hid : j = id
  · rw [if_pos hid, if_pos hid]
    rfl
  · rw [if_neg hid, if_neg hid, nodeName?]
    by_cases hparent : j = parent
    · rw [if_pos hparent, hparent, Option.map_map]
      congr 1
      funext n
      exact name_addChild id n.kind
    · rw [if_neg hparent]

/-- A folder after a node has been created is the new node, or an old folder that can have the new
node as one more child. -/
theorem folder?_withNode_cases (h : s.Vacant parent id) {kind : NodeKind} {j : NodeId}
    {f : FolderNode} (hf : (withNode parent id kind s).folder? j = some f) :
    (j = id ∧ kind = .folder f) ∨ ∃ old, s.folder? j = some old ∧ f.path = old.path ∧
      ∀ c ∈ f.children, c ∈ old.children ∨ (c = id ∧ j = parent) := by
  obtain ⟨seq, hnode⟩ := folder?_eq_some_iff.mp hf
  rw [node?_withNode h] at hnode
  by_cases hid : j = id
  · rw [if_pos hid] at hnode
    cases hnode
    exact .inl ⟨hid, rfl⟩
  · rw [if_neg hid] at hnode
    by_cases hparent : j = parent
    · rw [if_pos hparent] at hnode
      obtain ⟨old, hold⟩ := h.1
      obtain ⟨seq', hnode'⟩ := folder?_eq_some_iff.mp hold
      rw [hnode'] at hnode
      cases hnode
      refine .inr ⟨old, hparent ▸ hold, rfl, ?_⟩
      intro c hc
      rcases List.mem_append.mp hc with hc | hc
      · exact .inl hc
      · exact .inr ⟨List.mem_singleton.mp hc, hparent⟩
    · rw [if_neg hparent] at hnode
      exact .inr ⟨f, folder?_eq_some_iff.mpr ⟨seq, hnode⟩, rfl, fun c hc => .inl hc⟩

/-- A folder in hand stays what it is when a node is created. -/
theorem Denotes.withNode {f : Folder} (hf : s.Denotes f) (h : s.Vacant parent id)
    (kind : NodeKind) : (withNode parent id kind s).Denotes f := by
  obtain ⟨node, hnode, hpath⟩ := hf
  obtain ⟨node', hnode'⟩ := exists_folder?_withNode h kind ⟨node, hnode⟩
  refine ⟨node', hnode', ?_⟩
  rcases folder?_withNode_cases h hnode' with ⟨hid, -⟩ | ⟨old, hold, hsame, -⟩
  · obtain ⟨seq, hpresent⟩ := folder?_eq_some_iff.mp hnode
    rw [hid, h.2] at hpresent
    cases hpresent
  · rw [hnode, Option.some.injEq] at hold
    rw [hsame, ← hold, hpath]

/-- A node that is created in a folder under the identifier that the folder gives to its name. -/
theorem Spelled.withNode (h : s.Spelled) {f : Folder} {index : UInt16} (kind : NodeKind)
    (hf : s.Denotes f) (hknown : s.Knows index) (hsegment : isPathSegment kind.name = true)
    (hvacant : s.Vacant f.id (.inFolder index f.path kind.name)) (hchildren : kind.children = [])
    (hpath : ∀ d, kind = .folder d →
      d.path = (NodeId.inFolder index f.path kind.name).identifier) :
    (withNode f.id (.inFolder index f.path kind.name) kind s).Spelled where
  wellFormed := h.wellFormed.withNode hvacant hchildren
  root := h.root.withNode hvacant kind
  segment := by
    intro j name hname hj
    rw [nodeName?_withNode hvacant] at hname
    by_cases hnew : j = .inFolder index f.path kind.name
    · rw [if_pos hnew, Option.some.injEq] at hname
      exact hname ▸ hsegment
    · rw [if_neg hnew] at hname
      exact h.segment j name hname hj
  known := by
    intro j name hname
    rw [nodeName?_withNode hvacant] at hname
    by_cases hnew : j = .inFolder index f.path kind.name
    · rw [hnew, inFolder_namespaceIndex]
      exact hknown
    · rw [if_neg hnew] at hname
      exact h.known j name hname
  path := by
    intro j d hd hj
    rcases folder?_withNode_cases hvacant hd with ⟨hnew, hkind⟩ | ⟨old, hold, hsame, -⟩
    · rw [hnew]
      exact hpath d hkind
    · rw [hsame]
      exact h.path j old hold hj
  child := by
    intro j d hd c hc name hname
    rw [nodeName?_withNode hvacant] at hname
    rcases folder?_withNode_cases hvacant hd with ⟨-, hkind⟩ | ⟨old, hold, hsame, hmore⟩
    · -- the new node has no children
      rw [hkind] at hchildren
      rw [NodeKind.children] at hchildren
      rw [hchildren] at hc
      cases hc
    · rcases hmore c hc with hc | ⟨rfl, rfl⟩
      · obtain ⟨seq, hnode⟩ := folder?_eq_some_iff.mp hold
        obtain ⟨n, hn, -⟩ := h.wellFormed.exists_younger (mem_nodes_of_node? hnode) hc
        have hne : c ≠ .inFolder index f.path kind.name := by
          rintro rfl
          rw [hvacant.2] at hn
          cases hn
        rw [if_neg hne] at hname
        rw [hsame]
        exact h.child j old hold c hc name hname
      · -- the new child, in the folder whose path has made its identifier
        obtain ⟨node, hnode, hnodePath⟩ := hf
        rw [hold, Option.some.injEq] at hnode
        rw [if_pos rfl, Option.some.injEq] at hname
        rw [hsame, hnode, hnodePath, ← hname, inFolder_namespaceIndex]

/-- A change of a variable, but for its name. -/
theorem Spelled.onVariable (h : s.Spelled) (f : VariableNode → VariableNode)
    (hf : ∀ v, (f v).name = v.name) : (updateNode id (onVariable f) s).Spelled := by
  refine h.congr (h.wellFormed.onVariable f) ?_ (folder?_updateNode_onVariable f) (Nat.le_refl _)
  apply nodeName?_updateNode
  intro kind
  cases kind with
  | folder d => rfl
  | scalar v => exact hf v

/-! ## What identifiers spell -/

/-- The identifier of a node spells the way to it. -/
structure Spells (s : AddressSpace) (id : NodeId) (way : List NodeId) (names : List String) :
    Prop where
  /-- The way leads from the Objects folder to the node. -/
  leads : s.Leads way id
  /-- No other way does. -/
  unique : ∀ other, s.Leads other id → other = way
  /-- The names are those of the nodes on the way. -/
  named : way.map s.nodeName? = names.map some
  /-- Each of them is a name, and has no semicolon. -/
  segments : ∀ name ∈ names, IsName name ∧ ';' ∉ name.toList
  /-- The text of the identifier is the names with slashes between them. -/
  identifier : id.identifier = "/".intercalate names
  /-- The last of them can be read off the identifier. -/
  last : names.getLast? = some id.name
  /-- The namespace is registered. -/
  known : s.Knows id.namespaceIndex
  /-- If the node is a folder, its path is the text of the identifier. -/
  folder_path : ∀ f, s.folder? id = some f → f.path = id.identifier
  /-- The identifier can be read back from its written form. -/
  parse : NodeId.parse id.text = .ok id

/-- On the way to a node, the names spell the path of every folder. -/
theorem Spelled.names_of_leads (h : s.Spelled) (hway : s.Leads way id) :
    ∃ names, way.map s.nodeName? = names.map some ∧
      (∀ name ∈ names, isPathSegment name = true) ∧
      (∀ f, s.folder? id = some f → f.path = "/".intercalate names) ∧
      (id ≠ objectsId → id.identifier = "/".intercalate names) := by
  induction hway with
  | top =>
    refine ⟨[], rfl, by simp, ?_, fun hne => absurd rfl hne⟩
    intro f hf
    obtain ⟨node, hnode, hpath⟩ := h.root
    change s.folder? objectsId = some node at hnode
    rw [hf, Option.some.injEq] at hnode
    rw [hnode, hpath]
    rfl
  | @down way p c _ hchild ih =>
    obtain ⟨names, hnamed, hsegments, hpaths, -⟩ := ih
    obtain ⟨f, hf, hmem⟩ := exists_folder_of_hasChild hchild
    obtain ⟨n, hn⟩ := h.wellFormed.isTree.child_present p c hchild
    have hname : s.nodeName? c = some n.kind.name := by rw [nodeName?, hn, Option.map_some]
    have hroot : c ≠ objectsId := by
      rintro rfl
      exact h.wellFormed.isTree.root_no_child p hchild
    -- one more name, in a folder whose path is spelled by the names before it
    have hid : c.identifier = "/".intercalate (names ++ [n.kind.name]) := by
      have hc := h.child p f hf c hmem _ hname
      have hisName : ∀ name ∈ names, IsName name := fun name hin =>
        (isPathSegment_iff.mp (hsegments name hin)).1
      rw [hpaths f hf, inFolder_intercalate _ hisName] at hc
      exact congrArg NodeId.identifier hc
    refine ⟨names ++ [n.kind.name], ?_, ?_, ?_, fun _ => hid⟩
    · rw [List.map_append, List.map_append, hnamed, List.map_singleton, List.map_singleton, hname]
    · intro name hin
      rcases List.mem_append.mp hin with hin | hin
      · exact hsegments name hin
      · rw [List.mem_singleton.mp hin]
        exact h.segment c _ hname hroot
    · intro d hd
      rw [h.path c d hd hroot, hid]

/-- Where every node has been named by its folder, every identifier spells the way to its node. -/
theorem Spelled.spells (h : s.Spelled) {n : Node} (hn : s.node? id = some n)
    (hid : id ≠ objectsId) : ∃ way names, s.Spells id way names := by
  obtain ⟨way, hway⟩ := h.wellFormed.exists_leads hn
  obtain ⟨names, hnamed, hsegments, hpaths, hidentifier⟩ := h.names_of_leads hway
  have hparts : ∀ name ∈ names, IsName name ∧ ';' ∉ name.toList := fun name hname =>
    isPathSegment_iff.mp (hsegments name hname)
  have hname : s.nodeName? id = some n.kind.name := by rw [nodeName?, hn, Option.map_some]
  -- below the Objects folder there is at least one name
  obtain ⟨upper, last, rfl⟩ : ∃ upper last, names = upper ++ [last] := by
    rcases List.eq_nil_or_concat names with rfl | ⟨upper, last, hconcat⟩
    · cases hway with
      | top => exact absurd rfl hid
      | down _ _ => simp at hnamed
    · exact ⟨upper, last, by rw [hconcat, List.concat_eq_append]⟩
  have hlast := hparts last (by simp)
  have htext := hidentifier hid
  have heq : id = ⟨id.namespaceIndex, "/".intercalate (upper ++ [last])⟩ := by rw [← htext]
  refine ⟨way, upper ++ [last], hway, fun _ => h.wellFormed.leads_unique hway, hnamed, hparts,
    htext, ?_, h.known id _ hname, ?_, ?_⟩
  · rw [heq, name_intercalate _ _ hlast.1.2]
    simp
  · intro f hf
    rw [hpaths f hf, htext]
  · apply NodeId.parse_text
    · rw [htext]
      exact intercalate_ne_nil (fun name hin => (hparts name hin).1) (by simp)
    · rw [htext]
      exact not_mem_intercalate (by decide) fun name hin => (hparts name hin).2

end AddressSpace

end ScalarServer
