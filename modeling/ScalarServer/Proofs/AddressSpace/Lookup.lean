import Mathlib.Data.List.Nodup
import ScalarServer.AddressSpace.Operations

/-!
# Looking up nodes

What can be found in an address space, and what of it a change leaves as it was. A change touches
one node: `updateNode` changes the kind of the node with an identifier, and `withNode` adds a node
and puts it into the children of another one. The main facts are:

- `node?_updateNode`, `node?_withNode`: every look-up after a change, from look-ups before it;
- `folder?_eq_some_iff`, `variableNode_eq_ok_iff`, `browse_eq_ok_iff`: what the questions that
  clients ask have to do with the nodes.
-/

namespace ScalarServer

/-- The nodes that a node lists as its children. -/
def NodeKind.children : NodeKind → List NodeId
  | .folder f => f.children
  | .scalar _ => []

attribute [ext] AddressSpace

namespace AddressSpace

variable {s : AddressSpace} {id parent : NodeId} {n : Node}

/-- A node is found under its own identifier. -/
theorem id_of_node? (h : s.node? id = some n) : n.id = id := by
  have := List.find?_some h
  simpa using this

theorem mem_nodes_of_node? (h : s.node? id = some n) : n ∈ s.nodes :=
  List.mem_of_find?_eq_some h

theorem node?_eq_none_iff : s.node? id = none ↔ id ∉ s.nodes.map Node.id := by
  simp only [node?, List.find?_eq_none, decide_eq_true_eq, List.mem_map, not_exists, not_and]

/-- Where no identifier stands twice, every node is found under its identifier. -/
theorem node?_of_mem (hnodup : (s.nodes.map Node.id).Nodup) (hmem : n ∈ s.nodes) :
    s.node? n.id = some n := by
  have hsome : (s.node? n.id).isSome := by
    simp only [node?, List.find?_isSome]
    exact ⟨n, hmem, by simp⟩
  obtain ⟨m, hm⟩ := Option.isSome_iff_exists.mp hsome
  rw [hm, List.inj_on_of_nodup_map hnodup (mem_nodes_of_node? hm) hmem (id_of_node? hm)]

/-! ## Questions about one node -/

theorem folder?_eq_some_iff {f : FolderNode} :
    s.folder? id = some f ↔ ∃ seq, s.node? id = some ⟨id, seq, .folder f⟩ := by
  unfold folder?
  constructor
  · intro h
    split at h
    · rename_i heq
      cases h
      have := id_of_node? heq
      subst this
      exact ⟨_, heq⟩
    · cases h
  · rintro ⟨seq, h⟩
    rw [h]

theorem variableNode_eq_ok_iff {v : VariableNode} :
    s.variableNode id = .ok v ↔ ∃ seq, s.node? id = some ⟨id, seq, .scalar v⟩ := by
  unfold variableNode
  constructor
  · intro h
    split at h
    · cases h
    · rename_i heq
      cases h
      have := id_of_node? heq
      subst this
      exact ⟨_, heq⟩
    · cases h
  · rintro ⟨seq, h⟩
    rw [h]

/-- The only reason for which a variable cannot be looked up. -/
theorem variableNode_eq_error {e : Error} (h : s.variableNode id = .error e) :
    ∃ reason, e = .unknownNode reason := by
  unfold variableNode at h
  split at h <;> cases h <;> exact ⟨_, rfl⟩

theorem variableInfo_eq_ok_iff {info : VariableInfo} :
    s.variableInfo id = .ok info ↔ ∃ v, s.variableNode id = .ok v ∧ v.info id = info := by
  unfold variableInfo
  cases s.variableNode id <;> simp [Except.map]

theorem variableInfo_of_ok {v : VariableNode} (h : s.variableNode id = .ok v) :
    s.variableInfo id = .ok (v.info id) :=
  variableInfo_eq_ok_iff.mpr ⟨v, h, rfl⟩

theorem variableInfo_of_error {e : Error} (h : s.variableNode id = .error e) :
    s.variableInfo id = .error e := by
  rw [variableInfo, h]
  rfl

theorem variableInfo_eq_error {e : Error} (h : s.variableInfo id = .error e) :
    ∃ reason, e = .unknownNode reason := by
  unfold variableInfo at h
  cases hnode : s.variableNode id with
  | ok v =>
    rw [hnode] at h
    cases h
  | error e' =>
    rw [hnode] at h
    cases h
    exact variableNode_eq_error hnode

theorem browse_eq_ok_iff {children : List NodeId} :
    s.browse id = .ok children ↔ ∃ n, s.node? id = some n ∧ ∃ f, n.kind = .folder f ∧
      f.children = children := by
  unfold browse
  cases h : s.node? id with
  | none => simp
  | some n =>
    obtain ⟨i, seq, kind⟩ := n
    cases kind <;> simp

/-! ## Changes of one node -/

@[simp]
theorem updateNode_namespaces (f : NodeKind → NodeKind) :
    (updateNode id f s).namespaces = s.namespaces := rfl

@[simp]
theorem updateNode_nextSeq (f : NodeKind → NodeKind) :
    (updateNode id f s).nextSeq = s.nextSeq := rfl

@[simp]
theorem updateNode_clock (f : NodeKind → NodeKind) : (updateNode id f s).clock = s.clock := rfl

/-- A change of a node keeps all identifiers. -/
@[simp]
theorem updateNode_ids (f : NodeKind → NodeKind) :
    (updateNode id f s).nodes.map Node.id = s.nodes.map Node.id := by
  simp only [updateNode, List.map_map]
  apply List.map_congr_left
  intro n _
  simp only [Function.comp_apply]
  split <;> rfl

/-- Only the node with the identifier is another one afterwards. -/
theorem node?_updateNode (f : NodeKind → NodeKind) (j : NodeId) :
    (updateNode id f s).node? j =
      if j = id then (s.node? id).map fun n => { n with kind := f n.kind } else s.node? j := by
  -- identifiers are kept, so the search ends at the same place
  have hkeep : ((fun n : Node => decide (n.id = j)) ∘
      fun n => if n.id = id then { n with kind := f n.kind } else n) =
      fun n => decide (n.id = j) := by
    funext n
    simp only [Function.comp_apply]
    split <;> rfl
  have hmap : (updateNode id f s).node? j =
      (s.node? j).map fun n => if n.id = id then { n with kind := f n.kind } else n := by
    simp only [node?, updateNode, List.find?_map, hkeep]
  rw [hmap]
  split
  · rename_i hj
    subst hj
    cases hn : s.node? j with
    | none => rfl
    | some n => simp [id_of_node? hn]
  · rename_i hj
    cases hn : s.node? j with
    | none => rfl
    | some n => simp [id_of_node? hn, hj]

/-- The place of the changed node among the others, where no identifier stands twice. -/
theorem exists_split_updateNode (hnodup : (s.nodes.map Node.id).Nodup) (h : s.node? id = some n)
    (f : NodeKind → NodeKind) :
    ∃ before after, s.nodes = before ++ n :: after ∧
      (updateNode id f s).nodes = before ++ { n with kind := f n.kind } :: after := by
  obtain ⟨before, after, hsplit⟩ := List.append_of_mem (mem_nodes_of_node? h)
  have hid := id_of_node? h
  rw [hsplit, List.map_append, List.map_cons, List.nodup_middle, List.nodup_cons] at hnodup
  -- nodes before and after it have other identifiers, and are not touched
  have hother : ∀ m ∈ before ++ after, m.id ≠ id := by
    intro m hm heq
    apply hnodup.1
    rw [← List.map_append, hid, ← heq]
    exact List.mem_map_of_mem hm
  have hmap : ∀ l ⊆ before ++ after,
      (l.map fun m => if m.id = id then { m with kind := f m.kind } else m) = l := by
    intro l hl
    nth_rewrite 2 [← List.map_id l]
    apply List.map_congr_left
    intro m hm
    exact if_neg (hother m (hl hm))
  refine ⟨before, after, hsplit, ?_⟩
  simp only [updateNode, hsplit, List.map_append, List.map_cons, if_pos hid]
  rw [hmap before (List.subset_append_left _ _), hmap after (List.subset_append_right _ _)]

/-! ## A further node -/

/-- Whether a node with an identifier can be created in a folder. -/
def Vacant (s : AddressSpace) (parent id : NodeId) : Prop :=
  (∃ f, s.folder? parent = some f) ∧ s.node? id = none

/-- A folder is none of the identifiers that can be created in it. -/
theorem Vacant.parent_ne (h : s.Vacant parent id) : parent ≠ id := by
  rintro rfl
  obtain ⟨⟨f, hf⟩, hnone⟩ := h
  obtain ⟨seq, hnode⟩ := folder?_eq_some_iff.mp hf
  rw [hnone] at hnode
  cases hnode

@[simp]
theorem withNode_namespaces (kind : NodeKind) :
    (withNode parent id kind s).namespaces = s.namespaces := rfl

@[simp]
theorem withNode_nextSeq (kind : NodeKind) :
    (withNode parent id kind s).nextSeq = s.nextSeq + 1 := rfl

@[simp]
theorem withNode_clock (kind : NodeKind) : (withNode parent id kind s).clock = s.clock := rfl

/-- The new identifier stands behind all others. -/
@[simp]
theorem withNode_ids (kind : NodeKind) :
    (withNode parent id kind s).nodes.map Node.id = s.nodes.map Node.id ++ [id] := by
  simp [withNode]

/-- A new node is found, its parent has one more child, and all other nodes are as before. -/
theorem node?_withNode (h : s.Vacant parent id) (kind : NodeKind) (j : NodeId) :
    (withNode parent id kind s).node? j =
      if j = id then some ⟨id, s.nextSeq, kind⟩
      else if j = parent then
        (s.node? parent).map fun n => { n with kind := addChild id n.kind }
      else s.node? j := by
  -- look-ups when the node has been added, and its parent does not list it yet
  have hadd : ∀ i, node? { s with
        nodes := s.nodes ++ [⟨id, s.nextSeq, kind⟩], nextSeq := s.nextSeq + 1 } i =
      if i = id then some ⟨id, s.nextSeq, kind⟩ else s.node? i := by
    intro i
    simp only [node?, List.find?_append, List.find?_singleton]
    by_cases hi : i = id
    · subst hi
      have hnone : s.nodes.find? (fun m => decide (m.id = i)) = none := h.2
      simp [hnone]
    · have hne : ¬ id = i := fun heq => hi heq.symm
      simp [hi, hne]
  rw [withNode, node?_updateNode, hadd, hadd, if_neg h.parent_ne]
  by_cases hj : j = parent
  · simp [hj, h.parent_ne]
  · simp [hj]

/-- A new node takes no other place than its own. -/
theorem node?_withNode_eq_none_iff (h : s.Vacant parent id) (kind : NodeKind) (j : NodeId) :
    (withNode parent id kind s).node? j = none ↔ j ≠ id ∧ s.node? j = none := by
  rw [node?_withNode h]
  by_cases hid : j = id
  · simp [hid]
  · by_cases hparent : j = parent
    · simp [hparent, h.parent_ne]
    · simp [hid, hparent]

/-- Folders stay where they are. -/
theorem exists_folder?_withNode (h : s.Vacant parent id) (kind : NodeKind) {j : NodeId}
    (hfolder : ∃ f, s.folder? j = some f) :
    ∃ f, (withNode parent id kind s).folder? j = some f := by
  obtain ⟨f, hf⟩ := hfolder
  obtain ⟨seq, hnode⟩ := folder?_eq_some_iff.mp hf
  -- a folder that is there is not the new node, but it can be its parent
  have hid : j ≠ id := by
    rintro rfl
    rw [h.2] at hnode
    cases hnode
  by_cases hparent : j = parent
  · refine ⟨{ f with children := f.children ++ [id] }, folder?_eq_some_iff.mpr ⟨seq, ?_⟩⟩
    rw [node?_withNode h, if_neg hid, if_pos hparent, ← hparent, hnode]
    rfl
  · refine ⟨f, folder?_eq_some_iff.mpr ⟨seq, ?_⟩⟩
    rw [node?_withNode h, if_neg hid, if_neg hparent, hnode]

/-- The new node is a folder if it was made one. -/
theorem folder?_withNode_self (h : s.Vacant parent id) (f : FolderNode) :
    (withNode parent id (.folder f) s).folder? id = some f :=
  folder?_eq_some_iff.mpr ⟨s.nextSeq, (node?_withNode h _ _).trans (if_pos rfl)⟩

theorem nodeCount_withNode (kind : NodeKind) :
    (withNode parent id kind s).nodeCount = s.nodeCount + 1 := by
  simp [nodeCount, withNode, updateNode]

end AddressSpace

end ScalarServer
