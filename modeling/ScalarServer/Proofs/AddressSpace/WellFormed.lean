import ScalarServer.Proofs.AddressSpace.Run

/-!
# How nodes lie

The invariant of an address space: nodes are listed in the order of their creation, the lists of
children name every node but the Objects folder once, and a folder lists nodes that were created
after it, in the order of their creation. The main facts are:

- `WellFormed.withNode`: a node that is put into a vacant place keeps the invariant;
- `WellFormed.effect`: so does every call;
- `Run.wellFormed`: the invariant holds at the end of every run.
-/

namespace ScalarServer

/-- Adding a child adds nothing else. -/
theorem children_addChild {kind : NodeKind} {f : FolderNode} (child : NodeId)
    (h : kind = .folder f) : (AddressSpace.addChild child kind).children =
      kind.children ++ [child] := by
  subst h
  rfl

@[simp]
theorem children_onVariable (f : VariableNode → VariableNode) (kind : NodeKind) :
    (AddressSpace.onVariable f kind).children = kind.children := by
  cases kind <;> rfl

namespace AddressSpace

open scoped List

variable {s : AddressSpace} {id parent : NodeId}

/-- The nodes created after a number, in order. -/
def createdAfter (s : AddressSpace) (seq : Nat) : List NodeId :=
  (s.nodes.filter fun n => seq < n.seq).map Node.id

/-- What holds of the nodes of every address space. -/
structure WellFormed (s : AddressSpace) : Prop where
  /-- No identifier stands twice. -/
  ids_nodup : (s.nodes.map Node.id).Nodup
  /-- The nodes are in the order of their numbers. -/
  seqs_increasing : (s.nodes.map Node.seq).Pairwise (· < ·)
  /-- Numbers have been given out from below. -/
  seqs_lt : ∀ q ∈ s.nodes.map Node.seq, q < s.nextSeq
  /-- The Objects folder is a folder. -/
  root : ∃ f, s.folder? objectsId = some f
  /-- Together with the Objects folder, the lists of children name every node once. -/
  listed : (objectsId :: s.nodes.flatMap fun n => n.kind.children).Perm (s.nodes.map Node.id)
  /-- Children were created after their folder, and are in the order of their creation. -/
  younger : ∀ n ∈ s.nodes, n.kind.children.Sublist (s.createdAfter n.seq)

theorem wellFormed_empty : WellFormed empty where
  ids_nodup := by simp [empty]
  seqs_increasing := by simp [empty]
  seqs_lt := by simp [empty]
  root := ⟨⟨objectsName, "", []⟩, by simp [empty, folder?, node?]⟩
  listed := by simp [empty, NodeKind.children]
  younger := by simp [empty, NodeKind.children]

/-! ## Changes of one node -/

@[simp]
theorem updateNode_seqs (f : NodeKind → NodeKind) :
    (updateNode id f s).nodes.map Node.seq = s.nodes.map Node.seq := by
  simp only [updateNode, List.map_map]
  apply List.map_congr_left
  intro n _
  simp only [Function.comp_apply]
  split <;> rfl

@[simp]
theorem updateNode_createdAfter (f : NodeKind → NodeKind) (seq : Nat) :
    (updateNode id f s).createdAfter seq = s.createdAfter seq := by
  have hfilter : ((fun n : Node => decide (seq < n.seq)) ∘
      fun n => if n.id = id then { n with kind := f n.kind } else n) =
      fun n => decide (seq < n.seq) := by
    funext n
    simp only [Function.comp_apply]
    split <;> rfl
  simp only [createdAfter, updateNode, List.filter_map, List.map_map, hfilter]
  apply List.map_congr_left
  intro n _
  simp only [Function.comp_apply]
  split <;> rfl

/-- A changed node has its old number, and either its old kind or the new one. -/
theorem exists_of_mem_updateNode {f : NodeKind → NodeKind} {n : Node}
    (h : n ∈ (updateNode id f s).nodes) :
    ∃ m ∈ s.nodes, n.id = m.id ∧ n.seq = m.seq ∧
      (n.kind = m.kind ∧ m.id ≠ id ∨ n.kind = f m.kind ∧ m.id = id) := by
  simp only [updateNode, List.mem_map] at h
  obtain ⟨m, hm, rfl⟩ := h
  refine ⟨m, hm, ?_⟩
  split
  · rename_i hid
    exact ⟨rfl, rfl, .inr ⟨rfl, hid⟩⟩
  · rename_i hid
    exact ⟨rfl, rfl, .inl ⟨rfl, hid⟩⟩

/-- A change of a variable keeps all lists of children. -/
theorem flatMap_children_updateNode (f : VariableNode → VariableNode) :
    ((updateNode id (onVariable f) s).nodes.flatMap fun n => n.kind.children) =
      s.nodes.flatMap fun n => n.kind.children := by
  simp only [updateNode, List.flatMap_map]
  apply List.flatMap_congr
  intro n _
  split
  · exact children_onVariable f n.kind
  · rfl

theorem folder?_updateNode_onVariable (f : VariableNode → VariableNode) (j : NodeId) :
    (updateNode id (onVariable f) s).folder? j = s.folder? j := by
  unfold folder?
  rw [node?_updateNode]
  by_cases hj : j = id
  · rw [if_pos hj, hj]
    cases s.node? id with
    | none => rfl
    | some n =>
      obtain ⟨i, seq, kind⟩ := n
      cases kind <;> rfl
  · rw [if_neg hj]

/-- A change of a variable keeps the order of nodes. -/
theorem WellFormed.onVariable (h : s.WellFormed) (f : VariableNode → VariableNode) :
    (updateNode id (onVariable f) s).WellFormed where
  ids_nodup := by rw [updateNode_ids]; exact h.ids_nodup
  seqs_increasing := by rw [updateNode_seqs]; exact h.seqs_increasing
  seqs_lt := by rw [updateNode_seqs]; exact h.seqs_lt
  root := by simp only [folder?_updateNode_onVariable]; exact h.root
  listed := by rw [flatMap_children_updateNode, updateNode_ids]; exact h.listed
  younger := by
    intro n hn
    obtain ⟨m, hm, -, hseq, hkind⟩ := exists_of_mem_updateNode hn
    rw [updateNode_createdAfter, hseq]
    rcases hkind with ⟨hkind, -⟩ | ⟨hkind, -⟩
    · rw [hkind]
      exact h.younger m hm
    · rw [hkind, children_onVariable]
      exact h.younger m hm

/-- The nodes do not depend on the clock and the namespaces. -/
theorem WellFormed.congr {t : AddressSpace} (h : s.WellFormed) (hnodes : t.nodes = s.nodes)
    (hseq : t.nextSeq = s.nextSeq) : t.WellFormed where
  ids_nodup := by rw [hnodes]; exact h.ids_nodup
  seqs_increasing := by rw [hnodes]; exact h.seqs_increasing
  seqs_lt := by rw [hnodes, hseq]; exact h.seqs_lt
  root := by
    obtain ⟨f, hf⟩ := h.root
    exact ⟨f, by simpa only [folder?, node?, hnodes] using hf⟩
  listed := by rw [hnodes]; exact h.listed
  younger := by
    intro n hn
    rw [hnodes] at hn
    simpa only [createdAfter, hnodes] using h.younger n hn

/-! ## A further node -/

/-- A new node stands behind the others, of which its parent has changed. -/
theorem withNode_nodes (h : s.Vacant parent id) (kind : NodeKind) :
    (withNode parent id kind s).nodes =
      (updateNode parent (addChild id) s).nodes ++ [⟨id, s.nextSeq, kind⟩] := by
  have hne : ¬ id = parent := fun heq => h.parent_ne heq.symm
  simp [withNode, updateNode, hne]

/-- A new node that is changed at once is as if it had been created so. -/
theorem updateNode_withNode (h : s.Vacant parent id) (kind : NodeKind)
    (f : NodeKind → NodeKind) :
    updateNode id f (withNode parent id kind s) = withNode parent id (f kind) s := by
  -- the second change finds the new node alone
  have hold : ∀ n ∈ (updateNode parent (addChild id) s).nodes, n.id ≠ id := by
    intro n hn heq
    have hmem : n.id ∈ (updateNode parent (addChild id) s).nodes.map Node.id :=
      List.mem_map_of_mem hn
    rw [updateNode_ids, heq] at hmem
    exact node?_eq_none_iff.mp h.2 hmem
  have hnodes : (updateNode id f (withNode parent id kind s)).nodes =
      (withNode parent id (f kind) s).nodes := by
    have hmap : (updateNode id f (withNode parent id kind s)).nodes =
        (withNode parent id kind s).nodes.map
          fun n => if n.id = id then { n with kind := f n.kind } else n := rfl
    rw [hmap, withNode_nodes h, withNode_nodes h, List.map_append]
    congr 1
    · nth_rewrite 2 [← List.map_id (updateNode parent (addChild id) s).nodes]
      apply List.map_congr_left
      intro n hn
      exact if_neg (hold n hn)
    · simp
  exact AddressSpace.ext rfl hnodes rfl rfl

theorem withNode_createdAfter (h : s.Vacant parent id) (kind : NodeKind) {seq : Nat}
    (hseq : seq < s.nextSeq) :
    (withNode parent id kind s).createdAfter seq = s.createdAfter seq ++ [id] := by
  have hold : (updateNode parent (addChild id) s).createdAfter seq = s.createdAfter seq :=
    updateNode_createdAfter (addChild id) seq
  unfold createdAfter at hold ⊢
  rw [withNode_nodes h, List.filter_append, List.map_append, hold]
  simp [hseq]

/-- The lists of children, taken together, have grown by the new node. -/
theorem flatMap_children_withNode (hnodup : (s.nodes.map Node.id).Nodup)
    (h : s.Vacant parent id) {kind : NodeKind} (hkind : kind.children = []) :
    ((withNode parent id kind s).nodes.flatMap fun n => n.kind.children).Perm
      (id :: s.nodes.flatMap fun n => n.kind.children) := by
  obtain ⟨f, hf⟩ := h.1
  obtain ⟨seq, hnode⟩ := folder?_eq_some_iff.mp hf
  -- only the list of the parent has grown, and the new node has none
  obtain ⟨before, after, hsplit, hupdate⟩ := exists_split_updateNode hnodup hnode (addChild id)
  rw [withNode_nodes h, hupdate, hsplit]
  simp only [List.flatMap_append, List.flatMap_cons, List.flatMap_nil, hkind, List.append_nil,
    children_addChild id rfl, List.append_assoc, List.singleton_append]
  rw [← List.append_assoc, ← List.append_assoc]
  exact List.perm_middle

/-- A node that is put into a vacant place keeps the order of nodes. -/
theorem WellFormed.withNode (h : s.WellFormed) (hvacant : s.Vacant parent id) {kind : NodeKind}
    (hkind : kind.children = []) : (withNode parent id kind s).WellFormed where
  ids_nodup := by
    rw [withNode_ids, List.nodup_append]
    refine ⟨h.ids_nodup, List.nodup_singleton id, ?_⟩
    rintro a ha b hb rfl
    rw [List.mem_singleton] at hb
    subst hb
    exact node?_eq_none_iff.mp hvacant.2 ha
  seqs_increasing := by
    rw [withNode_nodes hvacant, List.map_append, updateNode_seqs, List.pairwise_append]
    refine ⟨h.seqs_increasing, List.pairwise_singleton _ _, ?_⟩
    intro q hq r hr
    simp only [List.map_cons, List.map_nil, List.mem_singleton] at hr
    rw [hr]
    exact h.seqs_lt q hq
  seqs_lt := by
    intro q hq
    rw [withNode_nodes hvacant, List.map_append, updateNode_seqs, List.mem_append] at hq
    rw [withNode_nextSeq]
    rcases hq with hq | hq
    · exact Nat.lt_succ_of_lt (h.seqs_lt q hq)
    · simp only [List.map_cons, List.map_nil, List.mem_singleton] at hq
      rw [hq]
      exact Nat.lt_succ_self _
  root := exists_folder?_withNode hvacant kind h.root
  listed := by
    rw [withNode_ids]
    have hgrown := flatMap_children_withNode h.ids_nodup hvacant hkind
    calc objectsId :: ((AddressSpace.withNode parent id kind s).nodes.flatMap
        fun n => n.kind.children)
      _ ~ objectsId :: id :: s.nodes.flatMap fun n => n.kind.children := hgrown.cons _
      _ ~ id :: objectsId :: s.nodes.flatMap fun n => n.kind.children := .swap _ _ _
      _ ~ id :: s.nodes.map Node.id := h.listed.cons _
      _ ~ s.nodes.map Node.id ++ [id] := (List.perm_append_singleton _ _).symm
  younger := by
    intro n hn
    rw [withNode_nodes hvacant, List.mem_append] at hn
    rcases hn with hn | hn
    · obtain ⟨m, hm, -, hseq, hkinds⟩ := exists_of_mem_updateNode hn
      have hlt := h.seqs_lt m.seq (List.mem_map_of_mem hm)
      rw [hseq, withNode_createdAfter hvacant kind hlt]
      rcases hkinds with ⟨hsame, -⟩ | ⟨hmore, hid⟩
      · rw [hsame]
        exact (h.younger m hm).trans (List.sublist_append_left _ _)
      · -- the parent is the folder that has one more child
        obtain ⟨f, hf⟩ := hvacant.1
        obtain ⟨seq, hnode⟩ := folder?_eq_some_iff.mp hf
        have hfound := node?_of_mem h.ids_nodup hm
        rw [hid, hnode] at hfound
        cases hfound
        rw [hmore, children_addChild id rfl]
        exact (h.younger _ hm).append (List.Sublist.refl _)
    · rw [List.mem_singleton] at hn
      subst hn
      rw [hkind]
      exact List.nil_sublist _

/-- Every call keeps the order of nodes. -/
theorem WellFormed.effect (h : s.WellFormed) {c : Call} {answer : Except Error Answer}
    {t : AddressSpace} (heffect : Effect s c answer t) : t.WellFormed := by
  cases heffect with
  | refused => exact h
  | known => exact h
  | registered => exact h.congr rfl rfl
  | folder hfits => exact h.withNode hfits.vacant rfl
  | scalar hfits => exact (h.withNode hfits.vacant rfl).congr rfl rfl
  | access => exact h.onVariable _
  | value => exact (h.onVariable _).congr rfl rfl

/-- The nodes of every address space that a run ends in are in order. -/
theorem Run.wellFormed {history : List Event} (hrun : Run history s) : s.WellFormed := by
  induction hrun with
  | start => exact wellFormed_empty
  | call c _ _ ih => exact ih.effect (perform_effect c _)

end AddressSpace

end ScalarServer
