import Mathlib.Data.List.Pairwise
import Mathlib.Logic.Relation
import ScalarServer.Proofs.AddressSpace.WellFormed

/-!
# The tree of nodes

Clients find the nodes of an address space by browsing it from the Objects folder. This module
says that what they browse is a tree, in which numbers grow from a folder to its children and
from one child to the next.

- `HasChild p c`: browsing `p` shows `c`;
- `IsTree`: the nodes, with browsing, are a tree below the Objects folder;
- `isTree_of_run`: whatever was called, and however it ended, the nodes are such a tree, with one
  node for the Objects folder and one for each call that created a node.
-/

namespace ScalarServer.AddressSpace

open Relation

variable {s : AddressSpace} {id p c : NodeId}

/-- Browsing one node shows the other one. -/
def HasChild (s : AddressSpace) (p c : NodeId) : Prop :=
  ∃ children, s.browse p = .ok children ∧ c ∈ children

/-- The nodes, with browsing, are a tree below the Objects folder. -/
structure IsTree (s : AddressSpace) : Prop where
  /-- The Objects folder is there, and is a folder. -/
  root_folder : ∃ f, s.folder? objectsId = some f
  /-- No identifier stands twice in the table of nodes. -/
  ids_nodup : (s.nodes.map Node.id).Nodup
  /-- What browsing shows is there. -/
  child_present : ∀ p c, s.HasChild p c → ∃ n, s.node? c = some n
  /-- Every other node is shown in exactly one folder, and once. -/
  one_parent : ∀ c n, s.node? c = some n → c ≠ objectsId →
    ∃ p children, s.browse p = .ok children ∧ children.count c = 1 ∧
      ∀ q, s.HasChild q c → q = p
  /-- The Objects folder is shown nowhere. -/
  root_no_child : ∀ p, ¬ s.HasChild p objectsId
  /-- Every node is found by browsing from the Objects folder again and again. -/
  reachable : ∀ c n, s.node? c = some n → ReflTransGen s.HasChild objectsId c
  /-- Browsing never comes back to where it began. -/
  acyclic : ∀ c, ¬ TransGen s.HasChild c c
  /-- Nodes have different numbers. -/
  seq_injective : ∀ a b m n, s.node? a = some m → s.node? b = some n → m.seq = n.seq → a = b
  /-- All numbers have been given out. -/
  seq_lt_next : ∀ c n, s.node? c = some n → n.seq < s.nextSeq
  /-- A folder has a lower number than what it shows. -/
  seq_lt_child : ∀ p c m n, s.HasChild p c → s.node? p = some m → s.node? c = some n →
    m.seq < n.seq
  /-- A folder shows nodes in the order of their numbers. -/
  children_increasing : ∀ p children, s.browse p = .ok children →
    children.Pairwise fun a b =>
      ∀ m n, s.node? a = some m → s.node? b = some n → m.seq < n.seq

/-! ## Children of nodes -/

/-- What browsing shows are the children of the node. -/
theorem exists_of_browse {children : List NodeId} (h : s.browse p = .ok children) :
    ∃ n, s.node? p = some n ∧ n.kind.children = children := by
  obtain ⟨n, hnode, f, hkind, hchildren⟩ := browse_eq_ok_iff.mp h
  refine ⟨n, hnode, ?_⟩
  rw [hkind]
  exact hchildren

/-- A node with children is shown with them. -/
theorem browse_of_mem_children {n : Node} (hnode : s.node? p = some n)
    (hmem : c ∈ n.kind.children) : s.browse p = .ok n.kind.children := by
  apply browse_eq_ok_iff.mpr
  refine ⟨n, hnode, ?_⟩
  cases hkind : n.kind with
  | folder f => exact ⟨f, rfl, rfl⟩
  | scalar v => simp [hkind, NodeKind.children] at hmem

theorem hasChild_iff : s.HasChild p c ↔ ∃ n, s.node? p = some n ∧ c ∈ n.kind.children := by
  constructor
  · rintro ⟨children, hbrowse, hmem⟩
    obtain ⟨n, hnode, rfl⟩ := exists_of_browse hbrowse
    exact ⟨n, hnode, hmem⟩
  · rintro ⟨n, hnode, hmem⟩
    exact ⟨n.kind.children, browse_of_mem_children hnode hmem, hmem⟩

namespace WellFormed

/-- The lists of children, taken together, name no node twice and not the Objects folder. -/
theorem nodup_listed (h : s.WellFormed) :
    (objectsId :: s.nodes.flatMap fun n => n.kind.children).Nodup :=
  h.listed.nodup_iff.mpr h.ids_nodup

/-- A child is there, and has a higher number than its folder. -/
theorem exists_younger (h : s.WellFormed) {m : Node} (hm : m ∈ s.nodes)
    (hmem : c ∈ m.kind.children) : ∃ n, s.node? c = some n ∧ m.seq < n.seq := by
  have hafter := (h.younger m hm).subset hmem
  simp only [createdAfter, List.mem_map, List.mem_filter, decide_eq_true_eq] at hafter
  obtain ⟨n, ⟨hn, hlt⟩, rfl⟩ := hafter
  exact ⟨n, node?_of_mem h.ids_nodup hn, hlt⟩

theorem seq_lt_child (h : s.WellFormed) {m n : Node} (hchild : s.HasChild p c)
    (hm : s.node? p = some m) (hn : s.node? c = some n) : m.seq < n.seq := by
  obtain ⟨m', hm', hmem⟩ := hasChild_iff.mp hchild
  rw [hm] at hm'
  cases hm'
  obtain ⟨n', hn', hlt⟩ := h.exists_younger (mem_nodes_of_node? hm) hmem
  rw [hn] at hn'
  cases hn'
  exact hlt

/-- Browsing several times leads to nodes with higher numbers. -/
theorem seq_lt_descendant (h : s.WellFormed) {m : Node} (hm : s.node? p = some m)
    (hdescendant : TransGen s.HasChild p c) : ∃ n, s.node? c = some n ∧ m.seq < n.seq := by
  induction hdescendant with
  | single hchild =>
    obtain ⟨m', hm', hmem⟩ := hasChild_iff.mp hchild
    rw [hm] at hm'
    cases hm'
    exact h.exists_younger (mem_nodes_of_node? hm) hmem
  | tail _ hchild ih =>
    obtain ⟨n, hn, hlt⟩ := ih
    obtain ⟨n', hn', hmem⟩ := hasChild_iff.mp hchild
    rw [hn] at hn'
    cases hn'
    obtain ⟨k, hk, hlt'⟩ := h.exists_younger (mem_nodes_of_node? hn) hmem
    exact ⟨k, hk, Nat.lt_trans hlt hlt'⟩

/-- Every node but the Objects folder is a child. -/
theorem exists_parent (h : s.WellFormed) {n : Node} (hn : s.node? c = some n)
    (hne : c ≠ objectsId) : ∃ m ∈ s.nodes, c ∈ m.kind.children := by
  have hid : c ∈ s.nodes.map Node.id :=
    List.mem_map.mpr ⟨n, mem_nodes_of_node? hn, id_of_node? hn⟩
  have hlisted := h.listed.mem_iff.mpr hid
  rw [List.mem_cons, List.mem_flatMap] at hlisted
  rcases hlisted with heq | hchild
  · exact absurd heq hne
  · exact hchild

/-- Two nodes with a child in common are one. -/
theorem parent_unique (h : s.WellFormed) {m n : Node} (hm : m ∈ s.nodes) (hn : n ∈ s.nodes)
    (hcm : c ∈ m.kind.children) (hcn : c ∈ n.kind.children) : m = n := by
  have hflat := (List.nodup_cons.mp h.nodup_listed).2
  have hdisjoint := (List.nodup_flatMap.mp hflat).2
  -- lists of different nodes have nothing in common, as all of them together repeat nothing
  by_contra hne
  have hsymm : Std.Symm (Function.onFun List.Disjoint fun n : Node => n.kind.children) :=
    ⟨fun _ _ hab => List.disjoint_symm hab⟩
  exact hdisjoint.forall hm hn hne hcm hcn

/-- From the Objects folder, browsing leads to every node: by induction on its number, since its
folder has a lower one. -/
theorem reachable (h : s.WellFormed) {n : Node} (hn : s.node? c = some n) :
    ReflTransGen s.HasChild objectsId c := by
  induction hseq : n.seq using Nat.strongRecOn generalizing c n with
  | ind q ih =>
    by_cases hroot : c = objectsId
    · rw [hroot]
    · obtain ⟨m, hm, hmem⟩ := h.exists_parent hn hroot
      have hnode := node?_of_mem h.ids_nodup hm
      have hchild : s.HasChild m.id c := hasChild_iff.mpr ⟨m, hnode, hmem⟩
      have hlt : m.seq < q := hseq ▸ h.seq_lt_child hchild hnode hn
      exact (ih m.seq hlt hnode rfl).tail hchild

/-- Nodes are in the order of their numbers. -/
theorem ids_increasing (h : s.WellFormed) :
    (s.nodes.map Node.id).Pairwise fun a b =>
      ∀ m n, s.node? a = some m → s.node? b = some n → m.seq < n.seq := by
  have hseqs := h.seqs_increasing
  rw [List.pairwise_map] at hseqs ⊢
  refine hseqs.imp_of_mem ?_
  intro a b ha hb hlt m n hm hn
  rw [node?_of_mem h.ids_nodup ha] at hm
  rw [node?_of_mem h.ids_nodup hb] at hn
  cases hm
  cases hn
  exact hlt

theorem seq_injective (h : s.WellFormed) {a b : NodeId} {m n : Node} (hm : s.node? a = some m)
    (hn : s.node? b = some n) (hseq : m.seq = n.seq) : a = b := by
  have hnodup : (s.nodes.map Node.seq).Nodup := h.seqs_increasing.imp Nat.ne_of_lt
  have heq := List.inj_on_of_nodup_map hnodup (mem_nodes_of_node? hm) (mem_nodes_of_node? hn) hseq
  rw [← id_of_node? hm, ← id_of_node? hn, heq]

/-- Nodes that lie in order form a tree. -/
theorem isTree (h : s.WellFormed) : s.IsTree where
  root_folder := h.root
  ids_nodup := h.ids_nodup
  child_present := by
    intro p c hchild
    obtain ⟨m, hm, hmem⟩ := hasChild_iff.mp hchild
    obtain ⟨n, hn, -⟩ := h.exists_younger (mem_nodes_of_node? hm) hmem
    exact ⟨n, hn⟩
  one_parent := by
    intro c n hn hne
    obtain ⟨m, hm, hmem⟩ := h.exists_parent hn hne
    have hnode := node?_of_mem h.ids_nodup hm
    refine ⟨m.id, m.kind.children, browse_of_mem_children hnode hmem, ?_, ?_⟩
    · have hflat := (List.nodup_cons.mp h.nodup_listed).2
      exact List.count_eq_one_of_mem ((List.nodup_flatMap.mp hflat).1 m hm) hmem
    · intro q hchild
      obtain ⟨k, hk, hmemk⟩ := hasChild_iff.mp hchild
      rw [← id_of_node? hk, h.parent_unique (mem_nodes_of_node? hk) hm hmemk hmem]
  root_no_child := by
    intro p hchild
    obtain ⟨m, hm, hmem⟩ := hasChild_iff.mp hchild
    apply (List.nodup_cons.mp h.nodup_listed).1
    exact List.mem_flatMap.mpr ⟨m, mem_nodes_of_node? hm, hmem⟩
  reachable := fun c n hn => h.reachable hn
  acyclic := by
    intro c hcycle
    -- the number would have to be lower than itself
    obtain ⟨d, hfirst, -⟩ := TransGen.head'_iff.mp hcycle
    obtain ⟨m, hm, -⟩ := hasChild_iff.mp hfirst
    obtain ⟨n, hn, hlt⟩ := h.seq_lt_descendant hm hcycle
    rw [hm] at hn
    cases hn
    exact Nat.lt_irrefl _ hlt
  seq_injective := fun a b m n hm hn hseq => h.seq_injective hm hn hseq
  seq_lt_next := fun c n hn => h.seqs_lt n.seq (List.mem_map_of_mem (mem_nodes_of_node? hn))
  seq_lt_child := fun p c m n hchild hm hn => h.seq_lt_child hchild hm hn
  children_increasing := by
    intro p children hbrowse
    obtain ⟨n, hn, rfl⟩ := exists_of_browse hbrowse
    -- what a folder lists are nodes of the table, in the order of the table
    have hids := (h.younger n (mem_nodes_of_node? hn)).trans (List.filter_sublist.map Node.id)
    exact h.ids_increasing.sublist hids

end WellFormed

/-! ## Counting nodes -/

/-- A call adds a node exactly if it says that it has created one. -/
theorem nodeCount_of_effect {c : Call} {answer : Except Error Answer} {t : AddressSpace}
    (heffect : Effect s c answer t) :
    t.nodeCount = s.nodeCount + if Event.creates ⟨c, answer⟩ then 1 else 0 := by
  cases heffect with
  | refused c e => cases c <;> rfl
  | known => rfl
  | registered => rfl
  | folder => simp [nodeCount, withNode, updateNode, Event.creates]
  | scalar => simp [nodeCount, withNode, updateNode, Event.creates]
  | access => simp [nodeCount, withAccess, updateNode, Event.creates]
  | value => simp [nodeCount, withValue, updateNode, Event.creates]

theorem Run.nodeCount {history : List Event} (hrun : Run history s) :
    s.nodeCount = 1 + history.countP Event.creates := by
  induction hrun with
  | start => rfl
  | call c _ _ ih =>
    rw [nodeCount_of_effect (perform_effect c _), ih, List.countP_append, List.countP_singleton,
      Nat.add_assoc]

/-- Whatever is called, and however it ends, the nodes are a tree below the Objects folder, with
one node for that folder and one for each call that has created one. -/
theorem isTree_of_run {history : List Event} {s : AddressSpace} (hrun : Run history s) :
    s.IsTree ∧ s.nodeCount = 1 + history.countP Event.creates :=
  ⟨hrun.wellFormed.isTree, hrun.nodeCount⟩

/-- A run that ends with a variable in the place of its own folder, which is refused. -/
theorem isTree_of_run_plant :
    ∃ s, Run [⟨.registerNamespace "urn:plant", .ok (.index 1)⟩,
          ⟨.addFolder objects 1 "Plant", .ok (.folder ⟨⟨1, "Plant"⟩, "Plant"⟩)⟩,
          ⟨.addVariable ⟨1, "Plant"⟩ ⟨1, "Plant/On"⟩ ⟨"On", .boolean true, .boolean⟩, .ok .done⟩,
          ⟨.addVariable ⟨1, "Plant"⟩ ⟨1, "Plant"⟩ ⟨"On", .boolean true, .boolean⟩,
            .error (.duplicateNode "ns=1;s=Plant;")⟩] s ∧
      s.IsTree ∧ s.nodeCount = 3 := by
  have hrun := (((Run.start.call (.registerNamespace "urn:plant") trivial).call
    (.addFolder objects 1 "Plant") (List.mem_cons_self ..)).call
    (.addVariable ⟨1, "Plant"⟩ ⟨1, "Plant/On"⟩ ⟨"On", .boolean true, .boolean⟩) trivial).call
    (.addVariable ⟨1, "Plant"⟩ ⟨1, "Plant"⟩ ⟨"On", .boolean true, .boolean⟩) trivial
  exact ⟨_, hrun, (isTree_of_run hrun).1, (isTree_of_run hrun).2⟩

end ScalarServer.AddressSpace
