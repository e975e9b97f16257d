import ScalarServer.Proofs.AddressSpace.Store
import ScalarServer.Proofs.AddressSpace.Tree

/-!
# The list of all variables

The list is made anew whenever it is asked for, by sorting the variables of the node table. No two
nodes have one number, so the order of the table does not show in the list; and numbers grow, so the
list has the order in which variables were created.

- `variablesAmong_eq_of_perm`: the order of the table does not show;
- `sublist_allVariables_of_browse`: a folder shows its variables in the order of the list;
- `identities_effect`, `identities_after`: what one call and many calls add to the list;
- `isListing_after`: the list after every sequence of calls.
-/

namespace ScalarServer

/-- What of a variable never changes: its identifier, name and type. -/
def VariableInfo.identity (info : VariableInfo) : NodeId × String × ScalarType :=
  (info.id, info.name, info.type)

namespace AddressSpace

variable {s t : AddressSpace} {id : NodeId}

/-! ## The order of the table -/

/-- Of the nodes of an address space, the same list is made in whatever order they come. -/
theorem variablesAmong_eq_of_perm (h : s.WellFormed) {nodes : List Node}
    (hperm : nodes.Perm s.nodes) : variablesAmong nodes = s.allVariables := by
  have hsorted : ∀ l : List (Nat × VariableInfo),
      (l.mergeSort fun a b => a.1 ≤ b.1).Pairwise fun a b => decide (a.1 ≤ b.1) = true :=
    List.pairwise_mergeSort (by simpa using fun _ _ _ _ _ _ => Nat.le_trans)
      (by simpa using fun _ _ _ _ => Nat.le_total _ _)
  unfold allVariables variablesAmong
  congr 1
  refine List.Perm.eq_of_pairwise ?_ (hsorted _) (hsorted _) ((List.mergeSort_perm _ _).trans
    ((hperm.filterMap numberedVariable?).trans (List.mergeSort_perm _ _).symm))
  -- two entries with one number come from one node
  intro p q hp hq hpq hqp
  obtain ⟨m, hm, hmp⟩ := List.mem_filterMap.mp ((List.mergeSort_perm _ _).mem_iff.mp hp)
  obtain ⟨n, hn, hnq⟩ := List.mem_filterMap.mp ((List.mergeSort_perm _ _).mem_iff.mp hq)
  have hseq : m.seq = n.seq := by
    rw [← seq_of_numberedVariable? hmp, ← seq_of_numberedVariable? hnq]
    exact Nat.le_antisymm (of_decide_eq_true hpq) (of_decide_eq_true hqp)
  have hnodup : (s.nodes.map Node.seq).Nodup := h.seqs_increasing.imp Nat.ne_of_lt
  rw [List.inj_on_of_nodup_map hnodup (hperm.mem_iff.mp hm) hn hseq, hnq] at hmp
  exact (Option.some.inj hmp).symm

/-! ## Folders -/

/-- What clients are told about the variables among some nodes. -/
def infosOf (s : AddressSpace) (ids : List NodeId) : List VariableInfo :=
  ids.filterMap fun id => (s.variableInfo id).toOption

/-- The list of all variables is what clients are told about all nodes, one after the other. -/
theorem infosOf_ids (h : s.WellFormed) : s.infosOf (s.nodes.map Node.id) = s.allVariables := by
  rw [infosOf, List.filterMap_map, allVariables_eq_filterMap h]
  apply List.filterMap_congr
  intro n hn
  have hnode := node?_of_mem h.ids_nodup hn
  obtain ⟨i, seq, kind⟩ := n
  cases kind <;> simp [variableInfo, variableNode, hnode, Node.info?, Except.map, Except.toOption]

/-- A folder shows its variables in the order of the list. -/
theorem sublist_allVariables_of_browse (h : s.WellFormed) {children : List NodeId}
    (hbrowse : s.browse id = .ok children) : (s.infosOf children).Sublist s.allVariables := by
  obtain ⟨n, hn, rfl⟩ := exists_of_browse hbrowse
  -- what a folder lists are nodes of the table, in the order of the table
  have hids : n.kind.children.Sublist (s.nodes.map Node.id) :=
    (h.younger n (mem_nodes_of_node? hn)).trans (List.filter_sublist.map Node.id)
  rw [← infosOf_ids h]
  exact hids.filterMap _

/-- No variable is listed twice. -/
theorem nodup_ids_allVariables (h : s.WellFormed) : (s.allVariables.map (·.id)).Nodup := by
  rw [List.Nodup, List.pairwise_map, allVariables_eq_filterMap h, List.pairwise_filterMap]
  refine (List.pairwise_map.mp h.ids_nodup).imp ?_
  intro m n hne a ha b hb
  obtain ⟨v, -, rfl⟩ := Node.info?_eq_some_iff.mp ha
  obtain ⟨w, -, rfl⟩ := Node.info?_eq_some_iff.mp hb
  exact hne

/-! ## Calls -/

/-- The variable that a call has created. -/
def Event.declared? (e : Event) : Option (NodeId × String × ScalarType) :=
  match e.call, e.result with
  | .addVariable _ id d, .ok _ => some (id, d.name, d.type)
  | _, _ => none

/-- A change of a variable, but for its name and type. -/
theorem identities_updateNode (h : s.WellFormed) (id : NodeId) (f : VariableNode → VariableNode)
    (hf : ∀ v, (f v).name = v.name ∧ (f v).type = v.type) :
    (updateNode id (onVariable f) s).allVariables.map VariableInfo.identity =
      s.allVariables.map VariableInfo.identity := by
  rw [allVariables_eq_filterMap (h.onVariable f), allVariables_eq_filterMap h, updateNode,
    List.filterMap_map, List.map_filterMap, List.map_filterMap]
  congr 1
  funext n
  obtain ⟨i, seq, kind⟩ := n
  by_cases hi : i = id
  · cases kind with
    | folder d => simp [hi, onVariable, Node.info?]
    | scalar v =>
      simp [hi, onVariable, Node.info?, VariableNode.info, VariableInfo.identity, hf v]
  · simp [hi]

/-- A call adds the variable that it creates, and keeps what never changes of the others. -/
theorem identities_effect (h : s.WellFormed) {c : Call} {answer : Except Error Answer}
    (heffect : Effect s c answer t) :
    t.allVariables.map VariableInfo.identity =
      s.allVariables.map VariableInfo.identity ++ (Event.declared? ⟨c, answer⟩).toList := by
  cases heffect with
  | refused c e => cases c <;> exact (List.append_nil _).symm
  | known => exact (List.append_nil _).symm
  | registered => exact (List.append_nil _).symm
  | folder hfits =>
    rw [allVariables_withNode h hfits.vacant rfl, List.map_append]
    rfl
  | @scalar parent id d hfits =>
    have hkind : (NodeKind.scalar (s.newVariable d)).children = [] := rfl
    have hnew := allVariables_withNode h hfits.vacant hkind
    exact (congrArg _ hnew).trans List.map_append
  | @access id access =>
    have hsame := identities_updateNode h id (fun v => { v with access }) fun _ => ⟨rfl, rfl⟩
    exact hsame.trans (List.append_nil _).symm
  | @value id value =>
    have hsame := identities_updateNode h id (fun v => { v with value, stamp := s.clock })
      fun _ => ⟨rfl, rfl⟩
    exact hsame.trans (List.append_nil _).symm

/-- Calls add the variables that they create, in the order of the calls. -/
theorem identities_after (h : s.WellFormed) (calls : List Call) :
    (s.after calls).allVariables.map VariableInfo.identity =
      s.allVariables.map VariableInfo.identity ++
        (s.events calls).filterMap Event.declared? := by
  induction calls generalizing s with
  | nil => exact (List.append_nil _).symm
  | cons c calls ih =>
    have heffect := perform_effect c s
    rw [after, ih (h.effect heffect), identities_effect h heffect, List.append_assoc, events]
    congr 1
    cases hd : Event.declared? ⟨c, (c.perform.run s).result⟩ <;> simp [hd]

theorem wellFormed_after (h : s.WellFormed) (calls : List Call) : (s.after calls).WellFormed := by
  induction calls generalizing s with
  | nil => exact h
  | cons c calls ih => exact ih (h.effect (perform_effect c s))

/-! ## The list -/

theorem allVariables_empty : empty.allVariables = [] := by
  rw [allVariables_eq_filterMap wellFormed_empty]
  rfl

/-- The list of all variables after some calls. -/
structure IsListing (calls : List Call) : Prop where
  /-- These are the variables that calls have created, in the order of the calls. -/
  created : (empty.after calls).allVariables.map VariableInfo.identity =
    (empty.events calls).filterMap Event.declared?
  /-- None is listed twice. -/
  nodup : ((empty.after calls).allVariables.map (·.id)).Nodup
  /-- What is listed is what the look-up of each variable answers. -/
  complete : ∀ id info, (empty.after calls).variableInfo id = .ok info ↔
    info ∈ (empty.after calls).allVariables ∧ info.id = id
  /-- The list does not depend on the order of the node table. -/
  table_order : ∀ nodes : List Node, nodes.Perm (empty.after calls).nodes →
    variablesAmong nodes = (empty.after calls).allVariables
  /-- What a folder shows of the variables is in the order of the list. -/
  folder_order : ∀ id children, (empty.after calls).browse id = .ok children →
    ((empty.after calls).infosOf children).Sublist (empty.after calls).allVariables
  /-- After more calls the list goes on, with the same identifiers, names and types before. -/
  later : ∀ more, (empty.after calls).allVariables.map VariableInfo.identity <+:
    (empty.after (calls ++ more)).allVariables.map VariableInfo.identity

/-- After every sequence of calls, the variables are listed in the order of their creation. -/
theorem isListing_after (calls : List Call) : IsListing calls := by
  have hwell := wellFormed_after wellFormed_empty calls
  exact {
    created := by rw [identities_after wellFormed_empty, allVariables_empty]; rfl
    nodup := nodup_ids_allVariables hwell
    complete := fun _ _ => variableInfo_eq_ok_iff_mem hwell
    table_order := fun _ => variablesAmong_eq_of_perm hwell
    folder_order := fun _ _ => sublist_allVariables_of_browse hwell
    later := by
      intro more
      rw [after_append, identities_after hwell more]
      exact List.prefix_append _ _ }

end AddressSpace

end ScalarServer
