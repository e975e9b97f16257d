import ScalarServer.Proofs.AddressSpace.WellFormed

/-!
# The variables of an address space

The list of all variables, and the look-up of one of them, after changes of the nodes.

- `allVariables_eq_filterMap`: the list of all variables is read off the nodes from first to last;
- `variableInfo_eq_ok_iff_mem`: it holds what the look-up of each of them answers, and no more;
- `allVariables_withNode`: a new variable stands behind all others;
- `variableNode_updateNode`, `allVariables_updateNode`: what a change of one variable does;
- `exists_variableNode_effect`: no call takes a variable away or changes its name or type.
-/

namespace ScalarServer

/-- What clients are told about a node, if it is a variable. -/
def Node.info? (n : Node) : Option VariableInfo :=
  match n.kind with
  | .scalar v => some (v.info n.id)
  | .folder _ => none

/-- What clients are told about a variable, without the time. -/
def VariableInfo.untimed (info : VariableInfo) : VariableInfo :=
  { info with stamp := 0 }

theorem Node.info?_eq_some_iff {n : Node} {info : VariableInfo} :
    n.info? = some info ↔ ∃ v, n.kind = .scalar v ∧ v.info n.id = info := by
  unfold Node.info?
  cases n.kind <;> simp

namespace AddressSpace

variable {s : AddressSpace} {id parent : NodeId}

/-- A variable is sorted by the number of its node. -/
theorem seq_of_numberedVariable? {n : Node} {p : Nat × VariableInfo}
    (h : numberedVariable? n = some p) : p.1 = n.seq := by
  unfold numberedVariable? at h
  split at h <;> cases h
  rfl

/-- Since nodes are in the order of their numbers, nothing is left to sort. -/
theorem allVariables_eq_filterMap (h : s.WellFormed) :
    s.allVariables = s.nodes.filterMap Node.info? := by
  -- the sort does nothing to a list that is in order
  have hsorted : (s.nodes.filterMap numberedVariable?).Pairwise
      fun a b => decide (a.1 ≤ b.1) = true := by
    rw [List.pairwise_filterMap]
    refine (List.pairwise_map.mp h.seqs_increasing).imp ?_
    intro m n hlt a ha b hb
    rw [decide_eq_true_eq, seq_of_numberedVariable? ha, seq_of_numberedVariable? hb]
    exact Nat.le_of_lt hlt
  rw [allVariables, variablesAmong, List.mergeSort_of_pairwise hsorted, List.map_filterMap]
  congr 1
  funext n
  unfold numberedVariable? Node.info?
  cases n.kind <;> rfl

/-- The list of all variables holds what the look-up of each one answers. -/
theorem variableInfo_eq_ok_iff_mem (h : s.WellFormed) {info : VariableInfo} :
    s.variableInfo id = .ok info ↔ info ∈ s.allVariables ∧ info.id = id := by
  rw [allVariables_eq_filterMap h, List.mem_filterMap, variableInfo_eq_ok_iff]
  constructor
  · rintro ⟨v, hv, rfl⟩
    obtain ⟨seq, hnode⟩ := variableNode_eq_ok_iff.mp hv
    exact ⟨⟨_, mem_nodes_of_node? hnode, rfl⟩, rfl⟩
  · rintro ⟨⟨n, hn, hinfo⟩, rfl⟩
    obtain ⟨v, hkind, rfl⟩ := Node.info?_eq_some_iff.mp hinfo
    refine ⟨v, variableNode_eq_ok_iff.mpr ⟨n.seq, ?_⟩, rfl⟩
    change s.node? n.id = _
    rw [node?_of_mem h.ids_nodup hn, ← hkind]
    rfl

theorem variableInfo_of_mem (h : s.WellFormed) {info : VariableInfo}
    (hmem : info ∈ s.allVariables) : s.variableInfo info.id = .ok info :=
  (variableInfo_eq_ok_iff_mem h).mpr ⟨hmem, rfl⟩

/-- A variable that is listed can be looked up. -/
theorem exists_variableInfo_of_mem (h : s.WellFormed) {listed : VariableInfo}
    (hmem : listed ∈ s.allVariables.map VariableInfo.untimed) :
    ∃ info, s.variableInfo listed.id = .ok info ∧ info.untimed = listed := by
  obtain ⟨info, hinfo, rfl⟩ := List.mem_map.mp hmem
  exact ⟨info, variableInfo_of_mem h hinfo, rfl⟩

/-- No two variables have one identifier. -/
theorem eq_of_id_eq (h : s.WellFormed) {a b : VariableInfo}
    (ha : a ∈ s.allVariables.map VariableInfo.untimed)
    (hb : b ∈ s.allVariables.map VariableInfo.untimed) (hid : a.id = b.id) : a = b := by
  obtain ⟨info, hinfo, rfl⟩ := exists_variableInfo_of_mem h ha
  obtain ⟨other, hother, rfl⟩ := exists_variableInfo_of_mem h hb
  rw [hid, hother, Except.ok.injEq] at hinfo
  rw [hinfo]

/-- A search of the list finds what the look-up answers. -/
theorem find?_allVariables_of_ok (h : s.WellFormed) {info : VariableInfo}
    (hinfo : s.variableInfo id = .ok info) :
    (s.allVariables.map VariableInfo.untimed).find? (·.id = id) = some info.untimed := by
  obtain ⟨hmem, hid⟩ := (variableInfo_eq_ok_iff_mem h).mp hinfo
  have hlisted : info.untimed ∈ s.allVariables.map VariableInfo.untimed := List.mem_map_of_mem hmem
  cases hfind : (s.allVariables.map VariableInfo.untimed).find? (·.id = id) with
  | none =>
    have hnone := List.find?_eq_none.mp hfind info.untimed hlisted
    exact absurd (decide_eq_true hid) hnone
  | some found =>
    have hfound := List.mem_of_find?_eq_some hfind
    have hid' : found.id = id := by simpa using List.find?_some hfind
    rw [eq_of_id_eq h hfound hlisted (hid'.trans hid.symm)]

theorem find?_allVariables_of_error (h : s.WellFormed) {e : Error}
    (hinfo : s.variableInfo id = .error e) :
    (s.allVariables.map VariableInfo.untimed).find? (·.id = id) = none := by
  rw [List.find?_eq_none]
  intro found hfound hid
  obtain ⟨info, hother, -⟩ := exists_variableInfo_of_mem h hfound
  rw [of_decide_eq_true hid, hinfo] at hother
  cases hother

/-! ## After changes -/

/-- More children do not make a difference to variables. -/
theorem filterMap_info?_addChild (child : NodeId) :
    (updateNode id (addChild child) s).nodes.filterMap Node.info? =
      s.nodes.filterMap Node.info? := by
  simp only [updateNode, List.filterMap_map]
  congr 1
  funext n
  obtain ⟨i, seq, kind⟩ := n
  simp only [Function.comp_apply]
  split
  · cases kind <;> rfl
  · rfl

/-- A new node stands behind all variables if it is one. -/
theorem allVariables_withNode (h : s.WellFormed) (hvacant : s.Vacant parent id)
    {kind : NodeKind} (hkind : kind.children = []) :
    (withNode parent id kind s).allVariables =
      s.allVariables ++ (Node.info? ⟨id, s.nextSeq, kind⟩).toList := by
  rw [allVariables_eq_filterMap (h.withNode hvacant hkind), allVariables_eq_filterMap h,
    withNode_nodes hvacant, List.filterMap_append, filterMap_info?_addChild]
  cases hinfo : Node.info? ⟨id, s.nextSeq, kind⟩ <;> simp [hinfo]

/-- A change of one variable is all that look-ups see of it. -/
theorem variableNode_updateNode (f : VariableNode → VariableNode) (j : NodeId) :
    (updateNode id (onVariable f) s).variableNode j =
      if j = id then (s.variableNode id).map f else s.variableNode j := by
  unfold variableNode
  rw [node?_updateNode]
  by_cases hj : j = id
  · rw [if_pos hj, if_pos hj, hj]
    cases s.node? id with
    | none => rfl
    | some n =>
      obtain ⟨i, seq, kind⟩ := n
      cases kind <;> rfl
  · rw [if_neg hj, if_neg hj]

/-- A change of one variable is all that the list of all variables shows of it. -/
theorem allVariables_updateNode (h : s.WellFormed) {f : VariableNode → VariableNode}
    {g : VariableInfo → VariableInfo} (hfg : ∀ v, (f v).info id = g (v.info id)) :
    (updateNode id (onVariable f) s).allVariables =
      s.allVariables.map fun info => if info.id = id then g info else info := by
  rw [allVariables_eq_filterMap (h.onVariable f), allVariables_eq_filterMap h,
    List.map_filterMap]
  simp only [updateNode, List.filterMap_map]
  congr 1
  funext n
  obtain ⟨i, seq, kind⟩ := n
  cases kind with
  | folder d =>
    simp only [Function.comp_apply]
    split <;> rfl
  | scalar v =>
    simp only [Function.comp_apply, Node.info?, Option.map_some]
    by_cases hi : i = id
    · subst hi
      simpa [onVariable, VariableNode.info] using hfg v
    · simp [hi, VariableNode.info]

/-- After a write, the variable is listed with the new value. -/
theorem allVariables_withValue (h : s.WellFormed) (id : NodeId) (value : Value) :
    (s.withValue id value).allVariables = s.allVariables.map fun info =>
      if info.id = id then { info with value, stamp := s.clock } else info :=
  allVariables_updateNode h fun _ => rfl

theorem variableNode_withValue (id : NodeId) (value : Value) (j : NodeId) :
    (s.withValue id value).variableNode j =
      if j = id then (s.variableNode id).map fun v => { v with value, stamp := s.clock }
      else s.variableNode j :=
  variableNode_updateNode _ j

/-- A change of the access level of a variable is all that look-ups see of it. -/
theorem variableNode_withAccess (id : NodeId) (access : AccessLevel) (j : NodeId) :
    (s.withAccess id access).variableNode j =
      if j = id then (s.variableNode id).map fun v => { v with access } else s.variableNode j :=
  variableNode_updateNode _ j

/-- A new node is found under its own identifier only. -/
theorem variableNode_withNode_of_ne (h : s.Vacant parent id) (kind : NodeKind) {j : NodeId}
    (hj : j ≠ id) : (withNode parent id kind s).variableNode j = s.variableNode j := by
  rw [variableNode, variableNode, node?_withNode h, if_neg hj]
  by_cases hparent : j = parent
  · -- the parent is a folder, with one more child and without
    obtain ⟨f, hf⟩ := h.1
    obtain ⟨seq, hnode⟩ := folder?_eq_some_iff.mp hf
    rw [if_pos hparent, hparent, hnode]
    rfl
  · rw [if_neg hparent]

/-- A new node hides no variable. -/
theorem variableNode_withNode (h : s.Vacant parent id) (kind : NodeKind) {j : NodeId}
    {v : VariableNode} (hv : s.variableNode j = .ok v) :
    (withNode parent id kind s).variableNode j = .ok v := by
  obtain ⟨seq, hnode⟩ := variableNode_eq_ok_iff.mp hv
  have hid : j ≠ id := by
    rintro rfl
    rw [h.2] at hnode
    cases hnode
  rw [variableNode_withNode_of_ne h kind hid, hv]

/-- A variable stays a variable, with its name and type, whatever is called. -/
theorem exists_variableNode_effect {c : Call} {answer : Except Error Answer} {t : AddressSpace}
    (heffect : Effect s c answer t) {j : NodeId} {v : VariableNode}
    (hv : s.variableNode j = .ok v) :
    ∃ w, t.variableNode j = .ok w ∧ w.name = v.name ∧ w.type = v.type := by
  cases heffect with
  | refused => exact ⟨v, hv, rfl, rfl⟩
  | known => exact ⟨v, hv, rfl, rfl⟩
  | registered => exact ⟨v, hv, rfl, rfl⟩
  | folder hfits => exact ⟨v, variableNode_withNode hfits.vacant _ hv, rfl, rfl⟩
  | scalar hfits => exact ⟨v, variableNode_withNode hfits.vacant _ hv, rfl, rfl⟩
  | @access id access v' hv' =>
    rw [variableNode_withAccess]
    by_cases hj : j = id
    · rw [if_pos hj, ← hj, hv]
      exact ⟨_, rfl, rfl, rfl⟩
    · rw [if_neg hj]
      exact ⟨v, hv, rfl, rfl⟩
  | @value id value v' hv' =>
    rw [variableNode_withValue]
    by_cases hj : j = id
    · rw [if_pos hj, ← hj, hv]
      exact ⟨_, rfl, rfl, rfl⟩
    · rw [if_neg hj]
      exact ⟨v, hv, rfl, rfl⟩

end AddressSpace

end ScalarServer
