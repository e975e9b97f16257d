import Mathlib.Data.List.Induction
import ScalarServer.Proofs.AddressSpace.Variables

/-!
# Address spaces after writes

After any number of writes a variable has the value that has been written to it last. Apart from
the times, nothing else tells one order of writes from another.

- `lastWritten`: the value that has been written to a variable last;
- `untimed`: an address space without the times;
- `withValues`, `untimed_afterWrites`: what is left of many writes.
-/

namespace ScalarServer

/-- A variable without the time. -/
def VariableNode.untimed (v : VariableNode) : VariableNode :=
  { v with stamp := 0 }

namespace AddressSpace

variable {s t : AddressSpace} {id : NodeId}

/-! ## Last values -/

/-- The value that has been written to a variable last. -/
def lastWritten (id : NodeId) (writes : List (NodeId × Value)) : Option Value :=
  (writes.filterMap fun write => if write.1 = id then some write.2 else none).getLast?

theorem lastWritten_append (id : NodeId) (older newer : List (NodeId × Value)) :
    lastWritten id (older ++ newer) = (lastWritten id newer).or (lastWritten id older) := by
  rw [lastWritten, List.filterMap_append, List.getLast?_append]
  rfl

theorem lastWritten_singleton (id j : NodeId) (value : Value) :
    lastWritten id [(j, value)] = if j = id then some value else none := by
  by_cases hid : j = id <;> simp [lastWritten, hid]

/-! ## Changes of all variables -/

/-- The address space after a change of its variables, by their identifiers. -/
def mapVariables (f : NodeId → VariableNode → VariableNode) (s : AddressSpace) : AddressSpace :=
  { s with nodes := s.nodes.map fun n => { n with kind := onVariable (f n.id) n.kind } }

theorem variableNode_mapVariables (f : NodeId → VariableNode → VariableNode) (id : NodeId) :
    (mapVariables f s).variableNode id = (s.variableNode id).map (f id) := by
  have hnode : (mapVariables f s).node? id =
      (s.node? id).map fun n => { n with kind := onVariable (f n.id) n.kind } := by
    rw [node?, mapVariables, List.find?_map]
    rfl
  unfold variableNode
  rw [hnode]
  cases hn : s.node? id with
  | none => rfl
  | some n =>
    obtain ⟨i, seq, kind⟩ := n
    cases id_of_node? hn
    cases kind <;> rfl

theorem mapVariables_mapVariables (f g : NodeId → VariableNode → VariableNode) :
    mapVariables f (mapVariables g s) = mapVariables (fun id v => f id (g id v)) s := by
  refine AddressSpace.ext rfl ?_ rfl rfl
  rw [mapVariables, mapVariables, mapVariables, List.map_map]
  apply List.map_congr_left
  rintro ⟨id, seq, kind⟩ _
  cases kind <;> rfl

/-- The address space with other values for some variables. -/
def withValues (values : NodeId → Option Value) (s : AddressSpace) : AddressSpace :=
  mapVariables (fun id v => { v with value := (values id).getD v.value }) s

theorem withValues_none : withValues (fun _ => none) s = s := by
  refine AddressSpace.ext rfl ?_ rfl rfl
  apply List.map_id''
  rintro ⟨id, seq, kind⟩
  cases kind <;> rfl

theorem withValues_withValues (newer older : NodeId → Option Value) :
    withValues newer (withValues older s) =
      withValues (fun id => (newer id).or (older id)) s := by
  rw [withValues, withValues, mapVariables_mapVariables, withValues]
  congr 1
  funext id v
  cases newer id <;> rfl

/-! ## Times -/

/-- The address space without the times. -/
def untimed (s : AddressSpace) : AddressSpace :=
  { mapVariables (fun _ => VariableNode.untimed) s with clock := 0 }

theorem variableNode_untimed (id : NodeId) :
    s.untimed.variableNode id = (s.variableNode id).map VariableNode.untimed :=
  variableNode_mapVariables (s := s) (fun _ => VariableNode.untimed) id

/-- Apart from the time, a write changes one value. -/
theorem untimed_withValue (id : NodeId) (value : Value) :
    (s.withValue id value).untimed =
      withValues (fun j => if id = j then some value else none) s.untimed := by
  refine AddressSpace.ext rfl ?_ rfl rfl
  change List.map _ (List.map _ s.nodes) = List.map _ (List.map _ s.nodes)
  rw [List.map_map, List.map_map]
  apply List.map_congr_left
  rintro ⟨j, seq, kind⟩ _
  -- the written node has the value and a time, which is left aside; all others are as they were
  by_cases hid : j = id
  · subst hid
    cases kind <;> simp [onVariable, VariableNode.untimed]
  · have hid' : ¬ id = j := fun h => hid h.symm
    cases kind <;> simp [onVariable, VariableNode.untimed, hid, hid']

/-! ## Many writes -/

/-- The address space after some writes. -/
def afterWrites (s : AddressSpace) (writes : List (NodeId × Value)) : AddressSpace :=
  writes.foldl (fun s write => s.withValue write.1 write.2) s

/-- After some writes, apart from the times, variables have the values written last. -/
theorem untimed_afterWrites (s : AddressSpace) (writes : List (NodeId × Value)) :
    (s.afterWrites writes).untimed = withValues (lastWritten · writes) s.untimed := by
  induction writes using List.reverseRecOn with
  | nil => exact withValues_none.symm
  | append_singleton writes write ih =>
    obtain ⟨id, value⟩ := write
    rw [afterWrites, List.foldl_concat, untimed_withValue]
    -- one more write takes precedence over those before it
    change withValues _ (s.afterWrites writes).untimed = _
    rw [ih, withValues_withValues]
    congr 1
    funext j
    rw [lastWritten_append, lastWritten_singleton]

theorem variableNode_afterWrites (writes : List (NodeId × Value)) (id : NodeId) :
    (s.afterWrites writes).untimed.variableNode id =
      (s.untimed.variableNode id).map fun v =>
        { v with value := (lastWritten id writes).getD v.value } := by
  rw [untimed_afterWrites, withValues, variableNode_mapVariables]

end AddressSpace

end ScalarServer
