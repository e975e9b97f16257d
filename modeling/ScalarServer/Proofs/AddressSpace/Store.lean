import ScalarServer.Proofs.AddressSpace.Variables
import ScalarServer.Proofs.Path

/-!
# The address space as a typed store

Seen through reading and writing, an address space is a store of typed values: what it answers
about an identifier follows from the calls that were made with this identifier and succeeded.
Here every call may be made with every argument, also with folders that the address space has
never handed out.

- `recorded?`: what a history says about a variable, by its creation and the last change since then;
- `step_of_variable`, `step_of_no_variable`: what one call does to a variable, and to an identifier
  without one;
- `variableNode_of_effect`: a call with another identifier does nothing to a variable;
- `exists_node_of_effect`: nodes stay, as what they are;
- `variableNode_of_recorded`, `variableNode_of_not_recorded`: whether there is a variable, and which
  one, by its history;
- `isStore_after`: after every sequence of calls, reading and writing answer what the history says.
-/

namespace ScalarServer

/-- Whether a node is a folder. -/
def NodeKind.isFolder : NodeKind → Bool
  | .folder _ => true
  | .scalar _ => false

@[simp]
theorem isFolder_addChild (child : NodeId) (kind : NodeKind) :
    (AddressSpace.addChild child kind).isFolder = kind.isFolder := by
  cases kind <;> rfl

@[simp]
theorem isFolder_onVariable (f : VariableNode → VariableNode) (kind : NodeKind) :
    (AddressSpace.onVariable f kind).isFolder = kind.isFolder := by
  cases kind <;> rfl

namespace AddressSpace

variable {s t : AddressSpace} {id parent : NodeId} {c : Call} {answer : Except Error Answer}
  {v w x : VariableNode} {e : Event} {history : List Event}

/-! ## What a history says -/

namespace Event

/-- The definition with which a call has created the variable. -/
def created? (id : NodeId) (e : Event) : Option VariableDefinition :=
  match e.call, e.result with
  | .addVariable _ id' d, .ok _ => if id' = id then some d else none
  | _, _ => none

/-- The value that a call has given to the variable. -/
def value? (id : NodeId) (e : Event) : Option Value :=
  match e.call, e.result with
  | .write id' value, .ok _ => if id' = id then some value else none
  | _, _ => none

/-- The access level that a call has given to the variable. -/
def access? (id : NodeId) (e : Event) : Option AccessLevel :=
  match e.call, e.result with
  | .setAccess id' access, .ok _ => if id' = id then some access else none
  | _, _ => none

end Event

/-- The identifier that a call is about. -/
def Call.target? : Call → Option NodeId
  | .registerNamespace _ => none
  | .addFolder parent index name => some (.inFolder index parent.path name)
  | .addVariable _ id _ => some id
  | .setAccess id _ => some id
  | .write id _ => some id

/-- An event that shows nothing about a variable. -/
structure Event.Silent (id : NodeId) (e : Event) : Prop where
  /-- It does not create the variable. -/
  created : e.created? id = none
  /-- It gives it no value. -/
  value : e.value? id = none
  /-- It gives it no access level. -/
  access : e.access? id = none

/-- A refused call shows nothing. -/
theorem Event.silent_of_error (id : NodeId) (c : Call) (error : Error) :
    Event.Silent id ⟨c, .error error⟩ := by
  cases c <;> exact ⟨rfl, rfl, rfl⟩

/-- A call with another identifier shows nothing. -/
theorem Event.silent_of_target_ne (h : c.target? ≠ some id) :
    Event.Silent id ⟨c, answer⟩ := by
  cases answer with
  | error error => exact silent_of_error id c error
  | ok a =>
    cases c <;> simp only [Call.target?, ne_eq, Option.some.injEq, reduceCtorEq] at h <;>
      constructor <;> simp [created?, value?, access?, h]

/-- The last of the things that events show, if any of them shows one. -/
def last? {α : Type} (f : Event → Option α) (history : List Event) : Option α :=
  (history.filterMap f).getLast?

theorem last?_cons {α : Type} (f : Event → Option α) (e : Event) (history : List Event) :
    last? f (e :: history) = (last? f history).or (f e) := by
  unfold last?
  cases h : f e with
  | none => simp [h]
  | some a => simp [h, List.getLast?_cons]

/-- The definition of a variable, and what has happened since it was created. -/
def birth? (id : NodeId) : List Event → Option (VariableDefinition × List Event)
  | [] => none
  | e :: history =>
    match e.created? id with
    | some d => some (d, history)
    | none => birth? id history

/-- What a store has under an identifier. -/
structure Entry where
  /-- How the variable was defined. -/
  definition : VariableDefinition
  /-- Its value. -/
  value : Value
  /-- What clients may do with it. -/
  access : AccessLevel

/-- What a history says about a variable: the value is the last one written since the creation, or
the one of the definition; clients can only read it until something else is set. -/
def recorded? (history : List Event) (id : NodeId) : Option Entry :=
  (birth? id history).map fun (d, since) =>
    ⟨d, (last? (Event.value? id) since).getD d.value,
      (last? (Event.access? id) since).getD .read⟩

theorem birth?_eq_none_iff : birth? id history = none ↔ ∀ e ∈ history, e.created? id = none := by
  induction history with
  | nil => simp [birth?]
  | cons e history ih =>
    rw [List.forall_mem_cons, ← ih, birth?]
    cases e.created? id <;> simp

/-- A silent event changes nothing of what a history says. -/
theorem recorded?_append_silent (history : List Event) (h : e.Silent id) :
    recorded? (history ++ [e]) id = recorded? history id := by
  -- up to the creation, the event is one more of those that show nothing
  induction history with
  | nil => simp [recorded?, birth?, h.created]
  | cons first history ih =>
    simp only [recorded?, List.cons_append, birth?] at ih ⊢
    cases first.created? id with
    | none => exact ih
    | some d => simp [last?, h.value, h.access]

/-! ## What one call does -/

/-- How a variable has come out of some events. -/
structure Follows (id : NodeId) (history : List Event) (v w : VariableNode) : Prop where
  /-- It was not created again. -/
  not_created : ∀ e ∈ history, e.created? id = none
  /-- It has kept its name. -/
  name_eq : w.name = v.name
  /-- It has kept its type. -/
  type_eq : w.type = v.type
  /-- It has the last value that was written. -/
  value_eq : w.value = (last? (Event.value? id) history).getD v.value
  /-- It has the last access level that was set. -/
  access_eq : w.access = (last? (Event.access? id) history).getD v.access
  /-- If its value was of its type, it still is. -/
  value_type : v.value.type = v.type → w.value.type = w.type

theorem Follows.refl (id : NodeId) (v : VariableNode) : Follows id [] v v :=
  ⟨by simp, rfl, rfl, rfl, rfl, fun h => h⟩

theorem Follows.cons (hfirst : Follows id [e] v w) (hrest : Follows id history w x) :
    Follows id (e :: history) v x := by
  have hvalue : w.value = (e.value? id).getD v.value := by
    simpa [last?_cons, last?] using hfirst.value_eq
  have haccess : w.access = (e.access? id).getD v.access := by
    simpa [last?_cons, last?] using hfirst.access_eq
  refine ⟨List.forall_mem_cons.mpr ⟨hfirst.not_created e List.mem_cons_self, hrest.not_created⟩,
    hrest.name_eq.trans hfirst.name_eq, hrest.type_eq.trans hfirst.type_eq, ?_, ?_,
    fun h => hrest.value_type (hfirst.value_type h)⟩
  · rw [hrest.value_eq, hvalue, last?_cons]
    cases last? (Event.value? id) history <;> rfl
  · rw [hrest.access_eq, haccess, last?_cons]
    cases last? (Event.access? id) history <;> rfl

/-- A variable that an event shows nothing about has not changed. -/
theorem Follows.of_silent (h : e.Silent id) : Follows id [e] v v :=
  ⟨by simpa using h.created, rfl, rfl, by simp [last?, h.value], by simp [last?, h.access],
    fun h => h⟩

theorem variableNode_withNode_scalar (h : s.Vacant parent id) (v : VariableNode) :
    (withNode parent id (.scalar v) s).variableNode id = .ok v := by
  rw [variableNode, node?_withNode h, if_pos rfl]

theorem variableNode_withNode_folder (h : s.Vacant parent id) (f : FolderNode) :
    (withNode parent id (.folder f) s).variableNode id =
      .error (.unknownNode (id.text ++ " is not a variable")) := by
  rw [variableNode, node?_withNode h, if_pos rfl]

/-- A call with another identifier leaves a variable, and the lack of one, as it was. -/
theorem variableNode_of_effect (heffect : Effect s c answer t) (h : c.target? ≠ some id) :
    t.variableNode id = s.variableNode id := by
  cases heffect with
  | refused => rfl
  | known => rfl
  | registered => rfl
  | folder hfits =>
    exact variableNode_withNode_of_ne hfits.vacant _ fun hid => h (by rw [hid]; rfl)
  | scalar hfits =>
    exact variableNode_withNode_of_ne hfits.vacant _ fun hid => h (by rw [hid]; rfl)
  | access => rw [variableNode_withAccess, if_neg fun hid => h (by rw [hid]; rfl)]
  | value => rw [variableNode_withValue, if_neg fun hid => h (by rw [hid]; rfl)]

/-- A change that keeps folders folders and variables variables keeps every node what it is. -/
theorem exists_node_updateNode {f : NodeKind → NodeKind} (hf : ∀ k, (f k).isFolder = k.isFolder)
    (j : NodeId) {n : Node} (hn : s.node? id = some n) :
    ∃ m, (updateNode j f s).node? id = some m ∧ m.seq = n.seq ∧
      m.kind.isFolder = n.kind.isFolder := by
  rw [node?_updateNode]
  by_cases hj : id = j
  · rw [if_pos hj, ← hj, hn]
    exact ⟨_, rfl, rfl, hf n.kind⟩
  · rw [if_neg hj]
    exact ⟨n, hn, rfl, rfl⟩

theorem exists_node_withNode (h : s.Vacant parent id) (kind : NodeKind) {j : NodeId} {n : Node}
    (hn : s.node? j = some n) :
    ∃ m, (withNode parent id kind s).node? j = some m ∧ m.seq = n.seq ∧
      m.kind.isFolder = n.kind.isFolder := by
  have hj : j ≠ id := by
    rintro rfl
    rw [h.2] at hn
    cases hn
  rw [node?_withNode h, if_neg hj]
  by_cases hparent : j = parent
  · rw [if_pos hparent, ← hparent, hn]
    exact ⟨_, rfl, rfl, isFolder_addChild id n.kind⟩
  · rw [if_neg hparent]
    exact ⟨n, hn, rfl, rfl⟩

/-- Nodes stay, as what they are. -/
theorem exists_node_of_effect (heffect : Effect s c answer t) {n : Node}
    (hn : s.node? id = some n) :
    ∃ m, t.node? id = some m ∧ m.seq = n.seq ∧ m.kind.isFolder = n.kind.isFolder := by
  cases heffect with
  | refused => exact ⟨n, hn, rfl, rfl⟩
  | known => exact ⟨n, hn, rfl, rfl⟩
  | registered => exact ⟨n, hn, rfl, rfl⟩
  | folder hfits => exact exists_node_withNode hfits.vacant _ hn
  | scalar hfits => exact exists_node_withNode hfits.vacant _ hn
  | access => exact exists_node_updateNode (isFolder_onVariable _) _ hn
  | value => exact exists_node_updateNode (isFolder_onVariable _) _ hn

/-- What a call does to a variable that exists. -/
theorem step_of_variable (heffect : Effect s c answer t) (hv : s.variableNode id = .ok v) :
    ∃ w, t.variableNode id = .ok w ∧ Follows id [⟨c, answer⟩] v w := by
  by_cases htarget : c.target? = some id
  · -- the identifier is taken, so the call creates nothing
    obtain ⟨seq, hnode⟩ := variableNode_eq_ok_iff.mp hv
    cases heffect with
    | refused c e => exact ⟨v, hv, .of_silent (Event.silent_of_error id c e)⟩
    | known => cases htarget
    | registered => cases htarget
    | folder hfits =>
      cases htarget
      rw [hfits.vacant.2] at hnode
      cases hnode
    | scalar hfits =>
      cases htarget
      rw [hfits.vacant.2] at hnode
      cases hnode
    | @access id' access v' hv' =>
      cases htarget
      refine ⟨{ v with access }, ?_, ⟨by simp [Event.created?], rfl, rfl, ?_, ?_, fun h => h⟩⟩
      · rw [variableNode_withAccess, if_pos rfl, hv]
        rfl
      · simp [last?, Event.value?]
      · simp [last?, Event.access?]
    | @value id' value v' hv' haccess htype =>
      cases htarget
      rw [hv] at hv'
      cases hv'
      refine ⟨{ v with value, stamp := s.clock }, ?_,
        ⟨by simp [Event.created?], rfl, rfl, ?_, ?_, fun _ => htype⟩⟩
      · rw [variableNode_withValue, if_pos rfl, hv]
        rfl
      · simp [last?, Event.value?]
      · simp [last?, Event.access?]
  · exact ⟨v, (variableNode_of_effect heffect htarget).trans hv,
      .of_silent (Event.silent_of_target_ne htarget)⟩

/-- A definition as a variable that has just been created. -/
def born (d : VariableDefinition) (stamp : Nat) : VariableNode :=
  ⟨d.name, d.type, d.value, .read, stamp⟩

/-- What a call does where there is no variable: nothing, or it creates one. -/
theorem step_of_no_variable (heffect : Effect s c answer t) {error : Error}
    (hv : s.variableNode id = .error error) :
    (∃ error, t.variableNode id = .error error ∧ Event.created? id ⟨c, answer⟩ = none) ∨
      ∃ d stamp, Event.created? id ⟨c, answer⟩ = some d ∧ d.validate = .ok () ∧
        t.variableNode id = .ok (born d stamp) := by
  by_cases htarget : c.target? = some id
  · cases heffect with
    | refused c e => exact .inl ⟨error, hv, (Event.silent_of_error id c e).created⟩
    | known => cases htarget
    | registered => cases htarget
    | folder hfits =>
      cases htarget
      exact .inl ⟨_, variableNode_withNode_folder hfits.vacant _, rfl⟩
    | @scalar parent id' d hfits =>
      cases htarget
      refine .inr ⟨d, s.clock, by simp [Event.created?], hfits.valid, ?_⟩
      exact variableNode_withNode_scalar hfits.vacant _
    | access hv' =>
      cases htarget
      rw [hv] at hv'
      cases hv'
    | value hv' =>
      cases htarget
      rw [hv] at hv'
      cases hv'
  · exact .inl ⟨error, (variableNode_of_effect heffect htarget).trans hv,
      (Event.silent_of_target_ne htarget).created⟩

/-! ## Sequences of calls -/

/-- The address space after some calls. -/
def after (s : AddressSpace) : List Call → AddressSpace
  | [] => s
  | c :: calls => after (c.perform.run s).state calls

/-- What is called and answered in a sequence of calls. -/
def events (s : AddressSpace) : List Call → List Event
  | [] => []
  | c :: calls => ⟨c, (c.perform.run s).result⟩ :: events (c.perform.run s).state calls

theorem after_append (s : AddressSpace) (calls more : List Call) :
    s.after (calls ++ more) = (s.after calls).after more := by
  induction calls generalizing s with
  | nil => rfl
  | cons c calls ih => exact ih _

theorem events_append (s : AddressSpace) (calls more : List Call) :
    s.events (calls ++ more) = s.events calls ++ (s.after calls).events more := by
  induction calls generalizing s with
  | nil => rfl
  | cons c calls ih => exact congrArg _ (ih _)

/-- What some calls do to a variable that exists. -/
theorem run_of_variable (calls : List Call) (hv : s.variableNode id = .ok v) :
    ∃ w, (s.after calls).variableNode id = .ok w ∧ Follows id (s.events calls) v w := by
  induction calls generalizing s v with
  | nil => exact ⟨v, hv, .refl id v⟩
  | cons c calls ih =>
    obtain ⟨w, hw, hfirst⟩ := step_of_variable (perform_effect c s) hv
    obtain ⟨x, hx, hrest⟩ := ih hw
    exact ⟨x, hx, hfirst.cons hrest⟩

/-- What some calls do where there is no variable. -/
theorem run_of_no_variable (calls : List Call) {error : Error}
    (hv : s.variableNode id = .error error) :
    (∃ error, (s.after calls).variableNode id = .error error ∧
        ∀ e ∈ s.events calls, e.created? id = none) ∨
      ∃ d since stamp w, birth? id (s.events calls) = some (d, since) ∧ d.validate = .ok () ∧
        (s.after calls).variableNode id = .ok w ∧ Follows id since (born d stamp) w := by
  induction calls generalizing s error with
  | nil => exact .inl ⟨error, hv, by simp [events]⟩
  | cons c calls ih =>
    -- before the creation the induction goes on; after it, the variable is followed
    rcases step_of_no_variable (perform_effect c s) hv with
      ⟨error', hv', hnone⟩ | ⟨d, stamp, hsome, hvalid, hborn⟩
    · rcases ih hv' with ⟨error'', hv'', hall⟩ | ⟨d, since, stamp, w, hbirth, hrest⟩
      · exact .inl ⟨error'', hv'', List.forall_mem_cons.mpr ⟨hnone, hall⟩⟩
      · exact .inr ⟨d, since, stamp, w, by simp only [events, birth?, hnone, hbirth], hrest⟩
    · obtain ⟨w, hw, hfollows⟩ := run_of_variable calls hborn
      exact .inr ⟨d, _, stamp, w, by simp only [events, birth?, hsome], hvalid, hw, hfollows⟩

/-- Nodes stay, as what they are, whatever is called. -/
theorem exists_node_after (calls : List Call) {n : Node} (hn : s.node? id = some n) :
    ∃ m, (s.after calls).node? id = some m ∧ m.seq = n.seq ∧
      m.kind.isFolder = n.kind.isFolder := by
  induction calls generalizing s n with
  | nil => exact ⟨n, hn, rfl, rfl⟩
  | cons c calls ih =>
    obtain ⟨m, hm, hseq, hkind⟩ := exists_node_of_effect (perform_effect c s) hn
    obtain ⟨m', hm', hseq', hkind'⟩ := ih hm
    exact ⟨m', hm', hseq'.trans hseq, hkind'.trans hkind⟩

/-! ## The store -/

theorem read_of_ok (hv : s.variableNode id = .ok v) : s.read id = .ok v.value := by
  rw [AddressSpace.read, variableInfo_of_ok hv]
  rfl

theorem read_of_error {error : Error} (hv : s.variableNode id = .error error) :
    s.read id = .error error := by
  rw [AddressSpace.read, variableInfo, hv]
  rfl

/-- What is called a variable that is not there. -/
def missing (s : AddressSpace) (id : NodeId) : String :=
  if (s.node? id).isSome then id.text ++ " is not a variable" else id.text

theorem eq_missing {error : Error} (h : s.variableNode id = .error error) :
    error = .unknownNode (s.missing id) := by
  unfold variableNode at h
  unfold missing
  split at h <;> cases h <;> rename_i hnode <;> simp [hnode]

/-- What writing a value to a variable is answered with, by its access level and type. -/
def writeAnswer (id : NodeId) (access : AccessLevel) (type : ScalarType) (value : Value) :
    Except Error Unit :=
  if access ≠ .readWrite then .error (.notWritable id.text)
  else if value.type ≠ type then .error (.typeMismatch type value.type.name)
  else .ok ()

theorem write_result (hv : s.variableNode id = .ok v) (value : Value) :
    ((write id value).run s).result = writeAnswer id v.access v.type value := by
  unfold writeAnswer
  by_cases haccess : v.access = .readWrite
  · by_cases htype : value.type = v.type
    · simp [write_of_writable hv haccess htype, haccess, htype]
    · have hnot : ¬ (v.access = .readWrite ∧ value.type = v.type) := fun h => htype h.2
      simp [write_of_not_writable hv hnot, writeRefusal, haccess, htype]
  · have hnot : ¬ (v.access = .readWrite ∧ value.type = v.type) := fun h => haccess h.1
    simp [write_of_not_writable hv hnot, writeRefusal, haccess]

/-- What the node table answers about an identifier after some calls, by the history of the
calls. -/
structure IsStore (calls : List Call) (id : NodeId) : Prop where
  /-- A variable can be read exactly if it was created. -/
  read_iff : (∃ value, (empty.after calls).read id = .ok value) ↔
    ∃ e ∈ empty.events calls, ∃ d, e.created? id = some d
  /-- It is created only once. -/
  created_once : ∀ d since, birth? id (empty.events calls) = some (d, since) →
    ∀ e ∈ since, e.created? id = none
  /-- What is read is the last value that was written, or the first one. -/
  read : ∀ entry, recorded? (empty.events calls) id = some entry →
    (empty.after calls).read id = .ok entry.value
  /-- Name and type are those of the definition, and it is writable if that was set last. -/
  info : ∀ entry, recorded? (empty.events calls) id = some entry →
    ∃ stamp, (empty.after calls).variableInfo id = .ok ⟨id, entry.definition.name,
      entry.definition.type, entry.value, entry.access = .readWrite, stamp⟩
  /-- The value is always of the type. -/
  value_type : ∀ entry, recorded? (empty.events calls) id = some entry →
    entry.value.type = entry.definition.type
  /-- Where there is no variable, writing is refused for that reason. -/
  write_missing : ∀ value, recorded? (empty.events calls) id = none →
    ((write id value).run (empty.after calls)).result =
      .error (.unknownNode ((empty.after calls).missing id))
  /-- A variable has to be writable first, and the value has to be of its type then. -/
  write : ∀ value entry, recorded? (empty.events calls) id = some entry →
    ((AddressSpace.write id value).run (empty.after calls)).result =
      writeAnswer id entry.access entry.definition.type value
  /-- Nodes stay, as what they are. -/
  node_stays : ∀ more n, (empty.after calls).node? id = some n →
    ∃ m, (empty.after (calls ++ more)).node? id = some m ∧ m.seq = n.seq ∧
      m.kind.isFolder = n.kind.isFolder
  /-- Calls with other identifiers do not touch what reading and writing look up. -/
  others : ∀ c, c.target? ≠ some id →
    (empty.after (calls ++ [c])).variableNode id = (empty.after calls).variableNode id ∧
      recorded? (empty.events (calls ++ [c])) id = recorded? (empty.events calls) id

/-- In the beginning there is no variable. -/
theorem exists_variableNode_empty (id : NodeId) :
    ∃ error, empty.variableNode id = .error error := by
  by_cases hid : id = objectsId
  · exact ⟨_, by rw [hid]; rfl⟩
  · have hnone : empty.node? id = none := by
      rw [node?_eq_none_iff]
      simpa [empty] using hid
    exact ⟨_, by rw [variableNode, hnone]⟩

/-- Where the history says nothing, there is no variable. -/
theorem variableNode_of_not_recorded {calls : List Call}
    (h : recorded? (empty.events calls) id = none) :
    (empty.after calls).variableNode id =
      .error (.unknownNode ((empty.after calls).missing id)) := by
  have hbirth : birth? id (empty.events calls) = none := Option.map_eq_none_iff.mp h
  obtain ⟨error, hempty⟩ := exists_variableNode_empty id
  rcases run_of_no_variable calls hempty with ⟨error', hv, -⟩ | ⟨d, since, -, -, hsome, -⟩
  · exact eq_missing hv ▸ hv
  · rw [hbirth] at hsome
    cases hsome

/-- A variable that was created is created only once, and has come out of the events since then. -/
theorem variableNode_of_birth {calls : List Call} {d : VariableDefinition} {since : List Event}
    (h : birth? id (empty.events calls) = some (d, since)) :
    d.validate = .ok () ∧ ∃ stamp w, (empty.after calls).variableNode id = .ok w ∧
      Follows id since (born d stamp) w := by
  obtain ⟨error, hempty⟩ := exists_variableNode_empty id
  rcases run_of_no_variable calls hempty with
    ⟨-, -, hnone⟩ | ⟨d', since', stamp, w, hsome, hvalid, hw, hfollows⟩
  · rw [birth?_eq_none_iff.mpr hnone] at h
    cases h
  · cases hsome.symm.trans h
    exact ⟨hvalid, stamp, w, hw, hfollows⟩

/-- A variable is as its history says, and its value is of its type. -/
theorem variableNode_of_recorded {calls : List Call} {entry : Entry}
    (h : recorded? (empty.events calls) id = some entry) :
    ∃ stamp, (empty.after calls).variableNode id = .ok ⟨entry.definition.name,
        entry.definition.type, entry.value, entry.access, stamp⟩ ∧
      entry.value.type = entry.definition.type := by
  obtain ⟨⟨d, since⟩, hbirth, rfl⟩ := Option.map_eq_some_iff.mp h
  obtain ⟨hvalid, stamp, ⟨name, type, value, access, stamp'⟩, hw, hfollows⟩ :=
    variableNode_of_birth hbirth
  obtain ⟨-, hname, htype, hvalue, haccess, hkeeps⟩ := hfollows
  have htyped := hkeeps (validate_eq_ok_iff.mp hvalid).2
  simp only [born] at hname htype hvalue haccess htyped
  subst hname htype hvalue haccess
  exact ⟨stamp', hw, htyped⟩

/-- The history says something about an identifier exactly if a variable was created with it. -/
theorem exists_recorded?_iff :
    (∃ entry, recorded? history id = some entry) ↔
      ∃ e ∈ history, ∃ d, e.created? id = some d := by
  rw [← Option.isSome_iff_exists, ← not_iff_not, Option.not_isSome_iff_eq_none, recorded?,
    Option.map_eq_none_iff, birth?_eq_none_iff]
  simp only [not_exists, not_and, Option.eq_none_iff_forall_ne_some, ne_eq]

/-- What can be read is what the history says something about. -/
theorem exists_read_iff (calls : List Call) (id : NodeId) :
    (∃ value, (empty.after calls).read id = .ok value) ↔
      ∃ entry, recorded? (empty.events calls) id = some entry := by
  cases h : recorded? (empty.events calls) id with
  | none =>
    rw [read_of_error (variableNode_of_not_recorded h)]
    simp
  | some entry =>
    obtain ⟨stamp, hv, -⟩ := variableNode_of_recorded h
    exact iff_of_true ⟨entry.value, read_of_ok hv⟩ ⟨entry, rfl⟩

/-- The address space is a typed store. -/
theorem isStore_after (calls : List Call) (id : NodeId) : IsStore calls id where
  read_iff := (exists_read_iff calls id).trans exists_recorded?_iff
  created_once := by
    intro d since h
    obtain ⟨-, stamp, w, -, hfollows⟩ := variableNode_of_birth h
    exact hfollows.not_created
  read := by
    intro entry h
    obtain ⟨stamp, hv, -⟩ := variableNode_of_recorded h
    exact read_of_ok hv
  info := by
    intro entry h
    obtain ⟨stamp, hv, -⟩ := variableNode_of_recorded h
    exact ⟨stamp, variableInfo_eq_ok_iff.mpr ⟨_, hv, rfl⟩⟩
  value_type := by
    intro entry h
    obtain ⟨stamp, -, htype⟩ := variableNode_of_recorded h
    exact htype
  write_missing := by
    intro value h
    exact (write_of_not_variable value (variableNode_of_not_recorded h)).1
  write := by
    intro value entry h
    obtain ⟨stamp, hv, -⟩ := variableNode_of_recorded h
    exact write_result hv value
  node_stays := by
    intro more n hn
    rw [after_append]
    exact exists_node_after more hn
  others := by
    intro c hc
    rw [after_append, events_append]
    exact ⟨variableNode_of_effect (perform_effect c _) hc,
      recorded?_append_silent _ (Event.silent_of_target_ne hc)⟩

-- only the second of three writes counts: the variable is not writable before, and a text is not of
-- its type
example : recorded? (empty.events [
      .addVariable objectsId ⟨0, "Valve"⟩ ⟨"Valve", .boolean false, .boolean⟩,
      .write ⟨0, "Valve"⟩ (.boolean false),
      .setAccess ⟨0, "Valve"⟩ .readWrite,
      .write ⟨0, "Valve"⟩ (.boolean true),
      .write ⟨0, "Valve"⟩ (.string "open")]) ⟨0, "Valve"⟩ =
    some ⟨⟨"Valve", .boolean false, .boolean⟩, .boolean true, .readWrite⟩ := by
  rfl

end AddressSpace

end ScalarServer
