import ScalarServer.Proofs.AddressSpace.Run
import ScalarServer.Proofs.Http.Stores

/-!
# What is refused leaves no trace

A call of an operation that is refused, and a request that is not answered with success, leave the
address space as it was: its namespaces, all nodes with their values, access levels, times and
children, and the numbers that nodes and changes have next.

- `Call.Possible`: all that a call needs;
- `perform_refused_iff`: a call is refused exactly if it is not possible;
- `Effect.state_eq`: a refused call has no effect;
- `refusals_leave_no_trace`: both, with what holds of requests.
-/

namespace ScalarServer

namespace AddressSpace

variable {s t : AddressSpace} {c : Call}

/-- When a call can be answered: there is room for the namespace; what is created fits; what is
changed is a variable; and a value that is written is of the type of a variable that clients may
write. -/
def Call.Possible (s : AddressSpace) : Call → Prop
  | .registerNamespace uri => uri ∈ s.namespaces ∨ s.namespaces.length < 65536
  | .addFolder parent index name => s.FolderFits parent index name
  | .addVariable parent id d => s.VariableFits parent id d
  | .setAccess id _ => ∃ v, s.variableNode id = .ok v
  | .write id value =>
    ∃ v, s.variableNode id = .ok v ∧ v.access = .readWrite ∧ value.type = v.type

/-- A refused call has no effect. -/
theorem Effect.state_eq {e : Error} (h : Effect s c (.error e) t) : t = s := by
  cases h
  rfl

theorem Effect.possible {answer : Answer} (h : Effect s c (.ok answer) t) : c.Possible s := by
  cases h with
  | known h => exact .inl h
  | registered _ hroom => exact .inr hroom
  | folder h => exact h
  | scalar h => exact h
  | access h => exact ⟨_, h⟩
  | value h haccess htype => exact ⟨_, h, haccess, htype⟩

theorem perform_of_possible (h : c.Possible s) :
    ∃ answer, (c.perform.run s).result = .ok answer := by
  cases c with
  | registerNamespace uri =>
    by_cases hmem : uri ∈ s.namespaces
    · simp [Call.perform, registerNamespace_of_mem hmem, Except.map]
    · have hroom := h.resolve_left hmem
      simp [Call.perform, registerNamespace_of_room hmem hroom, Except.map]
  | addFolder parent index name =>
    simp [Call.perform, addFolder_of_fits (h : s.FolderFits parent index name), Except.map]
  | addVariable parent id d =>
    simp [Call.perform, addVariable_of_fits (h : s.VariableFits parent id d), Except.map]
  | setAccess id access =>
    obtain ⟨v, hv⟩ := h
    simp [Call.perform, setAccess_of_variable access hv, Except.map]
  | write id value =>
    obtain ⟨v, hv, haccess, htype⟩ := h
    simp [Call.perform, write_of_writable hv haccess htype, Except.map]

/-- A call is refused exactly if it is not possible. -/
theorem perform_refused_iff (c : Call) (s : AddressSpace) :
    (∃ e, (c.perform.run s).result = .error e) ↔ ¬ c.Possible s := by
  constructor
  · rintro ⟨e, he⟩ hpossible
    obtain ⟨answer, hanswer⟩ := perform_of_possible hpossible
    rw [he] at hanswer
    cases hanswer
  · intro hnot
    cases hresult : (c.perform.run s).result with
    | error e => exact ⟨e, rfl⟩
    | ok answer =>
      have heffect := perform_effect c s
      rw [hresult] at heffect
      exact absurd heffect.possible hnot

theorem perform_state_of_error {e : Error} (h : (c.perform.run s).result = .error e) :
    (c.perform.run s).state = s := by
  have heffect := perform_effect c s
  rw [h] at heffect
  exact heffect.state_eq

end AddressSpace

open AddressSpace Http

/-- In every address space, a call that is not possible is refused, and no other; and a refused
call, as well as a request that is not answered with success, leaves everything as it was. -/
theorem refusals_leave_no_trace (s : AddressSpace) :
    (∀ c : Call, ((∃ e, (c.perform.run s).result = .error e) ↔ ¬ c.Possible s) ∧
      ∀ e, (c.perform.run s).result = .error e → (c.perform.run s).state = s) ∧
    (∀ id e, ((setWritable id).run s).result = .error e → ((setWritable id).run s).state = s) ∧
    (∀ v q, ∃ response, ((answer v q).run s).result = .ok response ∧
      (response.status ≠ 200 → ((answer v q).run s).state = s)) ∧
    ∀ v r, ∃ response, ((respond v r).run s).result = .ok response ∧
      (response.status ≠ 200 → ((respond v r).run s).state = s) := by
  refine ⟨?_, ?_, ?_, ?_⟩
  · exact fun c => ⟨perform_refused_iff c s, fun e => perform_state_of_error⟩
  · intro id e he
    cases hv : s.variableNode id with
    | error e' => exact (setAccess_of_not_variable .readWrite hv).2
    | ok v =>
      rw [setWritable, (setAccess_of_variable .readWrite hv).1] at he
      cases he
  · intro v q
    refine ⟨_, Action.recover_result _ _ _, fun hstatus => ?_⟩
    rw [answer_state, stores?_of_status_ne (Action.recover_result _ _ _) hstatus]
    rfl
  · intro v r
    obtain ⟨response, hresponse⟩ := exists_response v r s
    refine ⟨response, hresponse, fun hstatus => ?_⟩
    cases hq : handled? v r with
    | none => exact respond_state_of_not_handled hq s
    | some q =>
      obtain ⟨hresult, hstate⟩ := respond_of_handled hq s
      rw [hresult] at hresponse
      rw [hstate, answer_state, stores?_of_status_ne hresponse hstatus]
      rfl

/-- An address space with a variable that clients can only read. -/
def valve : AddressSpace :=
  ((addVariable objectsId ⟨0, "Valve"⟩ ⟨"Valve", .boolean false, .boolean⟩).run empty).state

/-- A request to write this variable. -/
def openValve : Request :=
  ⟨.put, "/nodes/Valve", [("Content-Type", "application/json")], "\x7b\"value\": true\x7d"⟩

/-- A value of the right type that comes as far as the store is refused there, and the variable
keeps its value; so does a request to write it. -/
theorem refusals_leave_no_trace_valve :
    (((Call.write ⟨0, "Valve"⟩ (.boolean true)).perform.run valve).result =
        .error (.notWritable "ns=0;s=Valve;") ∧
      ((Call.write ⟨0, "Valve"⟩ (.boolean true)).perform.run valve).state = valve) ∧
    (((respond ⟨.anonymous, 0, ""⟩ openValve).run valve).result =
        .ok (.ofError (.notWritable "ns=0;s=Valve;")) ∧
      ((respond ⟨.anonymous, 0, ""⟩ openValve).run valve).state = valve) := by
  have hcall : ((Call.write ⟨0, "Valve"⟩ (.boolean true)).perform.run valve).result =
      .error (.notWritable "ns=0;s=Valve;") := rfl
  have hhandled : handled? ⟨.anonymous, 0, ""⟩ openValve =
      some (.write "Valve" ⟨.bool true, false⟩) := by
    have hpath : decodePath? "Valve".toList = some "Valve" := by decide +kernel
    rw [handled?, if_pos (.inl rfl)]
    change (decodePath? "Valve".toList).bind _ = _
    rw [hpath]
    rfl
  have hrequest : ((respond ⟨.anonymous, 0, ""⟩ openValve).run valve).result =
      .ok (.ofError (.notWritable "ns=0;s=Valve;")) :=
    (respond_of_handled hhandled valve).1
  obtain ⟨hcalls, -, -, hrequests⟩ := refusals_leave_no_trace valve
  obtain ⟨response, hresponse, hstate⟩ := hrequests ⟨.anonymous, 0, ""⟩ openValve
  rw [hrequest, Except.ok.injEq] at hresponse
  subst hresponse
  exact ⟨⟨hcall, (hcalls _).2 _ hcall⟩, hrequest, hstate (by decide)⟩

end ScalarServer
