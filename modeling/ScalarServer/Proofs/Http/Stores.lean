import ScalarServer.Proofs.Credentials
import ScalarServer.Proofs.Http.Handlers

/-!
# What a request stores

A request stores at most one value: the one that a handler has decoded, in a variable that clients
may write. All else that is requested leaves the nodes alone.

- `NodeRequest.stores?`: what a request stores, by the access level and the type of the variable;
- `writeNode_cases`: a request to write is refused, or stores its value and is answered with
  success;
- `answer_state`: what a request stores is all that it does;
- `handled?`: the request that a handler gets, if one does;
- `respond_of_handled`, `respond_state_of_not_handled`: what the service does with a request;
- `respond_state_eq`: what a request stores is all that it does, also in the service.
-/

namespace ScalarServer.Http

open AddressSpace

variable {v : Service} {s : AddressSpace} {id : NodeId} {path : String} {w : WriteRequest}
  {q : NodeRequest} {r : Request}

/-- The address space after a value has been stored, if one has. -/
def afterStore (s : AddressSpace) : Option (NodeId × Value) → AddressSpace
  | none => s
  | some (id, value) => s.withValue id value

/-- What a request stores, and where: a value that can be decoded for the type of the variable that
the path names, if clients may write that variable. -/
def NodeRequest.stores? (v : Service) (s : AddressSpace) :
    NodeRequest → Option (NodeId × Value)
  | .write path w =>
    match resolveNodeId v path with
    | .error _ => none
    | .ok id =>
      match s.variableNode id with
      | .error _ => none
      | .ok node =>
        if node.access = .readWrite then (w.decode node.type).toOption.map (id, ·) else none
  | _ => none

/-- What a request stores can be decoded, and written. -/
theorem NodeRequest.stores?_eq_some {value : Value} (h : q.stores? v s = some (id, value)) :
    ∃ path w node, q = .write path w ∧ resolveNodeId v path = .ok id ∧
      s.variableNode id = .ok node ∧ node.access = .readWrite ∧
      w.decode node.type = .ok value := by
  cases q with
  | list => cases h
  | read path => cases h
  | write path w =>
    simp only [NodeRequest.stores?] at h
    cases hid : resolveNodeId v path with
    | error e => simp [hid] at h
    | ok j =>
      cases hnode : s.variableNode j with
      | error e => simp [hid, hnode] at h
      | ok node =>
        cases hdecode : w.decode node.type with
        | error e => simp [hid, hnode, hdecode, Except.toOption] at h
        | ok decoded =>
          obtain ⟨haccess, rfl, rfl⟩ : node.access = .readWrite ∧ j = id ∧ decoded = value := by
            simpa [hid, hnode, hdecode, Except.toOption] using h
          exact ⟨path, w, node, rfl, hid, hnode, haccess, hdecode⟩

/-! ## Handlers -/

theorem writeNode_of_read_only {node : VariableNode} {value : Value}
    (hid : resolveNodeId v path = .ok id) (hnode : s.variableNode id = .ok node)
    (haccess : node.access ≠ .readWrite) (hdecode : w.decode node.type = .ok value) :
    ((writeNode v path w).run s).result = .error (.notWritable id.text) ∧
      ((writeNode v path w).run s).state = s := by
  have hnot : ¬ (node.access = .readWrite ∧ value.type = node.type) := fun h => haccess h.1
  obtain ⟨hwrite, hstate⟩ := write_of_not_writable hnode hnot
  have hinfo : s.variableInfo id = .ok (node.info id) := variableInfo_of_ok hnode
  have hdecode' : w.decode (node.info id).type = .ok value := hdecode
  simp [writeNode, hid, hinfo, hdecode', hwrite, hstate, writeRefusal, haccess]

/-- A request to write is refused and stores nothing, or stores a value and is answered with
success. -/
theorem writeNode_cases (v : Service) (path : String) (w : WriteRequest) (s : AddressSpace) :
    (∃ e, ((writeNode v path w).run s).result = .error e ∧
      ((writeNode v path w).run s).state = s ∧ NodeRequest.stores? v s (.write path w) = none) ∨
    ∃ id value json, ((writeNode v path w).run s).result = .ok (.ok json) ∧
      ((writeNode v path w).run s).state = s.withValue id value ∧
      NodeRequest.stores? v s (.write path w) = some (id, value) := by
  -- the ways in which the handler can end, in the order in which it comes to them
  cases hid : resolveNodeId v path with
  | error e =>
    obtain ⟨hresult, hstate⟩ := writeNode_of_unresolved (s := s) (w := w) hid
    exact .inl ⟨e, hresult, hstate, by simp [NodeRequest.stores?, hid]⟩
  | ok id =>
    cases hnode : s.variableNode id with
    | error e =>
      obtain ⟨hresult, hstate⟩ := writeNode_of_unknown (w := w) hid (variableInfo_of_error hnode)
      exact .inl ⟨e, hresult, hstate, by simp [NodeRequest.stores?, hid, hnode]⟩
    | ok node =>
      have hinfo : s.variableInfo id = .ok (node.info id) := variableInfo_of_ok hnode
      cases hdecode : w.decode node.type with
      | error e =>
        obtain ⟨hresult, hstate⟩ := writeNode_of_undecoded hid hinfo hdecode
        refine .inl ⟨e, hresult, hstate, ?_⟩
        simp [NodeRequest.stores?, hid, hnode, hdecode, Except.toOption]
      | ok value =>
        by_cases haccess : node.access = .readWrite
        · obtain ⟨hresult, hstate⟩ := writeNode_of_decoded hid hnode haccess hdecode
          refine .inr ⟨id, value, _, hresult, hstate, ?_⟩
          simp [NodeRequest.stores?, hid, hnode, haccess, hdecode, Except.toOption]
        · obtain ⟨hresult, hstate⟩ := writeNode_of_read_only hid hnode haccess hdecode
          refine .inl ⟨_, hresult, hstate, ?_⟩
          simp [NodeRequest.stores?, hid, hnode, haccess]

/-- What a request stores is all that it does. -/
theorem answer_state (v : Service) (q : NodeRequest) (s : AddressSpace) :
    ((answer v q).run s).state = afterStore s (q.stores? v s) := by
  rw [answer, Action.recover_state]
  cases q with
  | list => rfl
  | read path => exact readNode_state
  | write path w =>
    rcases writeNode_cases v path w s with
      ⟨e, -, hstate, hnone⟩ | ⟨id, value, json, -, hstate, hsome⟩
    · rw [hnone]
      exact hstate
    · rw [hsome]
      exact hstate

/-- A request that stores a value is answered with success. -/
theorem stores?_of_status_ne {response : Response}
    (hresult : ((answer v q).run s).result = .ok response) (hstatus : response.status ≠ 200) :
    q.stores? v s = none := by
  cases q with
  | list => rfl
  | read path => rfl
  | write path w =>
    rcases writeNode_cases v path w s with ⟨e, -, -, hnone⟩ | ⟨id, value, json, hjson, -, -⟩
    · exact hnone
    · rw [answer, Action.recover_result, NodeRequest.handler, hjson, Except.ok.injEq] at hresult
      subst hresult
      exact absurd rfl hstatus

/-! ## The service -/

/-- The request that a handler gets, if one does: it has to come from a client that may use the
server. -/
def handled? (v : Service) (r : Request) : Option NodeRequest :=
  if v.credentials.Admits r.credentials? then NodeRequest.of? r else none

theorem respond_of_handled (h : handled? v r = some q) (s : AddressSpace) :
    ((respond v r).run s).result = ((answer v q).run s).result ∧
      ((respond v r).run s).state = ((answer v q).run s).state := by
  unfold handled? at h
  split at h
  · rename_i hadmits
    refine respond_of_authorized h ?_
    rw [CredentialStore.authenticate_result, if_pos hadmits]
  · cases h

/-- What is behind the authentication is done for clients that may use the server. -/
theorem authenticated_state_eq {a : Action AddressSpace Response}
    (h : v.credentials.Admits r.credentials? → (a.run s).state = s) :
    ((do v.credentials.authenticate r.credentials?; a : Action AddressSpace Response).run
      s).state = s := by
  rw [Action.bind_state, CredentialStore.authenticate_result,
    CredentialStore.authenticate_state]
  by_cases hadmits : v.credentials.Admits r.credentials?
  · rw [if_pos hadmits]
    exact h hadmits
  · rw [if_neg hadmits]

theorem respondNode_state_eq {path : List Char} (hroute : route? r.path = some (.node path))
    (h : NodeRequest.of? r = none) (s : AddressSpace) :
    ((respondNode v r path).run s).state = s := by
  unfold NodeRequest.of? at h
  unfold respondNode
  cases hmethod : r.method with
  | get | head =>
    cases decodePath? path with
    | none => rfl
    | some path => exact readNode_state
  | put =>
    cases hdecode : decodePath? path with
    | none => rfl
    | some decoded =>
      cases hbody : readBody r with
      | error response => rfl
      | ok w =>
        -- with a path and a body, a handler would have got it
        simp [hroute, hmethod, hdecode, hbody, Except.toOption] at h
  | other => rfl

/-- A request that no handler gets changes nothing. -/
theorem respond_state_of_not_handled (h : handled? v r = none) (s : AddressSpace) :
    ((respond v r).run s).state = s := by
  unfold respond
  cases hroute : route? r.path with
  | none => rfl
  | some route =>
    simp only [Action.bind_state, Action.recover_result, Action.recover_state, Action.run_pure]
    cases route with
    | health => cases hmethod : r.method <;> simp only [respondRoute, hmethod] <;> rfl
    | nodes =>
      cases hmethod : r.method <;> simp only [respondRoute, hmethod] <;>
        exact authenticated_state_eq fun _ => rfl
    | node path =>
      apply authenticated_state_eq
      intro hadmits
      rw [handled?, if_pos hadmits] at h
      exact respondNode_state_eq hroute h s

/-- Every request is answered. -/
theorem exists_response (v : Service) (r : Request) (s : AddressSpace) :
    ∃ response, ((respond v r).run s).result = .ok response := by
  unfold respond
  cases route? r.path with
  | none => exact ⟨_, rfl⟩
  | some route => simp

/-- What a request stores that reaches the service. -/
def Request.stores? (v : Service) (s : AddressSpace) (r : Request) : Option (NodeId × Value) :=
  (handled? v r).bind (·.stores? v s)

/-- What a request stores is all that the service does. -/
theorem respond_state_eq (v : Service) (r : Request) (s : AddressSpace) :
    ((respond v r).run s).state = afterStore s (r.stores? v s) := by
  rw [Request.stores?]
  cases h : handled? v r with
  | none => exact respond_state_of_not_handled h s
  | some q => rw [(respond_of_handled h s).2, answer_state, Option.bind_some]

/-- Whether one state comes from another by at most one write. -/
def WritesAtMostOnce (s t : AddressSpace) : Prop :=
  t = s ∨ ∃ id value, t = ((write id value).run s).state

/-- Whatever is requested, at most one variable is written. -/
theorem respond_state (v : Service) (r : Request) (s : AddressSpace) :
    WritesAtMostOnce s ((respond v r).run s).state := by
  rw [WritesAtMostOnce, respond_state_eq]
  cases hstores : r.stores? v s with
  | none => exact .inl rfl
  | some stored =>
    obtain ⟨id, value⟩ := stored
    obtain ⟨q, -, hq⟩ := Option.bind_eq_some_iff.mp hstores
    obtain ⟨_, w, node, -, -, hnode, haccess, hdecode⟩ := NodeRequest.stores?_eq_some hq
    have hwritten := write_of_writable hnode haccess (WriteRequest.type_of_decode hdecode)
    exact .inr ⟨id, value, hwritten.2.symm⟩

end ScalarServer.Http
