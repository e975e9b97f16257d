import Mathlib.Data.List.Nodup
import Mathlib.Data.List.Sort
import ScalarServer.Proofs.AddressSpace.Writes
import ScalarServer.Proofs.Http.Stores

/-!
# Requests in another order

Requests for different variables have nothing to do with each other. If requests come in another
order, but those for one variable keep theirs, each is answered as before, and apart from the times
nothing else comes of them. Whether a path names a variable by its full identifier or by the text of
it makes no difference.

- `target?`: the node that a request is about;
- `respond_result_congr`: a response depends on nothing but this node;
- `stores?_afterWrites`: what a request stores does not depend on what has been stored;
- `Reordering`: when two orders of requests are the same but for independent requests;
- `reordering_exact`: then responses and address spaces are the same.
-/

namespace ScalarServer.Http

open AddressSpace

variable {v : Service} {s t : AddressSpace} {id : NodeId} {r : Request}

/-- The node that a request is about: the one that its path names. -/
def target? (v : Service) (r : Request) : Option NodeId :=
  match route? r.path with
  | some (.node path) => (decodePath? path).bind fun path => (resolveNodeId v path).toOption
  | _ => none

/-- Whether a request is about no more than one node, whatever is to be done with it and whoever
sends it. -/
def Request.IsSingle (r : Request) : Prop :=
  ∃ path, route? r.path = some (.node path)

/-! ## What a response depends on -/

/-- Two address spaces show the same at an identifier, apart from the time. -/
def SameAt (s t : AddressSpace) (id : NodeId) : Prop :=
  s.untimed.variableNode id = t.untimed.variableNode id

theorem SameAt.cases (h : SameAt s t id) :
    (∃ e, s.variableNode id = .error e ∧ t.variableNode id = .error e) ∨
      ∃ node stamp, s.variableNode id = .ok node ∧
        t.variableNode id = .ok { node with stamp } := by
  rw [SameAt, variableNode_untimed, variableNode_untimed] at h
  cases hs : s.variableNode id with
  | error e =>
    cases ht : t.variableNode id with
    | error e' =>
      rw [hs, ht] at h
      cases h
      exact .inl ⟨e, rfl, rfl⟩
    | ok node =>
      rw [hs, ht] at h
      cases h
  | ok node =>
    cases ht : t.variableNode id with
    | error e =>
      rw [hs, ht] at h
      cases h
    | ok other =>
      rw [hs, ht] at h
      obtain ⟨name, type, value, access, stamp⟩ := node
      obtain ⟨name', type', value', access', stamp'⟩ := other
      cases h
      exact .inr ⟨_, stamp', rfl, rfl⟩

theorem readNode_result_congr {path : String}
    (h : ∀ id, resolveNodeId v path = .ok id → SameAt s t id) :
    ((readNode v path).run s).result = ((readNode v path).run t).result := by
  cases hid : resolveNodeId v path with
  | error e => rw [readNode_of_unresolved hid, readNode_of_unresolved hid]
  | ok id =>
    rcases (h id hid).cases with ⟨e, hs, ht⟩ | ⟨node, stamp, hs, ht⟩
    · rw [readNode_of_unknown hid (variableInfo_of_error hs),
        readNode_of_unknown hid (variableInfo_of_error ht)]
    · -- the times may differ, but the JSON form of a variable leaves them out
      rw [readNode_of_variable hid (variableInfo_of_ok hs),
        readNode_of_variable hid (variableInfo_of_ok ht)]
      rfl

theorem writeNode_result_congr {path : String} {w : WriteRequest}
    (h : ∀ id, resolveNodeId v path = .ok id → SameAt s t id) :
    ((writeNode v path w).run s).result = ((writeNode v path w).run t).result := by
  cases hid : resolveNodeId v path with
  | error e => rw [(writeNode_of_unresolved hid).1, (writeNode_of_unresolved hid).1]
  | ok id =>
    rcases (h id hid).cases with ⟨e, hs, ht⟩ | ⟨node, stamp, hs, ht⟩
    · rw [(writeNode_of_unknown hid (variableInfo_of_error hs)).1,
        (writeNode_of_unknown hid (variableInfo_of_error ht)).1]
    · cases hdecode : w.decode node.type with
      | error e =>
        rw [(writeNode_of_undecoded hid (variableInfo_of_ok hs) hdecode).1,
          (writeNode_of_undecoded hid (variableInfo_of_ok ht) hdecode).1]
      | ok value =>
        by_cases haccess : node.access = .readWrite
        · rw [(writeNode_of_decoded hid hs haccess hdecode).1,
            (writeNode_of_decoded hid ht haccess hdecode).1]
          rfl
        · rw [(writeNode_of_read_only hid hs haccess hdecode).1,
            (writeNode_of_read_only hid ht haccess hdecode).1]

theorem respondNode_result_congr {path : List Char} (r : Request)
    (h : ∀ text id, decodePath? path = some text → resolveNodeId v text = .ok id →
      SameAt s t id) :
    ((respondNode v r path).run s).result = ((respondNode v r path).run t).result := by
  unfold respondNode
  cases r.method with
  | get | head =>
    cases hpath : decodePath? path with
    | none => rfl
    | some text => exact readNode_result_congr fun id => h text id hpath
  | put =>
    cases hpath : decodePath? path with
    | none => rfl
    | some text =>
      cases readBody r with
      | error response => rfl
      | ok w => exact writeNode_result_congr fun id => h text id hpath
  | other => rfl

/-- The response to a request about one node depends on nothing but this node. -/
theorem respond_result_congr (hsingle : r.IsSingle)
    (h : ∀ id, target? v r = some id → SameAt s t id) :
    ((respond v r).run s).result = ((respond v r).run t).result := by
  obtain ⟨path, hroute⟩ := hsingle
  have hnode : ((respondNode v r path).run s).result = ((respondNode v r path).run t).result := by
    apply respondNode_result_congr
    intro text id hpath hid
    apply h
    rw [target?, hroute]
    simp [hpath, hid, Except.toOption]
  -- who may use the server does not depend on its state
  have hguarded : ((respondRoute v r (.node path)).run s).result =
      ((respondRoute v r (.node path)).run t).result := by
    simp only [respondRoute, Action.bind_result, CredentialStore.authenticate_result,
      CredentialStore.authenticate_state, hnode]
  simp only [respond, hroute, Action.bind_result, Action.recover_result, Action.run_pure,
    hguarded]

/-! ## What a request stores -/

/-- What a request stores does not depend on the values of variables. -/
theorem NodeRequest.stores?_withValue (q : NodeRequest) (id : NodeId) (value : Value) :
    q.stores? v (s.withValue id value) = q.stores? v s := by
  cases q with
  | list => rfl
  | read path => rfl
  | write path w =>
    simp only [NodeRequest.stores?]
    cases resolveNodeId v path with
    | error e => rfl
    | ok j =>
      dsimp only
      rw [variableNode_withValue]
      by_cases hid : j = id
      · rw [if_pos hid, hid]
        cases s.variableNode id <;> rfl
      · rw [if_neg hid]

theorem Request.stores?_afterStore (r : Request) (stored : Option (NodeId × Value)) :
    r.stores? v (afterStore s stored) = r.stores? v s := by
  cases stored with
  | none => rfl
  | some write =>
    have hstores := funext fun q =>
      NodeRequest.stores?_withValue (v := v) (s := s) q write.1 write.2
    exact congrArg ((handled? v r).bind) hstores

theorem exists_route_of_write {path : String} {w : WriteRequest}
    (h : NodeRequest.of? r = some (.write path w)) :
    ∃ escaped, route? r.path = some (.node escaped) ∧ decodePath? escaped = some path := by
  unfold NodeRequest.of? at h
  split at h
  · cases h
  · obtain ⟨_, -, hread⟩ := Option.map_eq_some_iff.mp h
    cases hread
  · rename_i escaped hroute _
    obtain ⟨decoded, hdecoded, hbody⟩ := Option.bind_eq_some_iff.mp h
    obtain ⟨_, -, hwrite⟩ := Option.map_eq_some_iff.mp hbody
    cases hwrite
    exact ⟨escaped, hroute, hdecoded⟩
  · cases h

/-- A request stores nothing but in the node that it is about. -/
theorem target?_of_stores? {value : Value} (h : r.stores? v s = some (id, value)) :
    target? v r = some id := by
  obtain ⟨q, hq, hstores⟩ := Option.bind_eq_some_iff.mp h
  obtain ⟨path, w, _, rfl, hid, -⟩ := NodeRequest.stores?_eq_some hstores
  have hof : NodeRequest.of? r = some (.write path w) := by
    unfold handled? at hq
    split at hq
    · exact hq
    · cases hq
  obtain ⟨escaped, hroute, hdecoded⟩ := exists_route_of_write hof
  simp [target?, hroute, hdecoded, hid, Except.toOption]

/-! ## Requests one after the other -/

/-- The address space after requests have been answered, one after the other. -/
def afterRequests (v : Service) (s : AddressSpace) (rs : List Request) : AddressSpace :=
  rs.foldl (fun s r => ((respond v r).run s).state) s

/-- What is left of requests is what they store. -/
theorem afterRequests_eq (v : Service) (s : AddressSpace) (rs : List Request) :
    afterRequests v s rs = s.afterWrites (rs.filterMap (·.stores? v s)) := by
  induction rs generalizing s with
  | nil => rfl
  | cons r rs ih =>
    change afterRequests v ((respond v r).run s).state rs = _
    -- what the others store is the same before this request and after it
    rw [ih, respond_state_eq, List.filterMap_cons]
    simp only [Request.stores?_afterStore]
    cases r.stores? v s <;> rfl

/-- What has been stored last in a variable does not depend on requests about other nodes. -/
theorem lastWritten_filter (v : Service) (s : AddressSpace) (rs : List Request) (id : NodeId) :
    lastWritten id (rs.filterMap (·.stores? v s)) =
      lastWritten id ((rs.filter (target? v · = some id)).filterMap (·.stores? v s)) := by
  rw [lastWritten, lastWritten, List.filterMap_filterMap, List.filterMap_filterMap,
    List.filterMap_filter]
  congr 2
  funext r
  cases hstores : r.stores? v s with
  | none => simp
  | some write =>
    -- a write to the variable is a request about it, so it is not left out
    have htarget := target?_of_stores? hstores
    by_cases hid : write.1 = id
    · simp [htarget, hid]
    · simp [hid]

section Orders

variable {ι : Type} {request : ι → Request} {first second : List ι}

/-- What has been stored last in a variable is a matter of the requests about it. -/
theorem lastWritten_congr {older newer : List ι}
    (h : (older.filter fun i => target? v (request i) = some id) =
      newer.filter fun i => target? v (request i) = some id) :
    lastWritten id ((older.map request).filterMap (·.stores? v s)) =
      lastWritten id ((newer.map request).filterMap (·.stores? v s)) := by
  rw [lastWritten_filter v s (older.map request), lastWritten_filter v s (newer.map request),
    List.filter_map, List.filter_map]
  exact congrArg (fun l => lastWritten id ((l.map request).filterMap (·.stores? v s))) h

theorem sameAt_afterRequests {older newer : List ι}
    (h : (older.filter fun i => target? v (request i) = some id) =
      newer.filter fun i => target? v (request i) = some id) :
    SameAt (afterRequests v s (older.map request)) (afterRequests v s (newer.map request)) id := by
  rw [SameAt, afterRequests_eq, afterRequests_eq, variableNode_afterWrites,
    variableNode_afterWrites, lastWritten_congr h]

/-! ## Orders of requests -/

variable [DecidableEq ι]

/-- Two orders of the same requests, in which those that are about one node come in the same order.
Requests that are equal are still told apart. -/
structure Reordering (v : Service) (request : ι → Request) (first second : List ι) : Prop where
  /-- No request comes twice. -/
  nodup : first.Nodup
  /-- The requests are the same. -/
  perm : first.Perm second
  /-- Of two requests about one node, the one that came first still does. -/
  order : ∀ i j, target? v (request i) ≠ none → target? v (request i) = target? v (request j) →
    first.idxOf i < first.idxOf j → second.idxOf i < second.idxOf j

theorem pairwise_idxOf (h : first.Nodup) :
    first.Pairwise fun i j => first.idxOf i < first.idxOf j := by
  rw [List.pairwise_iff_getElem]
  intro m n hm hn hlt
  rwa [h.idxOf_getElem, h.idxOf_getElem]

/-- The requests about one node are the same in both orders, and in the same order. -/
theorem Reordering.filter_eq (h : Reordering v request first second) (id : NodeId) :
    (first.filter fun i => target? v (request i) = some id) =
      second.filter fun i => target? v (request i) = some id := by
  -- the order in which they come the second time
  have hfirst : (first.filter fun i => target? v (request i) = some id).Pairwise
      fun i j => second.idxOf i < second.idxOf j := by
    refine ((pairwise_idxOf h.nodup).filter _).imp_of_mem ?_
    intro i j hi hj hlt
    have hi' : target? v (request i) = some id := of_decide_eq_true (List.mem_filter.mp hi).2
    have hj' : target? v (request j) = some id := of_decide_eq_true (List.mem_filter.mp hj).2
    exact h.order i j (by simp [hi']) (hi'.trans hj'.symm) hlt
  have hsecond : (second.filter fun i => target? v (request i) = some id).Pairwise
      fun i j => second.idxOf i < second.idxOf j :=
    (pairwise_idxOf (h.perm.nodup h.nodup)).filter _
  exact List.Perm.eq_of_pairwise (fun _ _ _ _ hij hji => absurd hij (Nat.lt_asymm hji)) hfirst
    hsecond (h.perm.filter _)

/-- What comes before an element is the same with and without elements of another kind. -/
theorem filter_takeWhile_ne {p : ι → Bool} {i : ι} (hi : p i = true) (order : List ι) :
    (order.takeWhile (· ≠ i)).filter p = (order.filter p).takeWhile (· ≠ i) := by
  induction order with
  | nil => rfl
  | cons j order ih =>
    by_cases hj : j = i
    · simp [hj, hi]
    · cases hp : p j <;> simpa [hj, hp] using ih

/-- The response to a request, after those that come before it in an order. -/
def responseIn (v : Service) (s : AddressSpace) (request : ι → Request) (order : List ι) (i : ι) :
    Except Error Response :=
  ((respond v (request i)).run
    (afterRequests v s ((order.takeWhile (· ≠ i)).map request))).result

/-- If requests come in another order, but those about one node keep theirs, then every request has
the same response, and the address space in the end is the same but for the times. -/
theorem reordering_exact (v : Service) (s : AddressSpace) {request : ι → Request}
    {first second : List ι} (hsingle : ∀ i ∈ first, (request i).IsSingle)
    (h : Reordering v request first second) :
    (∀ i ∈ first, ∃ response, responseIn v s request first i = .ok response ∧
      responseIn v s request second i = .ok response) ∧
    (afterRequests v s (first.map request)).untimed =
      (afterRequests v s (second.map request)).untimed := by
  constructor
  · intro i hi
    obtain ⟨response, hresponse⟩ := exists_response v (request i)
      (afterRequests v s ((first.takeWhile (· ≠ i)).map request))
    have hsame : responseIn v s request first i = responseIn v s request second i := by
      apply respond_result_congr (hsingle i hi)
      intro id hid
      -- before it, there have been the same requests about its node
      apply sameAt_afterRequests
      rw [filter_takeWhile_ne (by simp [hid]), filter_takeWhile_ne (by simp [hid]), h.filter_eq]
    exact ⟨response, hresponse, hsame ▸ hresponse⟩
  · rw [afterRequests_eq, afterRequests_eq, untimed_afterWrites, untimed_afterWrites]
    congr 1
    funext id
    exact lastWritten_congr (h.filter_eq id)

end Orders

/-- An address space with two variables that clients can write. -/
def tank : AddressSpace :=
  ((do
    addVariable objectsId ⟨0, "Level"⟩ ⟨"Level", .boolean false, .boolean⟩
    addVariable objectsId ⟨0, "Flow"⟩ ⟨"Flow", .boolean false, .boolean⟩
    setWritable ⟨0, "Level"⟩
    setWritable ⟨0, "Flow"⟩ : Action AddressSpace Unit).run empty).state

/-- Requests to write one variable, to read it by its full identifier, and to write the other one.
-/
def tankRequest : Fin 3 → Request
  | 0 => ⟨.put, "/nodes/Level", [("Content-Type", "application/json")],
      "\x7b\"value\": true\x7d"⟩
  | 1 => ⟨.get, "/nodes/ns=0;s=Level;", [], ""⟩
  | 2 => ⟨.put, "/nodes/Flow", [("Content-Type", "application/json")], "\x7b\"value\": true\x7d"⟩

/-- The request to write the other variable may come first. -/
theorem reordering_exact_tank :
    (∀ i, ∃ response, responseIn ⟨.anonymous, 0, ""⟩ tank tankRequest [0, 1, 2] i = .ok response ∧
      responseIn ⟨.anonymous, 0, ""⟩ tank tankRequest [2, 0, 1] i = .ok response) ∧
    (afterRequests ⟨.anonymous, 0, ""⟩ tank ([0, 1, 2].map tankRequest)).untimed =
      (afterRequests ⟨.anonymous, 0, ""⟩ tank ([2, 0, 1].map tankRequest)).untimed := by
  have hsingle : ∀ i ∈ [0, 1, 2], (tankRequest i).IsSingle := by
    intro i _
    match i with
    | 0 => exact ⟨"Level".toList, by decide +kernel⟩
    | 1 => exact ⟨"ns=0;s=Level;".toList, by decide +kernel⟩
    | 2 => exact ⟨"Flow".toList, by decide +kernel⟩
  have hreordering : Reordering ⟨.anonymous, 0, ""⟩ tankRequest [0, 1, 2] [2, 0, 1] :=
    ⟨by decide, by decide, by decide +kernel⟩
  obtain ⟨hresponses, hstates⟩ := reordering_exact ⟨.anonymous, 0, ""⟩ tank hsingle hreordering
  have hall : ∀ i : Fin 3, i ∈ [0, 1, 2] := by decide
  exact ⟨fun i => hresponses i (hall i), hstates⟩

end ScalarServer.Http
