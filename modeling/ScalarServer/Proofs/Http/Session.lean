import Mathlib.Data.List.Induction
import ScalarServer.Proofs.Http.Stores
import ScalarServer.Proofs.Startup

/-!
# What a client sees in the long run

A server is sent requests one after the other. At every point, what it lists and answers depends
only on its configuration and on the values that have been stored by then.

- `Answers v infos q response`: the response to a request, from the list of all variables alone;
- `answer_spec`: one request, with its response and what it stores;
- `Served v s history t`: requests and responses that lead from one address space to another;
- `listing`: the list of all variables after such a history;
- `served_exact`: a server with any history lists and answers just so.
-/

namespace ScalarServer.Http

open AddressSpace

variable {v : Service} {s : AddressSpace} {id : NodeId} {infos : List VariableInfo}

/-! ## One request -/

/-- The response to a request where these are all variables: a list shows them all; a path has to
name a node, and the node has to be a variable; a value to be written has to be decoded for the type
of the variable, leniently or not as the request says, and the response shows the variable with it.
-/
def Answers (v : Service) (infos : List VariableInfo) : NodeRequest → Response → Prop
  | .list, response => response.Lists infos
  | .read path, response =>
    match resolveNodeId v path with
    | .error _ => response.status = 400
    | .ok id =>
      match infos.find? (·.id = id) with
      | none => response.status = 404
      | some info => response.Shows info
  | .write path w, response =>
    match resolveNodeId v path with
    | .error _ => response.status = 400
    | .ok id =>
      match infos.find? (·.id = id) with
      | none => response.status = 404
      | some info =>
        match if w.coerce then Value.coerceJson w.value info.type
          else Value.ofJson w.value info.type with
        | .error _ => response.status = 422
        | .ok value => response.Shows { info with value }

/-- The variable that a request stores a value in, and the value. -/
def stored? (v : Service) (infos : List VariableInfo) : NodeRequest → Option (NodeId × Value)
  | .write path w =>
    match resolveNodeId v path with
    | .error _ => none
    | .ok id =>
      match infos.find? (·.id = id) with
      | none => none
      | some info => (w.decode info.type).toOption.map (id, ·)
  | _ => none

theorem statusOf_resolveNodeId {path : String} {e : Error} (h : resolveNodeId v path = .error e) :
    Response.statusOf e = 400 := by
  obtain ⟨text, rfl⟩ := resolveNodeId_eq_error h
  rfl

theorem statusOf_variableInfo {e : Error} (h : s.variableInfo id = .error e) :
    Response.statusOf e = 404 := by
  obtain ⟨reason, rfl⟩ := variableInfo_eq_error h
  rfl

theorem answer_list :
    (∃ response, ((answer v .list).run s).result = .ok response ∧
      Answers v (s.allVariables.map VariableInfo.untimed) .list response) ∧
    ((answer v .list).run s).state = s := by
  -- the JSON form of a variable leaves out the time
  have hlist : (s.allVariables.map VariableInfo.untimed).map VariableInfo.toJson =
      s.allVariables.map VariableInfo.toJson := List.map_map
  have hresult : ((answer v .list).run s).result =
      .ok (.ok (.array ((s.allVariables.map VariableInfo.untimed).map VariableInfo.toJson))) := by
    simp [answer, NodeRequest.handler, listNodes_run, hlist]
  refine ⟨⟨_, hresult, Response.lists_ok _⟩, ?_⟩
  simp [answer, NodeRequest.handler, listNodes_run]

theorem answer_read (h : s.WellFormed) (path : String) :
    (∃ response, ((answer v (.read path)).run s).result = .ok response ∧
      Answers v (s.allVariables.map VariableInfo.untimed) (.read path) response) ∧
    ((answer v (.read path)).run s).state = s := by
  have hstate : ((answer v (.read path)).run s).state = s := by
    rw [answer, Action.recover_state]
    exact readNode_state
  refine ⟨?_, hstate⟩
  simp only [answer, NodeRequest.handler, Action.recover_result, Answers]
  cases hid : resolveNodeId v path with
  | error e => simp [readNode_of_unresolved hid, Response.ofError, statusOf_resolveNodeId hid]
  | ok id =>
    cases hinfo : s.variableInfo id with
    | error e =>
      simp [readNode_of_unknown hid hinfo, find?_allVariables_of_error h hinfo,
        Response.ofError, statusOf_variableInfo hinfo]
    | ok info =>
      refine ⟨.ok info.toJson, by rw [readNode_of_variable hid hinfo], ?_⟩
      simp only [find?_allVariables_of_ok h hinfo]
      exact Response.shows_ok info.untimed

theorem answer_write (h : s.WellFormed) (hwritable : ∀ info ∈ s.allVariables, info.writable = true)
    (path : String) (w : WriteRequest) :
    (∃ response, ((answer v (.write path w)).run s).result = .ok response ∧
      Answers v (s.allVariables.map VariableInfo.untimed) (.write path w) response) ∧
    ((answer v (.write path w)).run s).state =
      afterStore s (stored? v (s.allVariables.map VariableInfo.untimed) (.write path w)) := by
  simp only [answer, NodeRequest.handler, Action.recover_result, Action.recover_state, Answers,
    stored?, ← WriteRequest.decode_eq]
  cases hid : resolveNodeId v path with
  | error e =>
    obtain ⟨hresult, hstate⟩ := writeNode_of_unresolved (s := s) (w := w) hid
    simp [hresult, hstate, Response.ofError, statusOf_resolveNodeId hid, afterStore]
  | ok id =>
    cases hinfo : s.variableInfo id with
    | error e =>
      obtain ⟨hresult, hstate⟩ := writeNode_of_unknown (w := w) hid hinfo
      simp [hresult, hstate, find?_allVariables_of_error h hinfo, Response.ofError,
        statusOf_variableInfo hinfo, afterStore]
    | ok info =>
      obtain ⟨node, hnode, rfl⟩ := variableInfo_eq_ok_iff.mp hinfo
      have hfind := find?_allVariables_of_ok h hinfo
      have htype : (node.info id).untimed.type = node.type := rfl
      cases hdecode : w.decode node.type with
      | error e =>
        obtain ⟨hresult, hstate⟩ := writeNode_of_undecoded hid hinfo hdecode
        simp [hresult, hstate, hfind, htype, hdecode, Response.ofError,
          WriteRequest.statusOf_decode hdecode, Except.toOption, afterStore]
      | ok value =>
        -- the store cannot refuse: the variable can be written, and the value has its type
        have hmem := ((variableInfo_eq_ok_iff_mem h).mp hinfo).1
        have haccess : node.access = .readWrite := of_decide_eq_true (hwritable _ hmem)
        obtain ⟨hresult, hstate⟩ := writeNode_of_decoded hid hnode haccess hdecode
        refine ⟨⟨.ok { node.info id with value }.toJson, by rw [hresult], ?_⟩, ?_⟩
        · simp only [hfind, htype, hdecode]
          exact Response.shows_ok { (node.info id).untimed with value }
        · simp [hstate, hfind, htype, hdecode, Except.toOption, afterStore]

/-- Where all variables can be written, a request is answered from the list of all variables, and
stores what can be decoded. -/
theorem answer_spec (h : s.WellFormed) (hwritable : ∀ info ∈ s.allVariables, info.writable = true)
    (q : NodeRequest) :
    (∃ response, ((answer v q).run s).result = .ok response ∧
      Answers v (s.allVariables.map VariableInfo.untimed) q response) ∧
    ((answer v q).run s).state =
      afterStore s (stored? v (s.allVariables.map VariableInfo.untimed) q) := by
  cases q with
  | list => exact answer_list
  | read path => exact answer_read h path
  | write path w => exact answer_write h hwritable path w

/-- No request is answered with any other status code. -/
theorem Answers.status_mem {q : NodeRequest} {response : Response}
    (h : Answers v infos q response) : response.status ∈ [200, 400, 404, 422] := by
  cases q with
  | list =>
    simp only [Answers] at h
    simp [h.response_eq]
  | read path =>
    simp only [Answers] at h
    split at h
    · simp [h]
    · split at h
      · simp [h]
      · simp [h.response_eq]
  | write path w =>
    simp only [Answers] at h
    split at h
    · simp [h]
    · split at h
      · simp [h]
      · split at h
        · simp [h]
        · simp [h.response_eq]

/-! ## Many requests -/

/-- A request with the response to it. -/
structure Exchange where
  /-- The request. -/
  request : NodeRequest
  /-- The response. -/
  response : Response

/-- The address spaces that requests lead to, with what was requested and answered, the latest
last. -/
inductive Served (v : Service) (s : AddressSpace) : List Exchange → AddressSpace → Prop
  | start : Served v s [] s
  | request {history : List Exchange} {t : AddressSpace} {response : Response} (q : NodeRequest)
      (hserved : Served v s history t) (hresponse : ((answer v q).run t).result = .ok response) :
      Served v s (history ++ [⟨q, response⟩]) ((answer v q).run t).state

/-- The value that an exchange shows to have been stored in a variable of a type: one that was to
be written there, and was answered with success. -/
def Exchange.value? (v : Service) (id : NodeId) (type : ScalarType) (e : Exchange) :
    Option Value :=
  match e.request with
  | .write path w =>
    if e.response.status = 200 ∧ (resolveNodeId v path).toOption = some id then
      (w.decode type).toOption
    else none
  | _ => none

/-- The value that a variable has after a history: the last one stored, or the first one. -/
def valueAfter (v : Service) (id : NodeId) (d : VariableDefinition) (history : List Exchange) :
    Value :=
  ((history.filterMap (Exchange.value? v id d.type)).getLast?).getD d.value

/-- The list of all variables after a history. -/
def listing (v : Service) (boot : Bootstrapped) (ds : List VariableDefinition)
    (history : List Exchange) : List VariableInfo :=
  ds.map fun d =>
    ⟨boot.variableId d, d.name, d.type, valueAfter v (boot.variableId d) d history, true, 0⟩

theorem valueAfter_concat (d : VariableDefinition) (history : List Exchange) (e : Exchange) :
    valueAfter v id d (history ++ [e]) =
      (e.value? v id d.type).getD (valueAfter v id d history) := by
  unfold valueAfter
  rw [List.filterMap_append, List.getLast?_append]
  cases hvalue : e.value? v id d.type <;> simp [hvalue]

theorem Exchange.type_of_value? {e : Exchange} {type : ScalarType} {value : Value}
    (h : e.value? v id type = some value) : value.type = type := by
  unfold value? at h
  split at h
  · rename_i path w _
    split at h
    · cases hdecode : w.decode type with
      | error e =>
        rw [hdecode] at h
        cases h
      | ok decoded =>
        rw [hdecode] at h
        cases h
        exact WriteRequest.type_of_decode hdecode
    · cases h
  · cases h

/-- Values keep the type of their variable. -/
theorem type_valueAfter (v : Service) (id : NodeId) {d : VariableDefinition}
    (hd : d.value.type = d.type) (history : List Exchange) :
    (valueAfter v id d history).type = d.type := by
  induction history using List.reverseRecOn with
  | nil => exact hd
  | append_singleton history e ih =>
    rw [valueAfter_concat]
    cases hvalue : e.value? v id d.type with
    | none => exact ih
    | some value => exact Exchange.type_of_value? hvalue

/-- What an exchange shows to have been stored is what its request stores. -/
theorem value?_eq {q : NodeRequest} {response : Response} (h : Answers v infos q response)
    {info : VariableInfo}
    (hunique : ∀ other ∈ infos, other.id = info.id → other = info) :
    Exchange.value? v info.id info.type ⟨q, response⟩ =
      match stored? v infos q with
      | some (id, value) => if id = info.id then some value else none
      | none => none := by
  cases q with
  | list => rfl
  | read path => rfl
  | write path w =>
    simp only [Answers, ← WriteRequest.decode_eq] at h
    cases hid : resolveNodeId v path with
    | error e =>
      simp only [hid] at h
      simp [Exchange.value?, stored?, hid, h]
    | ok id =>
      simp only [hid] at h
      cases hfind : infos.find? (·.id = id) with
      | none =>
        simp only [hfind] at h
        simp only [stored?, hid, hfind]
        simp [Exchange.value?, h]
      | some found =>
        simp only [hfind] at h
        have hid' : found.id = id := by simpa using List.find?_some hfind
        cases hdecode : w.decode found.type with
        | error e =>
          simp only [hdecode] at h
          simp only [stored?, hid, hfind, hdecode]
          simp [Exchange.value?, h, Except.toOption]
        | ok value =>
          simp only [hdecode] at h
          simp only [stored?, hid, hfind, hdecode]
          -- the type is the same, whether it is that of the variable or of what was found
          by_cases heq : id = info.id
          · have hsame := hunique found (List.mem_of_find?_eq_some hfind) (hid'.trans heq)
            rw [hsame] at hdecode
            simp [Exchange.value?, h.response_eq, hid, heq, hdecode, Except.toOption]
          · simp [Exchange.value?, h.response_eq, hid, heq, Except.toOption]

/-- The list of all variables after a value has been stored, if one has. -/
def listAfterStore (infos : List VariableInfo) : Option (NodeId × Value) → List VariableInfo
  | none => infos
  | some (id, value) =>
    infos.map fun info => if info.id = id then { info with value } else info

/-- What stays the same while a server answers requests, and the list of all variables. -/
structure Steady (start : AddressSpace) (infos : List VariableInfo) (s : AddressSpace) :
    Prop where
  /-- The namespaces are those of the start. -/
  namespaces : s.namespaces = start.namespaces
  /-- The folders are those of the start, with the same nodes in them. -/
  folders : ∀ id, s.folder? id = start.folder? id
  /-- There are as many nodes as at the start. -/
  nodeCount : s.nodeCount = start.nodeCount
  /-- These are all variables. -/
  listed : s.allVariables.map VariableInfo.untimed = infos

theorem wellFormed_afterStore (h : s.WellFormed) (stored : Option (NodeId × Value)) :
    (afterStore s stored).WellFormed := by
  cases stored with
  | none => exact h
  | some pair => exact (h.onVariable _).congr rfl rfl

/-- A stored value shows in the list of all variables and nowhere else. -/
theorem Steady.afterStore {start : AddressSpace} (h : Steady start infos s)
    (hwell : s.WellFormed) (stored : Option (NodeId × Value)) :
    Steady start (listAfterStore infos stored) (afterStore s stored) := by
  cases stored with
  | none => exact h
  | some pair =>
    obtain ⟨id, value⟩ := pair
    refine ⟨h.namespaces, ?_, ?_, ?_⟩
    · intro j
      exact (folder?_updateNode_onVariable _ j).trans (h.folders j)
    · rw [← h.nodeCount]
      simp [Http.afterStore, withValue, AddressSpace.nodeCount, updateNode]
    · simp only [Http.afterStore, allVariables_withValue hwell, listAfterStore, ← h.listed,
        List.map_map]
      apply List.map_congr_left
      intro info _
      by_cases hid : info.id = id
      · simp [VariableInfo.untimed, hid]
      · simp [VariableInfo.untimed, hid]

/-- One more exchange changes what is listed by what its request stores. -/
theorem listing_concat {boot : Bootstrapped} {ds : List VariableDefinition}
    {history : List Exchange} {q : NodeRequest} {response : Response}
    (h : Answers v (listing v boot ds history) q response)
    (hunique : ∀ a ∈ listing v boot ds history, ∀ b ∈ listing v boot ds history,
      a.id = b.id → a = b) :
    listing v boot ds (history ++ [⟨q, response⟩]) =
      listAfterStore (listing v boot ds history) (stored? v (listing v boot ds history) q) := by
  -- each variable has the stored value, if it is the one, or its old one
  have hvalue : ∀ d ∈ ds, valueAfter v (boot.variableId d) d (history ++ [⟨q, response⟩]) =
      (match stored? v (listing v boot ds history) q with
        | some (id, value) => if id = boot.variableId d then some value else none
        | none => none).getD (valueAfter v (boot.variableId d) d history) := by
    intro d hd
    have hmem : (⟨boot.variableId d, d.name, d.type,
        valueAfter v (boot.variableId d) d history, true, 0⟩ : VariableInfo) ∈
        listing v boot ds history := List.mem_map.mpr ⟨d, hd, rfl⟩
    rw [valueAfter_concat]
    exact congrArg (Option.getD · _)
      (value?_eq h fun other hother hid => hunique other hother _ hmem hid)
  have hlisting : listing v boot ds (history ++ [⟨q, response⟩]) = ds.map fun d =>
      ⟨boot.variableId d, d.name, d.type, (match stored? v (listing v boot ds history) q with
        | some (id, value) => if id = boot.variableId d then some value else none
        | none => none).getD (valueAfter v (boot.variableId d) d history), true, 0⟩ :=
    List.map_congr_left fun d hd => by rw [hvalue d hd]
  rw [hlisting]
  cases stored? v (listing v boot ds history) q with
  | none => rfl
  | some pair =>
    obtain ⟨id, value⟩ := pair
    simp only [listAfterStore, listing, List.map_map]
    apply List.map_congr_left
    intro d _
    by_cases hid : boot.variableId d = id
    · simp [hid]
    · have hid' : ¬ id = boot.variableId d := fun heq => hid heq.symm
      simp [hid, hid']

/-! ## The server of a configuration -/

variable {c : ServerConfig} {boot : Bootstrapped} {history : List Exchange}

/-- At the start, variables have their first values. -/
theorem steady_start (h : ((bootstrap c).run empty).result = .ok boot) :
    Steady ((bootstrap c).run empty).state (listing v boot c.definitions [])
      ((bootstrap c).run empty).state :=
  ⟨rfl, fun _ => rfl, rfl, (booted_of_bootstrap h).listed⟩

/-- A request is answered from the list of all variables, and what it stores is listed after it. -/
theorem Steady.request {start : AddressSpace}
    (h : Steady start (listing v boot c.definitions history) s) (hwell : s.WellFormed)
    (q : NodeRequest) :
    (∃ response, ((answer v q).run s).result = .ok response ∧
      Answers v (listing v boot c.definitions history) q response) ∧
    ∀ response, ((answer v q).run s).result = .ok response →
      Steady start (listing v boot c.definitions (history ++ [⟨q, response⟩]))
        ((answer v q).run s).state ∧
      ((answer v q).run s).state.WellFormed := by
  -- the list says that clients can write every variable
  have hwritable : ∀ info ∈ s.allVariables, info.writable = true := by
    intro info hinfo
    have hmem : info.untimed ∈ s.allVariables.map VariableInfo.untimed := List.mem_map_of_mem hinfo
    rw [h.listed] at hmem
    obtain ⟨d, -, hd⟩ := List.mem_map.mp hmem
    exact (congrArg VariableInfo.writable hd).symm
  obtain ⟨⟨response, hresponse, hanswers⟩, hstate⟩ := answer_spec (v := v) hwell hwritable q
  rw [h.listed] at hanswers hstate
  refine ⟨⟨response, hresponse, hanswers⟩, ?_⟩
  intro other hother
  rw [hresponse, Except.ok.injEq] at hother
  subst hother
  have hunique : ∀ a ∈ listing v boot c.definitions history,
      ∀ b ∈ listing v boot c.definitions history, a.id = b.id → a = b := by
    rw [← h.listed]
    intro a ha b hb
    exact eq_of_id_eq hwell ha hb
  rw [hstate, listing_concat hanswers hunique]
  exact ⟨h.afterStore hwell _, wellFormed_afterStore hwell _⟩

theorem steady_of_served (h : ((bootstrap c).run empty).result = .ok boot)
    (hserved : Served v ((bootstrap c).run empty).state history s) :
    Steady ((bootstrap c).run empty).state (listing v boot c.definitions history) s ∧
      s.WellFormed := by
  induction hserved with
  | start => exact ⟨steady_start h, wellFormed_of_bootstrap h⟩
  | request q _ hresponse ih => exact (ih.1.request ih.2 q).2 _ hresponse

/-- Whatever clients request of a server, and in whatever order: namespaces, folders and variables
stay as they were at the start, but for the values of the variables; each value is the last one
that was stored with success, or the first one, and has the type of its variable; and the next
request is answered from the variables as they are then, never with a refusal by the store. What a
response tells of a variable is its value, with its identifier, name and type, and whether it can be
written. -/
theorem served_exact (h : ((bootstrap c).run empty).result = .ok boot)
    (hserved : Served v ((bootstrap c).run empty).state history s) :
    Steady ((bootstrap c).run empty).state (listing v boot c.definitions history) s ∧
      (∀ info ∈ s.allVariables, info.value.type = info.type) ∧
      ∀ q, ∃ response, ((answer v q).run s).result = .ok response ∧
        Answers v (listing v boot c.definitions history) q response ∧
        response.status ∈ [200, 400, 404, 422] := by
  obtain ⟨hsteady, hwell⟩ := steady_of_served h hserved
  refine ⟨hsteady, ?_, ?_⟩
  · intro info hinfo
    have hmem : info.untimed ∈ s.allVariables.map VariableInfo.untimed := List.mem_map_of_mem hinfo
    rw [hsteady.listed] at hmem
    obtain ⟨d, hd, heq⟩ := List.mem_map.mp hmem
    have hvalid := (bootable_of_bootstrap h).definitions d hd
    have hvalue : valueAfter v (boot.variableId d) d history = info.value :=
      congrArg VariableInfo.value heq
    have htype : d.type = info.type := congrArg VariableInfo.type heq
    rw [← hvalue, ← htype]
    exact type_valueAfter v _ (validate_eq_ok_iff.mp hvalid).2 history
  · intro q
    obtain ⟨response, hresponse, hanswers⟩ := (hsteady.request hwell q).1
    exact ⟨response, hresponse, hanswers, hanswers.status_mem⟩

/-- The variable of sixteen bits of the default configuration, with a value. -/
def defaultInt16 (n : Int) (h : IntegerType.int16.Holds n) : VariableInfo :=
  ⟨⟨2, "LablinkTest/ScalarTypes/LlTestInt16"⟩, "LlTestInt16", .integer .int16,
    .integer .int16 n h, true, 0⟩

/-- A request to write this variable. -/
def writeDefaultInt16 : NodeRequest :=
  .write "LablinkTest/ScalarTypes/LlTestInt16" ⟨.number (.integer (-7) (by decide)), false⟩

/-- A value that has been written to the default server is shown to those who read it. -/
theorem served_exact_default :
    ∃ s written read, Served ⟨.anonymous, 2, ""⟩ ((bootstrap .default).run empty).state
        [⟨writeDefaultInt16, written⟩] s ∧
      written.Shows (defaultInt16 (-7) (by decide)) ∧
      ((answer ⟨.anonymous, 2, ""⟩ (.read "LablinkTest/ScalarTypes/LlTestInt16")).run s).result =
        .ok read ∧
      read.Shows (defaultInt16 (-7) (by decide)) ∧
      (defaultInt16 (-7) (by decide)).toJson.field? "value" =
        some (.number (.integer (-7) (by decide))) := by
  have hboot := bootstrap_of_bootable ServerConfig.bootable_default
  have hid : resolveNodeId ⟨.anonymous, 2, ""⟩ "LablinkTest/ScalarTypes/LlTestInt16" =
      .ok ⟨2, "LablinkTest/ScalarTypes/LlTestInt16"⟩ := by decide +kernel
  obtain ⟨written, hresponse, hanswers, -⟩ :=
    (served_exact hboot (Served.start (v := ⟨.anonymous, 2, ""⟩))).2.2 writeDefaultInt16
  have hwritten : written.Shows (defaultInt16 (-7) (by decide)) := by
    simp only [Answers, writeDefaultInt16, hid] at hanswers
    exact hanswers
  obtain rfl := hwritten.response_eq
  have hserved := Served.request writeDefaultInt16 .start hresponse
  obtain ⟨read, hother, hanswers', -⟩ := (served_exact hboot hserved).2.2
    (.read "LablinkTest/ScalarTypes/LlTestInt16")
  have hread : read.Shows (defaultInt16 (-7) (by decide)) := by
    simp only [Answers, hid] at hanswers'
    exact hanswers'
  exact ⟨_, _, read, hserved, hwritten, hother, hread, hread.described.value⟩

end ScalarServer.Http
