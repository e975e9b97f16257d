import ScalarServer.Proofs.AddressSpace.Variables
import ScalarServer.Proofs.Credentials
import ScalarServer.Proofs.Http.Resolve
import ScalarServer.Proofs.Scalar.Decoding

/-!
# What a handler comes to

The requests for variables, once their paths have no escapes and their bodies have been read, and
what their handlers answer and do.

- `NodeRequest`, `answer`: these requests, and what is answered to them;
- `VariableInfo.DescribedBy`, `Response.Shows`: what a response tells of a variable;
- `respond_of_authorized`: the service answers an authorized request so;
- `writeNode_of_decoded` and its companions: a write in each of the ways in which it can end.
-/

namespace ScalarServer

/-! ## What a response tells -/

/-- Whether a JSON object tells what there is to tell about a variable, each thing under its name.
-/
structure VariableInfo.DescribedBy (info : VariableInfo) (json : Json) : Prop where
  /-- The identifier, as it is written. -/
  id : json.field? "node_id" = some (.string info.id.text)
  /-- The name. -/
  name : json.field? "display_name" = some (.string info.name)
  /-- The name of the type. -/
  type : json.field? "type" = some (.string info.type.name)
  /-- The value now. -/
  value : json.field? "value" = some info.value.toJson
  /-- Whether it can be written. -/
  writable : json.field? "writable" = some (.bool info.writable)

/-- The JSON form of a variable tells all of this. -/
theorem VariableInfo.describedBy_toJson (info : VariableInfo) : info.DescribedBy info.toJson := by
  -- no name stands twice, so under each one is what has been put there
  constructor <;> rw [toJson, Json.field?_ofFields] <;> rfl

namespace Http

open AddressSpace

variable {v : Service} {s : AddressSpace} {id : NodeId} {path : String} {w : WriteRequest}
  {e : Error}

/-- Whether a response shows a variable: it is a success with the JSON form of the variable, and
this form describes it. -/
structure Response.Shows (response : Response) (info : VariableInfo) : Prop where
  /-- It is a success with the JSON form. -/
  response_eq : response = ⟨200, none, .json info.toJson⟩
  /-- The JSON form describes the variable. -/
  described : info.DescribedBy info.toJson

theorem Response.shows_ok (info : VariableInfo) : (ok info.toJson).Shows info :=
  ⟨rfl, info.describedBy_toJson⟩

/-- Whether a response lists these variables: it is a success with their JSON forms in order, and
each form describes its variable. -/
structure Response.Lists (response : Response) (infos : List VariableInfo) : Prop where
  /-- It is a success with the JSON forms. -/
  response_eq : response = ⟨200, none, .json (.array (infos.map VariableInfo.toJson))⟩
  /-- Each JSON form describes its variable. -/
  described : ∀ info ∈ infos, info.DescribedBy info.toJson

theorem Response.lists_ok (infos : List VariableInfo) :
    (ok (.array (infos.map VariableInfo.toJson))).Lists infos :=
  ⟨rfl, fun info _ => info.describedBy_toJson⟩

/-! ## Requests -/

/-- A request for all variables or one, as its handler gets it. -/
inductive NodeRequest where
  /-- To list all variables. -/
  | list
  /-- To read the variable that a path names. -/
  | read (path : String)
  /-- To write the variable that a path names. -/
  | write (path : String) (w : WriteRequest)

namespace NodeRequest

/-- What does a request. -/
def handler (v : Service) : NodeRequest → Action AddressSpace Response
  | .list => listNodes
  | .read path => readNode v path
  | .write path w => writeNode v path w

/-- The request that a handler gets, if it gets one. -/
def of? (r : Request) : Option NodeRequest :=
  match route? r.path, r.method with
  | some .nodes, .get => some .list
  | some (.node path), .get => (decodePath? path).map .read
  | some (.node path), .put =>
    (decodePath? path).bind fun path => (readBody r).toOption.map (.write path)
  | _, _ => none

end NodeRequest

/-- What is answered to a request, errors included. -/
def answer (v : Service) (q : NodeRequest) : Action AddressSpace Response :=
  Action.recover Response.ofError (q.handler v)

/-! ## The way to the handlers -/

/-- An authorized request that reaches a handler is answered by it. -/
theorem respond_of_authorized {r : Request} {q : NodeRequest} (hq : NodeRequest.of? r = some q)
    (hauthorized : ((v.credentials.authenticate r.credentials?).run s).result = .ok ()) :
    ((respond v r).run s).result = ((answer v q).run s).result ∧
      ((respond v r).run s).state = ((answer v q).run s).state := by
  unfold NodeRequest.of? at hq
  split at hq
  · rename_i hroute hmethod
    cases hq
    simp [respond, hroute, respondRoute, hmethod, answer, NodeRequest.handler, hauthorized]
  · rename_i hroute hmethod
    obtain ⟨path, hpath, rfl⟩ := Option.map_eq_some_iff.mp hq
    simp [respond, hroute, respondRoute, respondNode, hmethod, hpath, answer,
      NodeRequest.handler, hauthorized]
  · rename_i hroute hmethod
    obtain ⟨path, hpath, hbody⟩ := Option.bind_eq_some_iff.mp hq
    obtain ⟨w, hw, rfl⟩ := Option.map_eq_some_iff.mp hbody
    have hread : readBody r = .ok w := by
      cases hresult : readBody r with
      | error response => simp [hresult, Except.toOption] at hw
      | ok w' => simpa [hresult, Except.toOption] using hw
    simp [respond, hroute, respondRoute, respondNode, hmethod, hpath, hread, answer,
      NodeRequest.handler, hauthorized]
  · cases hq

/-! ## Reading -/

theorem listNodes_run : listNodes.run s =
    ⟨.ok (.ok (.array (s.allVariables.map VariableInfo.toJson))), s, []⟩ := rfl

theorem readNode_state : ((readNode v path).run s).state = s := by
  unfold readNode
  cases resolveNodeId v path with
  | error e => simp
  | ok id => cases hinfo : s.variableInfo id <;> simp [hinfo]

/-- A variable is read as it is. -/
theorem readNode_of_variable {info : VariableInfo} (hid : resolveNodeId v path = .ok id)
    (hinfo : s.variableInfo id = .ok info) :
    ((readNode v path).run s).result = .ok (.ok info.toJson) := by
  simp [readNode, hid, hinfo]

theorem readNode_of_unknown (hid : resolveNodeId v path = .ok id)
    (hinfo : s.variableInfo id = .error e) : ((readNode v path).run s).result = .error e := by
  simp [readNode, hid, hinfo]

theorem readNode_of_unresolved (hid : resolveNodeId v path = .error e) :
    ((readNode v path).run s).result = .error e := by
  simp [readNode, hid]

/-! ## Writing -/

/-- The request says whether a value is decoded leniently. -/
theorem WriteRequest.decode_eq (w : WriteRequest) (type : ScalarType) : w.decode type =
    if w.coerce then Value.coerceJson w.value type else Value.ofJson w.value type :=
  rfl

/-- A decoded value has the type it was decoded for. -/
theorem WriteRequest.type_of_decode {type : ScalarType} {value : Value}
    (h : w.decode type = .ok value) : value.type = type := by
  unfold WriteRequest.decode at h
  split at h
  · have hconverts := Value.converts_coerceJson w.value type
    rw [h] at hconverts
    exact hconverts
  · exact Value.type_of_ofJson h

/-- The status code of a value that cannot be decoded. -/
theorem WriteRequest.statusOf_decode {type : ScalarType} (h : w.decode type = .error e) :
    Response.statusOf e = 422 := by
  unfold WriteRequest.decode at h
  split at h
  · have hconverts := Value.converts_coerceJson w.value type
    rw [h] at hconverts
    obtain ⟨text, rfl⟩ := hconverts
    rfl
  · obtain ⟨found, rfl⟩ := Value.error_of_ofJson h
    rfl

theorem writeNode_of_unresolved (hid : resolveNodeId v path = .error e) :
    ((writeNode v path w).run s).result = .error e ∧
      ((writeNode v path w).run s).state = s := by
  simp [writeNode, hid]

theorem writeNode_of_unknown (hid : resolveNodeId v path = .ok id)
    (hinfo : s.variableInfo id = .error e) :
    ((writeNode v path w).run s).result = .error e ∧
      ((writeNode v path w).run s).state = s := by
  simp [writeNode, hid, hinfo]

theorem writeNode_of_undecoded {info : VariableInfo} (hid : resolveNodeId v path = .ok id)
    (hinfo : s.variableInfo id = .ok info) (hdecode : w.decode info.type = .error e) :
    ((writeNode v path w).run s).result = .error e ∧
      ((writeNode v path w).run s).state = s := by
  simp [writeNode, hid, hinfo, hdecode]

/-- A decoded value is written if the variable can be written, and the answer shows it. -/
theorem writeNode_of_decoded {node : VariableNode} {value : Value}
    (hid : resolveNodeId v path = .ok id) (hnode : s.variableNode id = .ok node)
    (haccess : node.access = .readWrite) (hdecode : w.decode node.type = .ok value) :
    ((writeNode v path w).run s).result =
        .ok (.ok { node.info id with value }.toJson) ∧
      ((writeNode v path w).run s).state = s.withValue id value := by
  obtain ⟨hwrite, hwritten⟩ :=
    write_of_writable hnode haccess (WriteRequest.type_of_decode hdecode)
  have hinfo : s.variableInfo id = .ok (node.info id) := variableInfo_of_ok hnode
  have hdecode' : w.decode (node.info id).type = .ok value := hdecode
  -- the variable is looked up once more for the answer
  have hafter : (s.withValue id value).variableInfo id =
      .ok { node.info id with value, stamp := s.clock } := by
    refine variableInfo_eq_ok_iff.mpr ⟨{ node with value, stamp := s.clock }, ?_, rfl⟩
    rw [variableNode_withValue, if_pos rfl, hnode]
    rfl
  simp [writeNode, hid, hinfo, hdecode', hwrite, hwritten, hafter]
  rfl

end Http

end ScalarServer
