import ScalarServer.Http.Authorization
import ScalarServer.Http.MediaType
import ScalarServer.Startup
import ScalarServer.Url.Percent

/-!
# The HTTP service

Clients look at the server under `/health`, list all variables under `/nodes`, and read and write
one variable under `/nodes/` and its identifier. Where users have to say who they are, everything
under `/nodes` needs credentials.

Responses have no place here for what is read off a clock: when the value of a variable was set, as
a text under `source_timestamp`, and for how many seconds the server has been running, under
`uptime_secs`. All their other members are here.
-/

namespace ScalarServer

/-- The JSON form of what clients are told about a variable, but for the time when its value was
set. -/
def VariableInfo.toJson (v : VariableInfo) : Json :=
  .ofFields [("node_id", .string v.id.text), ("display_name", .string v.name),
    ("type", .string v.type.name), ("value", v.value.toJson), ("writable", .bool v.writable)]

namespace Http

open Text
open Json (Document Problem RecordField)

/-- What requests are answered from, apart from the address space. -/
structure Service where
  /-- Who may use the service. -/
  credentials : CredentialStore
  /-- The namespace of identifiers that name none. -/
  namespaceIndex : UInt16
  /-- The URL of the endpoint, for those who ask. -/
  endpoint : String

/-- What a client wants to write. -/
structure WriteRequest where
  /-- The value. -/
  value : Json
  /-- Whether the value may be converted. -/
  coerce : Bool

namespace WriteRequest

/-- What has been read of a write request. -/
structure Partial where
  /-- The value. -/
  value : Option Json
  /-- Whether the value may be converted. -/
  coerce : Option Bool

/-- The fields of a write request. -/
def fields : List (RecordField Partial) :=
  [RecordField.required "value" (·.value) (Document.toValue (Json.nestingLimit - 1))
     fun v p => { p with value := some v },
   RecordField.optional "coerce" (·.coerce) Document.toBool fun b p => { p with coerce := some b }]

/-- Reads a write request. -/
def ofDocument (d : Document) : Except Problem WriteRequest := do
  match ← d.toRecord "WriteRequest" fields ⟨none, none⟩ with
  | ⟨some value, coerce⟩ => return ⟨value, coerce.getD false⟩
  | _ => .error .malformed

/-- Reads a write request at the start of a body; what follows it does not matter. -/
def ofBody (s : String) : Except Problem WriteRequest :=
  ofDocument (Document.ofText s.toList).1

end WriteRequest

/-- A number of bounded size as JSON. -/
def countJson (n : Nat) : Json :=
  match Json.Number.ofInt? n with
  | some n => .number n
  | none => .null

/-- The state of the server, but for the time that it has been running. -/
def health (v : Service) : Action AddressSpace Response := do
  let s ← Action.state
  return .ok (.ofFields [
    ("status", .string "healthy"),
    ("version", .string version),
    ("endpoint", .string v.endpoint),
    ("namespace_index", countJson v.namespaceIndex.toNat),
    ("variables", countJson s.allVariables.length),
    ("nodes", countJson s.nodeCount)])

/-- The node that a path names: a full identifier if it begins like one, or else the text of an
identifier in the namespace of the service. Slashes in front do not count. -/
def resolveNodeId (v : Service) (path : String) : Except Error NodeId :=
  let cs := path.toList.dropWhile (· == '/')
  if (afterStart "ns=".toList cs).isSome then NodeId.parse (.ofList cs)
  else if cs = [] then .error (.invalidNodeId "")
  else .ok ⟨v.namespaceIndex, .ofList cs⟩

/-- Lists all variables. -/
def listNodes : Action AddressSpace Response := do
  let s ← Action.state
  return .ok (.array (s.allVariables.map VariableInfo.toJson))

/-- Reads one variable. -/
def readNode (v : Service) (path : String) : Action AddressSpace Response := do
  let id ← Action.ofExcept (resolveNodeId v path)
  let s ← Action.state
  let info ← Action.ofExcept (s.variableInfo id)
  return .ok info.toJson

/-- The value that a client wants to write, as a value of a type. -/
def WriteRequest.decode (w : WriteRequest) (type : ScalarType) : Except Error Value :=
  if w.coerce then Value.coerceJson w.value type else Value.ofJson w.value type

/-- Writes one variable, and answers with what it then holds. -/
def writeNode (v : Service) (path : String) (w : WriteRequest) :
    Action AddressSpace Response := do
  let id ← Action.ofExcept (resolveNodeId v path)
  let s ← Action.state
  let declared ← Action.ofExcept (s.variableInfo id)
  let value ← Action.ofExcept (w.decode declared.type)
  -- the line is there also if the store then refuses
  Action.log .info ("Write " ++ id.text ++ " = " ++ value.text)
  AddressSpace.write id value
  let s ← Action.state
  let info ← Action.ofExcept (s.variableInfo id)
  return .ok info.toJson

/-- A path without its escapes. -/
def decodePath? (path : List Char) : Option String :=
  String.fromUTF8? (Url.percentDecode (path.flatMap Url.utf8)).toByteArray

/-- What is answered to a path that is not UTF-8 without its escapes. -/
def badPath : Response :=
  .withText 400 "Invalid URL: Invalid UTF-8 in \x60path\x60"

/-- Reads the body of a request to write, or answers why that is not possible. -/
def readBody (r : Request) : Except Response WriteRequest :=
  if !((r.header? "content-type").any isJsonMediaType) then
    .error (.withText 415 "Expected request with \x60Content-Type: application/json\x60")
  else match WriteRequest.ofBody r.body with
    | .ok w => .ok w
    | .error .malformed =>
      .error (.withText 400 ("Failed to parse the request body as JSON: " ++
        Problem.malformed.message))
    | .error (.content message) =>
      .error (.withText 422
        ("Failed to deserialize the JSON body into the target type: " ++ message))

/-- What a path of the service leads to. -/
inductive Route where
  /-- The state of the server. -/
  | health
  /-- All variables. -/
  | nodes
  /-- One variable, by what follows the slash, with its escapes. -/
  | node (path : List Char)
deriving DecidableEq

/-- The route of a path. -/
def route? (path : String) : Option Route :=
  if path = "/health" then some .health
  else if path = "/nodes" then some .nodes
  else match afterStart "/nodes/".toList path.toList with
    | some (c :: cs) => some (.node (c :: cs))
    | _ => none

/-- Answers a request to one variable, whose path has its escapes. -/
def respondNode (v : Service) (r : Request) (path : List Char) : Action AddressSpace Response :=
  match r.method with
  | .get | .head =>
    match decodePath? path with
    | some path => readNode v path
    | none => return badPath
  | .put =>
    match decodePath? path with
    | none => return badPath
    | some path =>
      match readBody r with
      | .error response => return response
      | .ok w => writeNode v path w
  | .other => return .plain 405

/-- Answers a request that has come to a route. -/
def respondRoute (v : Service) (r : Request) (route : Route) : Action AddressSpace Response :=
  match route, r.method with
  | .health, .get | .health, .head => health v
  | .health, _ => return .plain 405
  | .nodes, .get | .nodes, .head => do
    v.credentials.authenticate r.credentials?
    listNodes
  | .nodes, _ => do
    v.credentials.authenticate r.credentials?
    return .plain 405
  | .node path, _ => do
    v.credentials.authenticate r.credentials?
    respondNode v r path

/-- Answers a request. Errors become responses, and where only the head of a response is wanted
there is no body. -/
def respond (v : Service) (r : Request) : Action AddressSpace Response :=
  match route? r.path with
  | none => return .plain 404
  | some route => do
    let response ← Action.recover Response.ofError (respondRoute v r route)
    return if r.method = .head then response.withoutBody else response

end Http

end ScalarServer
