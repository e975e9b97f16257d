import ScalarServer.Error
import ScalarServer.Json.Basic
import ScalarServer.Text.Split

/-!
# HTTP requests and responses

As much of them as the server looks at and answers with.
-/

namespace ScalarServer.Http

/-- The methods that the server tells apart. -/
inductive Method where
  /-- To read. -/
  | get
  /-- To read without being told. -/
  | head
  /-- To write. -/
  | put
  /-- Any other. -/
  | other
deriving DecidableEq, Repr

/-- The method with a name. -/
def Method.ofName (name : String) : Method :=
  if name = "GET" then .get
  else if name = "HEAD" then .head
  else if name = "PUT" then .put
  else .other

/-- A request. -/
structure Request where
  /-- What to do. -/
  method : Method
  /-- The path as it was sent, with its escapes and without the query. -/
  path : String
  /-- Names and values of the header fields, in order. -/
  headers : List (String × String)
  /-- The body. -/
  body : String
deriving DecidableEq

/-- The path of a request target: what stands before a query, and after the authority where
there is one. -/
def pathOfTarget (target : String) : String :=
  let cs := target.toList
  let local? := if cs.head? = some '/' then cs else afterAuthority cs
  .ofList (local?.takeWhile fun c => c != '?' && c != '#')
where
  /-- What follows the authority of an absolute target. -/
  afterAuthority : List Char → List Char
    | ':' :: '/' :: '/' :: cs => cs.dropWhile fun c => c != '/' && c != '?' && c != '#'
    | [] => []
    | _ :: cs => afterAuthority cs

namespace Request

/-- The value of the first header field with a name, given in lower case. A value with anything
but visible ASCII characters, spaces and tabs counts as none. -/
def header? (r : Request) (name : String) : Option (List Char) :=
  match r.headers.find? fun h => Text.lowercase h.1.toList == name.toList with
  | some (_, value) =>
    if value.toList.all fun c => (0x20 ≤ c.toNat && c.toNat < 0x7f) || c == '\t'
    then some value.toList else none
  | none => none

end Request

/-- The body of a response. -/
inductive Body where
  /-- Nothing. -/
  | empty
  /-- A text. -/
  | text (s : String)
  /-- A JSON value. -/
  | json (j : Json)

/-- A response. -/
structure Response where
  /-- The status code. -/
  status : Nat
  /-- How to say who one is, if that is needed. -/
  challenge : Option String
  /-- The body. -/
  body : Body

namespace Response

/-- A response with nothing but a status. -/
def plain (status : Nat) : Response :=
  ⟨status, none, .empty⟩

/-- A response with a text. -/
def withText (status : Nat) (s : String) : Response :=
  ⟨status, none, .text s⟩

/-- A response with a JSON value. -/
def ok (j : Json) : Response :=
  ⟨200, none, .json j⟩

/-- The status code for an error. -/
def statusOf : Error → Nat
  | .unknownNode _ | .unknownNamespace _ => 404
  | .invalidNodeId _ => 400
  | .typeMismatch _ _ | .conversion _ _ => 422
  | .notWritable _ => 403
  | .authFailed _ => 401
  | .unsupportedType _ | .invalidDefinition _ | .duplicateNode _ | .config _ | .backend _
  | .io _ | .json _ => 500

/-- The response for an error. -/
def ofError (e : Error) : Response where
  status := statusOf e
  challenge := if statusOf e = 401 then some "Basic realm=\"lablink\"" else none
  body := .json (.ofFields [("error", .string e.message)])

/-- A response without its body. -/
def withoutBody (r : Response) : Response :=
  { r with body := .empty }

end Response

end ScalarServer.Http
