import ScalarServer.Config.Basic

/-!
# Configurations as JSON

Every part of a configuration has a JSON form, and a reader in which absent fields take their
defaults. A user is the exception: name and password must both be there.
-/

namespace ScalarServer

open Json (Document Problem RecordField)

/-- The JSON form of a user. -/
def UserCredential.toJson (u : UserCredential) : Json :=
  .ofFields [("username", .string u.username), ("password", .string u.password)]

/-- The JSON form of the users and their mode. -/
def AuthConfig.toJson (a : AuthConfig) : Json :=
  .ofFields [("mode", .string a.mode.name), ("users", .array (a.users.map UserCredential.toJson))]

/-- A port fits a JSON number. -/
theorem port_fits (port : UInt16) :
    Json.Number.Fits (port.toNat : Int) := by
  have := port.toNat_lt
  unfold Json.Number.Fits
  omega

/-- The JSON form of the HTTP part. -/
def HttpConfig.toJson (h : HttpConfig) : Json :=
  .ofFields [("port", .number (.integer h.port.toNat (port_fits h.port))),
    ("bind", .string h.bind.name)]

/-- The JSON form of a configuration. -/
def ServerConfig.toJson (c : ServerConfig) : Json :=
  .ofFields [
    ("server_name", .string c.serverName),
    ("application_uri", .string c.applicationUri),
    ("endpoint", .string c.endpoint),
    ("namespace_uri", .string c.namespaceUri),
    ("folder_path", .string c.folderPath),
    ("auth", c.auth.toJson),
    ("http", c.http.toJson),
    ("variables", .array (c.definitions.map VariableDefinition.toJson))]

namespace UserCredential

/-- What has been read of a user. -/
structure Partial where
  /-- The name. -/
  username : Option String
  /-- The password. -/
  password : Option String

/-- The fields of a user. -/
def fields : List (RecordField Partial) :=
  [RecordField.required "username" (·.username) Document.toText
     fun s p => { p with username := some s },
   RecordField.required "password" (·.password) Document.toText
     fun s p => { p with password := some s }]

/-- Reads a user. -/
def ofDocument (d : Document) : Except Problem UserCredential := do
  match ← d.toRecord "UserCredential" fields ⟨none, none⟩ with
  | ⟨some username, some password⟩ => return ⟨username, password⟩
  | _ => .error .malformed

end UserCredential

namespace AuthConfig

/-- What has been read of the users and their mode. -/
structure Partial where
  /-- The mode. -/
  mode : Option AuthMode
  /-- The users. -/
  users : Option (List UserCredential)

/-- The fields of the users and their mode. -/
def fields : List (RecordField Partial) :=
  [RecordField.optional "mode" (·.mode) (Document.toChoice AuthMode.named)
     fun m p => { p with mode := some m },
   RecordField.optional "users" (·.users) (Document.toList UserCredential.ofDocument)
     fun us p => { p with users := some us }]

/-- Reads the users and their mode. -/
def ofDocument (d : Document) : Except Problem AuthConfig := do
  let read ← d.toRecord "AuthConfig" fields ⟨none, none⟩
  return ⟨read.mode.getD default.mode, read.users.getD default.users⟩

end AuthConfig

namespace HttpConfig

/-- What has been read of the HTTP part. -/
structure Partial where
  /-- The port. -/
  port : Option UInt16
  /-- From where. -/
  bind : Option BindMode

/-- The fields of the HTTP part. -/
def fields : List (RecordField Partial) :=
  [RecordField.optional "port" (·.port) Document.toWord16 fun n p => { p with port := some n },
   RecordField.optional "bind" (·.bind) (Document.toChoice BindMode.named)
     fun b p => { p with bind := some b }]

/-- Reads the HTTP part. -/
def ofDocument (d : Document) : Except Problem HttpConfig := do
  let read ← d.toRecord "HttpConfig" fields ⟨none, none⟩
  return ⟨read.port.getD default.port, read.bind.getD default.bind⟩

end HttpConfig

namespace ServerConfig

/-- What has been read of a configuration. -/
structure Partial where
  /-- The name of the server. -/
  serverName : Option String
  /-- The URI of the server's own namespace. -/
  applicationUri : Option String
  /-- The URL of the endpoint. -/
  endpoint : Option String
  /-- The URI of the namespace of the variables. -/
  namespaceUri : Option String
  /-- The folder path. -/
  folderPath : Option String
  /-- Who may use the server. -/
  auth : Option AuthConfig
  /-- Where HTTP requests are taken. -/
  http : Option HttpConfig
  /-- The variables. -/
  definitions : Option (List VariableDefinition)

/-- Nothing read yet. -/
def Partial.empty : Partial :=
  ⟨none, none, none, none, none, none, none, none⟩

/-- The fields of a configuration, which may nest as deep as the text allows. -/
def fields : List (RecordField Partial) :=
  [RecordField.optional "server_name" (·.serverName) Document.toText
     fun s p => { p with serverName := some s },
   RecordField.optional "application_uri" (·.applicationUri) Document.toText
     fun s p => { p with applicationUri := some s },
   RecordField.optional "endpoint" (·.endpoint) Document.toText
     fun s p => { p with endpoint := some s },
   RecordField.optional "namespace_uri" (·.namespaceUri) Document.toText
     fun s p => { p with namespaceUri := some s },
   RecordField.optional "folder_path" (·.folderPath) Document.toText
     fun s p => { p with folderPath := some s },
   RecordField.optional "auth" (·.auth) AuthConfig.ofDocument
     fun a p => { p with auth := some a },
   RecordField.optional "http" (·.http) HttpConfig.ofDocument
     fun h p => { p with http := some h },
   -- a definition is inside the configuration and inside the list
   RecordField.optional "variables" (·.definitions)
     (Document.toList (VariableDefinition.ofDocument (Json.nestingLimit - 2)))
     fun vs p => { p with definitions := some vs }]

/-- A configuration from what has been read of it. -/
def ofPartial (p : Partial) : ServerConfig where
  serverName := p.serverName.getD default.serverName
  applicationUri := p.applicationUri.getD default.applicationUri
  endpoint := p.endpoint.getD default.endpoint
  namespaceUri := p.namespaceUri.getD default.namespaceUri
  folderPath := p.folderPath.getD default.folderPath
  auth := p.auth.getD default.auth
  http := p.http.getD default.http
  definitions := p.definitions.getD default.definitions

/-- Reads a configuration. -/
def ofDocument (d : Document) : Except Problem ServerConfig := do
  let read ← d.toRecord "ServerConfig" fields Partial.empty
  return ofPartial read

/-- Reads a configuration from its text. -/
def ofText (s : String) : Except Problem ServerConfig :=
  Json.decodeText ofDocument s.toList

/-- Whether users and variables come back when the text of the configuration is read again. -/
def readsBack (c : ServerConfig) : Bool :=
  match ofText c.toJson.render with
  | .error _ => false
  | .ok c' =>
    c'.auth.users == c.auth.users && c'.definitions.length == c.definitions.length &&
      (c'.definitions.zip c.definitions).all fun (d', d) =>
        d'.name == d.name && d'.type == d.type && d'.value.agrees d.value

end ServerConfig

end ScalarServer
