import ScalarServer.Definition
import ScalarServer.Endpoint

/-!
# Configuration

What a server is started with: its names, its endpoint, the folder that its variables are in, who
may use it, and the variables. Everything has a default.
-/

namespace ScalarServer

open Text

/-- Who may use the server. -/
inductive AuthMode where
  /-- Everyone. -/
  | anonymous
  /-- Users with a name and a password. -/
  | username
deriving DecidableEq, Repr

/-- The modes with their names. -/
def AuthMode.named : List (String × AuthMode) :=
  [("anonymous", .anonymous), ("username", .username)]

/-- The name of a mode in configurations. -/
def AuthMode.name : AuthMode → String
  | .anonymous => "anonymous"
  | .username => "username"

/-- How the log shows a mode. -/
def AuthMode.label : AuthMode → String
  | .anonymous => "Anonymous"
  | .username => "Username"

/-- A user with a password. -/
structure UserCredential where
  /-- The name. -/
  username : String
  /-- The password. -/
  password : String
deriving DecidableEq

/-- Who may use the server, and with which passwords. -/
structure AuthConfig where
  /-- Whether users have to say who they are. -/
  mode : AuthMode
  /-- The users. -/
  users : List UserCredential
deriving DecidableEq

/-- A user who should read, and one who should write. -/
def AuthConfig.default : AuthConfig where
  mode := .username
  users := [⟨"LablinkTestReader", "vOBKtPzcWv"⟩, ⟨"LablinkTestWriter", "upDAOaPzsJ"⟩]

/-- From where HTTP requests are taken. -/
inductive BindMode where
  /-- From the same machine. -/
  | loopback
  /-- From every machine. -/
  | lan
deriving DecidableEq, Repr

/-- The modes with their names. -/
def BindMode.named : List (String × BindMode) :=
  [("loopback", .loopback), ("lan", .lan)]

/-- The name of a mode in configurations. -/
def BindMode.name : BindMode → String
  | .loopback => "loopback"
  | .lan => "lan"

/-- The address that a mode listens at. -/
def BindMode.address : BindMode → String
  | .loopback => "127.0.0.1"
  | .lan => "0.0.0.0"

/-- Where HTTP requests are taken. -/
structure HttpConfig where
  /-- The port. -/
  port : UInt16
  /-- From where. -/
  bind : BindMode
deriving DecidableEq

/-- The usual port, for the same machine only. -/
def HttpConfig.default : HttpConfig where
  port := 12380
  bind := .loopback

/-- What a server is started with. -/
structure ServerConfig where
  /-- The name of the server. -/
  serverName : String
  /-- The URI of the server's own namespace. -/
  applicationUri : String
  /-- The URL of the endpoint. -/
  endpoint : String
  /-- The URI of the namespace of the variables. -/
  namespaceUri : String
  /-- The names of the folders down to the variables, with slashes between them. -/
  folderPath : String
  /-- Who may use the server. -/
  auth : AuthConfig
  /-- Where HTTP requests are taken. -/
  http : HttpConfig
  /-- The variables. -/
  definitions : List VariableDefinition
deriving DecidableEq

namespace ServerConfig

/-- One variable of each type, in a folder of its own. -/
def default : ServerConfig where
  serverName := "Lablink Test Server"
  applicationUri := "urn:lablink:opcua-test-server"
  endpoint := "opc.tcp://localhost:12345/lablink-test"
  namespaceUri := "urn:lablink:opcua-test"
  folderPath := "LablinkTest/ScalarTypes"
  auth := .default
  http := .default
  definitions := VariableDefinition.defaults

/-- The folder names in a path, the outermost first. Blanks around a name do not count, and
neither do empty names. -/
def segmentsOf (folderPath : String) : List String :=
  (((splitAll '/' folderPath.toList).map trim).filter (· ≠ [])).map String.ofList

/-- The names of the folders down to the variables. -/
def folderSegments (c : ServerConfig) : List String :=
  segmentsOf c.folderPath

/-- Checks the endpoint, that there is a folder, and that the namespace has a URI. -/
def validate (c : ServerConfig) : Except Error Unit :=
  match Endpoint.parse c.endpoint with
  | .error e => .error e
  | .ok _ =>
    if c.folderSegments = [] then
      .error (.config "folder_path must name at least one folder")
    else if trim c.namespaceUri.toList = [] then
      .error (.config "namespace_uri must not be empty")
    else .ok ()

end ServerConfig

/-- What a command line may say in place of the configuration. -/
structure ServeOptions where
  /-- Another port for HTTP. -/
  httpPort : Option UInt16
  /-- Another place to take requests from. -/
  bind : Option BindMode
  /-- Whether everyone may use the server. -/
  noAuth : Bool
deriving DecidableEq

/-- No change to the configuration. -/
def ServeOptions.none : ServeOptions :=
  ⟨.none, .none, false⟩

/-- The configuration with the changes. -/
def ServeOptions.apply (o : ServeOptions) (c : ServerConfig) : ServerConfig :=
  { c with
    http := ⟨o.httpPort.getD c.http.port, o.bind.getD c.http.bind⟩
    auth := ⟨if o.noAuth then .anonymous else c.auth.mode, c.auth.users⟩ }

end ScalarServer
