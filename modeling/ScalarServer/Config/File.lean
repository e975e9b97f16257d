import ScalarServer.Config.Json

/-!
# Configuration files

A configuration is read from the file that the command line names, or else from the one that the
environment names; without either the defaults hold. A file that is named must be there, be
UTF-8, be a configuration, and be valid.
-/

namespace ScalarServer

/-- What is found under a path. -/
inductive FileContent where
  /-- The file cannot be read, for this reason. -/
  | unreadable (reason : String)
  /-- The bytes of the file. -/
  | bytes (content : ByteArray)

/-- The reason for which a file that does not exist cannot be read. -/
def FileContent.missing : FileContent :=
  .unreadable "No such file or directory (os error 2)"

/-- The text of a file. -/
def FileContent.text : FileContent → Except String String
  | .unreadable reason => .error reason
  | .bytes content =>
    match String.fromUTF8? content with
    | some s => .ok s
    | none => .error "stream did not contain valid UTF-8"

namespace ServerConfig

/-- The environment variable that may name a configuration file. -/
def environmentVariable : String :=
  "LABLINK_OPCUA_CONFIG"

/-- Reads the configuration in a file and checks it. -/
def load (path : String) (file : FileContent) : Except Error ServerConfig :=
  match file.text with
  | .error reason => .error (.config ("cannot read " ++ path ++ ": " ++ reason))
  | .ok content =>
    match ofText content with
    | .error problem => .error (.config ("invalid config " ++ path ++ ": " ++ problem.message))
    | .ok config => config.validate.map fun _ => config

/-- The path of the configuration file, if there is to be one. -/
def pathInUse (explicit environment : Option String) : Option String :=
  explicit.or environment

/-- The configuration to be used, given what is found under each path. -/
def discover (explicit environment : Option String) (file : String → FileContent) :
    Except Error ServerConfig :=
  match pathInUse explicit environment with
  | some path => load path (file path)
  | none => .ok default

end ServerConfig

end ScalarServer
