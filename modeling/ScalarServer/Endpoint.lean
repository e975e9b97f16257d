import ScalarServer.Error
import ScalarServer.Url.Basic

/-!
# Endpoints

An endpoint is the URL at which clients reach the server. It must have the scheme `opc.tcp` and a
host; the port has a default.
-/

namespace ScalarServer

/-- Where clients reach the server. -/
structure Endpoint where
  /-- The host. -/
  host : String
  /-- The port. -/
  port : UInt16
  /-- The path, which may be empty. -/
  path : String
deriving DecidableEq

namespace Endpoint

/-- The port of an endpoint that names none. -/
def defaultPort : UInt16 :=
  4840

/-- Reads an endpoint. -/
def parse (s : String) : Except Error Endpoint :=
  match Url.parse s with
  | .error fault => .error (.config ("invalid endpoint " ++ Text.quote s ++ ": " ++ fault.message))
  | .ok url =>
    if url.scheme ≠ "opc.tcp" then
      .error (.config ("endpoint " ++ Text.quote s ++ " must use the opc.tcp scheme"))
    else match url.host with
      | none => .error (.config ("endpoint " ++ Text.quote s ++ " has no host"))
      | some host => .ok ⟨host, url.port.getD defaultPort, url.path⟩

end Endpoint

end ScalarServer
