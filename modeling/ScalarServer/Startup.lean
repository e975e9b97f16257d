import ScalarServer.Credentials
import ScalarServer.Registration

/-!
# Starting the server

Building the address space that a configuration describes, and telling the log about it.
-/

namespace ScalarServer

/-- The version of the server. -/
def version : String :=
  "0.1.0"

/-- What a server starts with, apart from its address space. -/
structure Bootstrapped where
  /-- The index of the namespace of the variables. -/
  namespaceIndex : UInt16
  /-- The folder of the variables. -/
  folder : Folder
  /-- The variables. -/
  registered : List RegisteredVariable
deriving DecidableEq

/-- Creates folders, each inside the one before it, and answers with the last one. -/
def addFolders (namespaceIndex : UInt16) : Folder → List String → Action AddressSpace Folder
  | parent, [] => return parent
  | parent, name :: names => do
    let folder ← AddressSpace.addFolder parent namespaceIndex name
    addFolders namespaceIndex folder names

/-- Registers the namespaces of a configuration, and creates its folders and variables. -/
def bootstrap (c : ServerConfig) : Action AddressSpace Bootstrapped := do
  Action.ofExcept c.validate
  let _ ← AddressSpace.registerNamespace c.applicationUri
  let namespaceIndex ← AddressSpace.registerNamespace c.namespaceUri
  let folder ← addFolders namespaceIndex AddressSpace.objects c.folderSegments
  let registered ← Registration.registerAll namespaceIndex folder.backend c.definitions
  return ⟨namespaceIndex, folder, registered⟩

/-- Logs one line after the other for everyone. -/
def announce {σ : Type} : List String → Action σ Unit
  | [] => return ()
  | line :: lines => do
    Action.log .info line
    announce lines

/-- Builds the address space and logs what the server is about to serve, up to the address that
it takes HTTP requests at. -/
def start (c : ServerConfig) : Action AddressSpace Bootstrapped := do
  let boot ← bootstrap c
  announce [
    c.serverName ++ " v" ++ version ++ " starting",
    "  Endpoint:  " ++ c.endpoint,
    "  Namespace: " ++ toString boot.namespaceIndex.toNat ++ " = " ++ c.namespaceUri,
    "  Folder:    " ++ boot.folder.path,
    "  Auth mode: " ++ (CredentialStore.ofConfig c.auth).mode.label]
  announce (boot.registered.map fun v => "  " ++ v.id.text ++ " (" ++ v.type.name ++ ")")
  announce ["  Inspection API: http://" ++ c.http.bind.address ++ ":" ++
    toString c.http.port.toNat ++ "/nodes"]
  return boot

/-- Logs that the server has been asked to stop, and that it has. -/
def stop {σ : Type} : Action σ Unit :=
  announce ["Shutdown requested", "Server stopped"]

end ScalarServer
