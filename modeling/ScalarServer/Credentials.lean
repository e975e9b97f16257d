import ScalarServer.Action
import ScalarServer.Config.Basic

/-!
# Credentials

Who may use the server. Where users have to say who they are, name and password must both be
those of one user, and every attempt is logged with the name. Texts are compared byte by byte,
without stopping at the first difference.
-/

namespace ScalarServer

/-- The users and whether they have to say who they are. -/
structure CredentialStore where
  /-- Whether users have to say who they are. -/
  mode : AuthMode
  /-- The users. -/
  users : List UserCredential
deriving DecidableEq

/-- Whether two byte strings of one length differ nowhere: the bits in which they differ anywhere
are gathered in one byte. -/
def sameBytes (a b : List UInt8) : Bool :=
  a.length == b.length && (List.zipWith (· ^^^ ·) a b).foldl (· ||| ·) 0 == 0

/-- The developer's view of a user, without the password. -/
def UserCredential.describe (u : UserCredential) : String :=
  "UserCredential \x7b username: " ++ Text.quote u.username ++ ", password: \"***\" \x7d"

namespace CredentialStore

/-- The users of a configuration. -/
def ofConfig (c : AuthConfig) : CredentialStore :=
  ⟨c.mode, c.users⟩

/-- No users, and no need for any. -/
def anonymous : CredentialStore :=
  ⟨.anonymous, []⟩

/-- Whether a user has this name and this password. -/
def hasUser (c : CredentialStore) (username password : String) : Bool :=
  c.users.any fun u =>
    sameBytes u.username.toUTF8.toList username.toUTF8.toList &&
      sameBytes u.password.toUTF8.toList password.toUTF8.toList

/-- Whether a user has this name and this password; logs the attempt. -/
def verify {σ : Type} (c : CredentialStore) (username password : String) : Action σ Bool := do
  let accepted := c.hasUser username password
  let attempt := "Login attempt with username \"" ++ username ++ "\": "
  if accepted then Action.log .info (attempt ++ "SUCCESS")
  else Action.log .warn (attempt ++ "FAILED")
  return accepted

/-- Refuses those who may not use the server. -/
def authenticate {σ : Type} (c : CredentialStore) (credentials : Option (String × String)) :
    Action σ Unit :=
  match c.mode with
  | .anonymous => return ()
  | .username =>
    match credentials with
    | none => Action.refuse (.authFailed "username required")
    | some (username, password) => do
      let accepted ← c.verify username password
      if accepted then return ()
      else Action.refuse (.authFailed "invalid username or password")

/-- The developer's view of the users, without their passwords. -/
def describe (c : CredentialStore) : String :=
  "CredentialStore \x7b mode: " ++ c.mode.label ++ ", users: [" ++
    ", ".intercalate (c.users.map UserCredential.describe) ++ "] \x7d"

end CredentialStore

end ScalarServer
