import ScalarServer.Credentials
import ScalarServer.Http.Base64
import ScalarServer.Http.Message
import ScalarServer.Text.Blank

/-!
# Basic authorization

A client says who it is in a header field: the word `Basic`, a space, and the Base64 form of its
name, a colon and its password.
-/

namespace ScalarServer.Http

open Text

/-- Name and password in the value of the header field. -/
def credentialsOfHeader? (value : List Char) : Option (String × String) := do
  let (scheme, token) ← splitFirst ' ' (value.dropWhile isBlank)
  if lowercase scheme ≠ "basic".toList then none
  let bytes ← Base64.decode? (trim token)
  let pair ← String.fromUTF8? bytes.toByteArray
  let (user, password) ← splitFirst ':' pair.toList
  return (.ofList user, .ofList password)

/-- Name and password in a request. -/
def Request.credentials? (r : Request) : Option (String × String) :=
  (r.header? "authorization").bind credentialsOfHeader?

end ScalarServer.Http
