import ScalarServer.Text.Blank
import ScalarServer.Url.Ipv4
import ScalarServer.Url.Ipv6
import ScalarServer.Url.Path

/-!
# URLs

As much of a URL as an endpoint needs: the scheme, the host, the port and the path. Reading
follows the rules that browsers share. Controls and blanks around the text do not count, nor do
tabs and line ends within it; a query or fragment is passed over. Schemes that everyone knows are
special: they need a host, have a default port and a path, and take a backslash for a slash and any
number of slashes before the authority. The host of any other scheme is opaque: it is kept as it
is written, apart from escapes, unless it is an IPv6 address.
-/

namespace ScalarServer

open Text

/-- The parts of a URL. -/
structure Url where
  /-- The scheme, in lower case. -/
  scheme : String
  /-- The host, if there is one. -/
  host : Option String
  /-- The port, if one is given. -/
  port : Option UInt16
  /-- The path. -/
  path : String
deriving DecidableEq

namespace Url

/-- Why a text is not a URL. -/
inductive Fault where
  /-- There is no scheme. -/
  | noScheme
  /-- An authority without a host. -/
  | emptyHost
  /-- A port that is no number of sixteen bits. -/
  | badPort
  /-- Brackets without an IPv6 address in them. -/
  | badIpv6
  /-- A host with a character that hosts cannot have. -/
  | badHostCharacter
  /-- A host of a special scheme with such a character. -/
  | badDomain
  /-- A host that ends in a number and is no IPv4 address. -/
  | badIpv4
deriving DecidableEq, Repr

/-- The text of a fault. -/
def Fault.message : Fault → String
  | .noScheme => "relative URL without a base"
  | .emptyHost => "empty host"
  | .badPort => "invalid port number"
  | .badIpv6 => "invalid IPv6 address"
  | .badHostCharacter => "invalid domain character"
  | .badDomain => "invalid international domain name"
  | .badIpv4 => "invalid IPv4 address"

/-- Whether a character ends the authority of a URL. -/
def endsAuthority (special : Bool) (c : Char) : Bool :=
  c == '/' || c == '?' || c == '#' || (special && c == '\\')

/-- Whether a character can stand in a scheme, after its first letter. -/
def isSchemeChar (c : Char) : Bool :=
  c.isAlphanum || c == '+' || c == '-' || c == '.'

/-- The scheme of a text in lower case, and the text after its colon. -/
def takeScheme? (cs : List Char) : Option (List Char × List Char) :=
  match cs with
  | c :: _ =>
    match cs.dropWhile isSchemeChar with
    | ':' :: rest =>
      if c.isAlpha then some (lowercase (cs.takeWhile isSchemeChar), rest) else none
    | _ => none
  | [] => none

/-- The schemes that are special and need an authority, with their default ports. -/
def specialSchemes : List (String × UInt16) :=
  [("http", 80), ("https", 443), ("ws", 80), ("wss", 443), ("ftp", 21)]

/-- The text before and the text after the last at-sign. -/
def splitUser (authority : List Char) : Option (List Char × List Char) :=
  if authority.contains '@' then
    let host := afterLast '@' authority
    some (authority.take (authority.length - host.length - 1), host)
  else none

/-- The host part of an authority, up to a colon outside of brackets, and the rest. -/
def takeHost (brackets : Bool) : List Char → List Char × List Char
  | [] => ([], [])
  | c :: cs =>
    if c = ':' ∧ !brackets then ([], c :: cs)
    else
      let brackets := if c = '[' then true else if c = ']' then false else brackets
      let (host, rest) := takeHost brackets cs
      (c :: host, rest)

/-- Whether a character cannot stand in an opaque host. -/
def isForbiddenInHost (c : Char) : Bool :=
  c == '\x00' || c == '\t' || c == '\n' || c == '\r' || c == ' ' || c == '#' || c == '/' ||
    c == ':' || c == '<' || c == '>' || c == '?' || c == '@' || c == '[' || c == '\\' ||
    c == ']' || c == '^' || c == '|'

/-- An address in brackets. -/
def bracketedHost (cs : List Char) : Except Fault (List Char) :=
  if cs.getLast? ≠ some ']' then .error .badIpv6
  else match Ipv6.ofText? (cs.drop 1).dropLast with
    | some pieces => .ok ('[' :: (Ipv6.text pieces ++ [']']))
    | none => .error .badIpv6

/-- The host of a scheme that is not special. -/
def opaqueHost (cs : List Char) : Except Fault (List Char) :=
  if cs.head? = some '[' then bracketedHost cs
  else if cs.any isForbiddenInHost then .error .badHostCharacter
  else .ok (percentEncode isControl cs)

/-- Whether a character cannot stand in the domain of a special scheme. -/
def isForbiddenInDomain (c : Char) : Bool :=
  isForbiddenInHost c || c == '%' || c.toNat < 0x20 || c.toNat == 0x7f

/-- The host of a special scheme: a domain or an address. -/
def specialHost (cs : List Char) : Except Fault (List Char) :=
  if cs = [] then .error .emptyHost
  else if cs.head? = some '[' then bracketedHost cs
  else
    let bytes := percentDecode (cs.flatMap utf8)
    match String.fromUTF8? bytes.toByteArray with
    | none => .error .badDomain
    | some domain =>
      let name := lowercase domain.toList
      if name.any isForbiddenInDomain then .error .badDomain
      else if Ipv4.isMeant name then
        match Ipv4.ofText? name with
        | some address => .ok (Ipv4.text address)
        | none => .error .badIpv4
      else .ok name

/-- The port that follows a host, and what follows the port. The digits end at the end of the
authority or at a backslash. -/
def takePort (cs : List Char) : Except Fault (Option UInt16 × List Char) :=
  match cs with
  | ':' :: rest =>
    let (digits, after) := takeDigits rest
    let number := ofDigits digits
    if 65536 ≤ number then .error .badPort
    else
      let port := if digits = [] then none else some (UInt16.ofNat number)
      match after with
      | [] => .ok (port, [])
      | c :: _ => if endsAuthority true c then .ok (port, after) else .error .badPort
  | rest => .ok (none, rest)

/-- The path at the start of a text. In a special scheme it is never empty, and a backslash counts
as a slash. -/
def takePath (special : Bool) (cs : List Char) : List Char :=
  let path := cs.takeWhile fun c => c != '?' && c != '#'
  if !special then pathText path
  else if path = [] then ['/']
  else pathText (path.map fun c => if c = '\\' then '/' else c)

/-- Reads a URL from the start of its authority. A special scheme comes with its default port,
which counts as no port. -/
def afterSlashes (scheme : String) (defaultPort : Option UInt16) (cs : List Char) :
    Except Fault Url := do
  let special := defaultPort.isSome
  let authority := cs.takeWhile fun c => !endsAuthority special c
  let rest := cs.dropWhile fun c => !endsAuthority special c
  let (user, hostAndPort) := match splitUser authority with
    | some (user, host) => (some user, host)
    | none => (none, authority)
  -- an at-sign with nothing on either side
  if user = some [] ∧ hostAndPort = [] ∧ rest ≠ [] then .error .emptyHost
  let (hostPart, afterHost) := takeHost false hostAndPort
  let host ← if special then specialHost hostPart else opaqueHost hostPart
  -- a port needs a host, and so does a user, after the port has been read
  if host = [] ∧ afterHost.head? = some ':' then .error .emptyHost
  let (port, afterPort) ← takePort (afterHost ++ rest)
  if host = [] ∧ user.any (fun u => u ≠ [] ∧ u ≠ [':']) then .error .emptyHost
  return {
    scheme
    host := if host = [] then none else some (.ofList host)
    port := if port = defaultPort then none else port
    path := .ofList (takePath special afterPort) }

/-- Reads the URL of a file from behind its scheme. The host may be missing, and a drive letter is
no host. -/
def ofFile (scheme : String) (cs : List Char) : Except Fault Url := do
  let isSlash (c : Char) := c == '/' || c == '\\'
  if ((cs.take 2).filter isSlash).length = 2 then
    let authority := (cs.drop 2).takeWhile fun c => !endsAuthority true c
    if authority = [] ∨ isDriveLetter authority then
      return ⟨scheme, none, none, .ofList (takePath true (cs.drop 2))⟩
    let host ← specialHost authority
    let path := takePath true (cs.drop (2 + authority.length))
    return ⟨scheme, if host = "localhost".toList then none else some (.ofList host), none,
      .ofList path⟩
  else return ⟨scheme, none, none, .ofList (takePath true cs)⟩

/-- Whether a character does not count at either end of a URL. -/
def isOuterBlank (c : Char) : Bool :=
  c.toNat ≤ 0x20

/-- Reads a URL. -/
def parse (s : String) : Except Fault Url :=
  let cs := (strip isOuterBlank s.toList).filter fun c => c != '\t' && c != '\n' && c != '\r'
  match takeScheme? cs with
  | none => .error .noScheme
  | some (schemeText, rest) =>
    let scheme := String.ofList schemeText
    if scheme = "file" then ofFile scheme rest
    else match specialSchemes.find? (·.1 == scheme) with
      | some (_, port) =>
        afterSlashes scheme (some port) (rest.dropWhile fun c => c == '/' || c == '\\')
      | none =>
        match rest with
        | '/' :: '/' :: authority => afterSlashes scheme none authority
        | '/' :: _ => .ok ⟨scheme, none, none, .ofList (takePath false rest)⟩
        | _ =>
          let path := rest.takeWhile fun c => c != '?' && c != '#'
          .ok ⟨scheme, none, none, .ofList (percentEncode isControl path)⟩

end Url

end ScalarServer
