import ScalarServer.Text.Digits

/-!
# Media types

A media type is a type, a slash, a subtype that may have a suffix after a plus sign, and
parameters. A request body counts as JSON if its type is `application` and its subtype or suffix
is `json`, in any case.
-/

namespace ScalarServer.Http

open Text

/-- Whether a character can stand in a token. -/
def isTokenChar (c : Char) : Bool :=
  c.isAlphanum || "!#$%&'*+-.^_\x60|~".toList.contains c

/-- The inside of a quoted parameter value up to its closing quote, and the rest of the text. A
quote right at the start does not close. -/
def quotedValue? (atStart : Bool) : List Char → Option (List Char)
  | [] => none
  | c :: cs =>
    if c = '"' ∧ !atStart then some cs
    else if c.toNat < 0x20 ∨ c.toNat = 0x7f then none
    else quotedValue? false cs

/-- What follows the value of a parameter: nothing, or a semicolon and more. -/
def afterValue? (cs : List Char) : Option (List Char) :=
  match cs with
  | [] => some []
  | '"' :: quotedText =>
    (quotedValue? true quotedText).bind fun rest =>
      match rest.dropWhile (· == ' ') with
      | [] => some []
      | ';' :: more => some more
      | _ => none
  | c :: _ =>
    match cs.dropWhile isTokenChar with
    | [] => some []
    | ';' :: more => if isTokenChar c then some more else none
    | _ => none

/-- Whether a text is a list of parameters. Every step takes at least one character, so the
length of the text bounds the number of steps. -/
def areParameters : Nat → List Char → Bool
  | 0, cs => cs.isEmpty
  | fuel + 1, cs =>
    match cs.dropWhile (· == ' ') with
    | [] => true
    | c :: rest =>
      match (c :: rest).dropWhile isTokenChar with
      | '=' :: value =>
        isTokenChar c &&
          match afterValue? value with
          | some more => areParameters fuel more
          | none => false
      | _ => false

/-- Whether a subtype, after its first character, is `json`, or has the suffix. -/
def isJsonSubtype (subtype : List Char) : Bool :=
  match subtype with
  | [] => false
  | c :: rest =>
    -- the last plus sign counts, but one right at the start belongs to the subtype
    match rest.reverse.span (· != '+') with
    | (_, []) => lowercase subtype == "json".toList
    | (suffix, _ :: stem) =>
      lowercase (c :: stem.reverse) == "json".toList ||
        lowercase suffix.reverse == "json".toList

/-- Whether a media type says that a body is JSON. -/
def isJsonMediaType (cs : List Char) : Bool :=
  let type := cs.takeWhile isTokenChar
  match cs.dropWhile isTokenChar with
  | '/' :: rest =>
    let subtype := rest.takeWhile isTokenChar
    let parametersFine := match rest.dropWhile isTokenChar with
      | [] => true
      | ';' :: parameters => areParameters (parameters.length + 1) parameters
      | _ => false
    lowercase type == "application".toList && isJsonSubtype subtype && parametersFine
  | _ => false

end ScalarServer.Http
