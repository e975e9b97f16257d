import ScalarServer.Http.Authorization
import ScalarServer.Proofs.Credentials
import ScalarServer.Proofs.Http.Base64
import ScalarServer.Proofs.Text.Split

/-!
# What a header field says about the client

A client that wants to be known sends the word `Basic` in any case, a space, and the Base64 form of
its name, a colon and its password, with spaces and tabs in front of the word and around the form as
it likes. Such a header field is read as this name and this password, and no other header field is
read at all. Only names with a colon cannot be sent.

- `isBlank_iff_of_isVisible`: the blanks of a header field are spaces and tabs;
- `fromUTF8?_eq_some_iff`, `trim_eq_encode_iff`: what the stages of reading come to, from both
  sides;
- `credentialsOfHeader?_eq_some_iff`: all stages together;
- `credentialsOfHeader?_eq_some_iff_exists_layout`: which header values a client can write;
- `credentials_exact`: which name and password are read from a request, and when there are none.
-/

namespace ScalarServer.Http

open Text

variable {c : Char} {scheme token value : List Char} {user password : String}

/-! ## Characters -/

/-- The characters that header fields are made of. -/
def isVisible (c : Char) : Bool :=
  (0x20 ≤ c.toNat && c.toNat < 0x7f) || c == '\t'

/-- The only blanks among them are spaces and tabs. -/
theorem isBlank_iff_of_isVisible (h : isVisible c = true) :
    isBlank c = true ↔ c = ' ' ∨ c = '\t' := by
  constructor
  · intro hblank
    simp only [isVisible, Bool.or_eq_true, Bool.and_eq_true, decide_eq_true_eq, beq_iff_eq] at h
    rcases h with ⟨hlow, hhigh⟩ | htab
    · left
      have hspace : c.toNat = ' '.toNat := by
        simp only [isBlank, Bool.or_eq_true, Bool.and_eq_true, decide_eq_true_eq, beq_iff_eq]
          at hblank
        change c.toNat = 32
        omega
      exact Char.toNat_inj.mp hspace
    · exact .inr htab
  · rintro (rfl | rfl) <;> decide

/-- The word consists of letters, whatever their case. -/
theorem plain_of_mem_scheme (h : lowercase scheme = "basic".toList) (hc : c ∈ scheme) :
    isBlank c = false ∧ isVisible c = true := by
  have hlower : lowerAscii c ∈ "basic".toList := h ▸ List.mem_map_of_mem hc
  unfold lowerAscii at hlower
  split at hlower
  · rename_i hupper
    have hlow : 65 ≤ c.toNat := UInt32.le_iff_toNat_le.mp hupper.1
    have hhigh : c.toNat ≤ 90 := UInt32.le_iff_toNat_le.mp hupper.2
    simp only [isBlank, isVisible, Bool.or_eq_false_iff, Bool.and_eq_false_iff,
      decide_eq_false_iff_not, beq_eq_false_iff_ne, Bool.or_eq_true, Bool.and_eq_true,
      decide_eq_true_eq]
    omega
  · have hletters : "basic".toList.all (fun c => !isBlank c && isVisible c) = true := by decide
    simpa using List.all_eq_true.mp hletters c hlower

/-- Neither does Base64 use blanks or anything that is not visible. -/
theorem plain_of_mem_encode {bytes : List UInt8} (hc : c ∈ Base64.encode bytes) :
    isBlank c = false ∧ isVisible c = true :=
  Base64.forall_mem_encode (P := fun c => isBlank c = false ∧ isVisible c = true)
    (by decide) (by decide) c hc

/-! ## Stages of reading -/

/-- Bytes are read as a text exactly if they are the bytes of this text. -/
theorem fromUTF8?_eq_some_iff {bytes : List UInt8} {s : String} :
    String.fromUTF8? bytes.toByteArray = some s ↔ bytes = s.toUTF8.toList := by
  rw [toList_eq_toList_data]
  constructor
  · intro h
    unfold String.fromUTF8? at h
    split at h
    · cases h
      exact List.toList_data_toByteArray.symm
    · cases h
  · rintro rfl
    have hbytes : s.toUTF8.data.toList.toByteArray = s.toByteArray :=
      ByteArray.ext (by rw [List.data_toByteArray, Array.toArray_toList]; rfl)
    rw [hbytes, String.fromUTF8?, dif_pos s.isValidUTF8]
    rfl

/-- What is left of a token without its blanks is the written form of some bytes exactly if there
are only blanks around this form. -/
theorem trim_eq_encode_iff {bytes : List UInt8} :
    trim token = Base64.encode bytes ↔ ∃ lead trail, token = lead ++ Base64.encode bytes ++ trail ∧
      (∀ c ∈ lead, isBlank c = true) ∧ ∀ c ∈ trail, isBlank c = true := by
  constructor
  · intro h
    obtain ⟨lead, trail, htoken, hlead, htrail⟩ := exists_eq_append_strip isBlank token
    exact ⟨lead, trail, h ▸ htoken, hlead, htrail⟩
  · rintro ⟨lead, trail, rfl, hlead, htrail⟩
    exact strip_append hlead htrail
      (fun c hc => (plain_of_mem_encode (List.mem_of_mem_head? hc)).1)
      fun c hc => (plain_of_mem_encode (List.mem_of_getLast? hc)).1

/-- What has to hold for a name and a password to be read. -/
theorem credentialsOfHeader?_eq_some_iff :
    credentialsOfHeader? value = some (user, password) ↔
      ':' ∉ user.toList ∧ ∃ scheme token,
        value.dropWhile isBlank = scheme ++ ' ' :: token ∧ lowercase scheme = "basic".toList ∧
        trim token = Base64.encode (user ++ ":" ++ password).toUTF8.toList := by
  simp only [credentialsOfHeader?, Option.bind_eq_bind, Option.bind_eq_some_iff]
  constructor
  · -- each stage of reading has an inverse; these are put together from the last one to the first
    rintro ⟨⟨scheme, token⟩, hvalue, h⟩
    split at h
    · cases h
    · rename_i hscheme
      simp only [Option.bind_eq_some_iff] at h
      obtain ⟨bytes, hbytes, pair, hpair, ⟨name, rest⟩, hcolon, h⟩ := h
      cases h
      obtain ⟨hpairEq, hname⟩ := splitFirst_eq_some_iff.mp hcolon
      have hjoin : String.ofList name ++ ":" ++ String.ofList rest = pair := by
        apply String.toList_inj.mp
        simp [hpairEq]
      refine ⟨by simpa using hname, scheme, token, (splitFirst_eq_some_iff.mp hvalue).1,
        not_not.mp hscheme, ?_⟩
      rw [hjoin, ← fromUTF8?_eq_some_iff.mp hpair]
      exact Base64.decode?_eq_some_iff.mp hbytes
  · rintro ⟨hcolon, scheme, token, hvalue, hscheme, htoken⟩
    -- the space behind the word and the colon behind the name are the first ones
    have hspace : ' ' ∉ scheme := fun hmem =>
      absurd (plain_of_mem_scheme hscheme hmem).1 (by decide)
    have hpair : splitFirst ':' (user ++ ":" ++ password).toList =
        some (user.toList, password.toList) := by
      rw [String.toList_append, String.toList_append, List.append_assoc]
      exact splitFirst_append hcolon
    refine ⟨(scheme, token), splitFirst_eq_some_iff.mpr ⟨hvalue, hspace⟩, ?_⟩
    rw [if_neg (not_not.mpr hscheme)]
    simp only [Option.bind_eq_some_iff]
    refine ⟨_, Base64.decode?_eq_some_iff.mpr htoken, _, fromUTF8?_eq_some_iff.mpr rfl, _, hpair,
      ?_⟩
    simp only [String.ofList_toList]
    rfl

/-! ## Header fields -/

/-- How a client can write what is in front of and around the Base64 form. -/
structure Layout where
  /-- Blanks in front of the word. -/
  before : List Char
  /-- The word. -/
  scheme : List Char
  /-- Blanks behind the space that follows the word. -/
  lead : List Char
  /-- Blanks at the end. -/
  trail : List Char
  /-- The word is `Basic` in any case. -/
  scheme_eq : lowercase scheme = "basic".toList
  /-- Blanks are spaces and tabs. -/
  blank : ∀ c ∈ before ++ lead ++ trail, c = ' ' ∨ c = '\t'

namespace Layout

variable (l : Layout)

/-- The header value for a name and a password. -/
def header (user password : String) : List Char :=
  l.before ++ (l.scheme ++ ' ' ::
    (l.lead ++ Base64.encode (user ++ ":" ++ password).toUTF8.toList ++ l.trail))

theorem isBlank_and_isVisible (hc : c ∈ l.before ++ l.lead ++ l.trail) :
    isBlank c = true ∧ isVisible c = true := by
  rcases l.blank c hc with rfl | rfl <;> decide

/-- All that a client sends is visible. -/
theorem isVisible_of_mem_header (hc : c ∈ l.header user password) : isVisible c = true := by
  simp only [header, List.mem_append, List.mem_cons] at hc
  rcases hc with hbefore | hscheme | rfl | (hlead | hencode) | htrail
  · exact (l.isBlank_and_isVisible (by simp [hbefore])).2
  · exact (plain_of_mem_scheme l.scheme_eq hscheme).2
  · decide
  · exact (l.isBlank_and_isVisible (by simp [hlead])).2
  · exact (plain_of_mem_encode hencode).2
  · exact (l.isBlank_and_isVisible (by simp [htrail])).2

/-- Reading begins at the word. -/
theorem dropWhile_header : (l.header user password).dropWhile isBlank = l.scheme ++ ' ' ::
    (l.lead ++ Base64.encode (user ++ ":" ++ password).toUTF8.toList ++ l.trail) := by
  rw [header, List.dropWhile_append_of_pos fun c hc => (l.isBlank_and_isVisible (by simp [hc])).1]
  -- the word is not empty, and no letter is blank
  cases hscheme : l.scheme with
  | nil =>
    have hempty := l.scheme_eq
    rw [hscheme] at hempty
    cases hempty
  | cons c rest =>
    have hletter := (plain_of_mem_scheme l.scheme_eq (hscheme ▸ List.mem_cons_self)).1
    exact List.dropWhile_cons_of_neg (by simp [hletter])

end Layout

/-- A header value is read as a name and a password exactly if a client can write it for them. -/
theorem credentialsOfHeader?_eq_some_iff_exists_layout
    (hvisible : ∀ c ∈ value, isVisible c = true) :
    credentialsOfHeader? value = some (user, password) ↔
      ':' ∉ user.toList ∧ ∃ l : Layout, value = l.header user password := by
  rw [credentialsOfHeader?_eq_some_iff, and_congr_right_iff]
  intro _
  constructor
  · rintro ⟨scheme, token, hvalue, hscheme, htoken⟩
    obtain ⟨lead, trail, rfl, hlead, htrail⟩ := trim_eq_encode_iff.mp htoken
    have hsplit : value = value.takeWhile isBlank ++ (scheme ++ ' ' ::
        (lead ++ Base64.encode (user ++ ":" ++ password).toUTF8.toList ++ trail)) := by
      rw [← hvalue, List.takeWhile_append_dropWhile]
    have hbefore : ∀ c ∈ value.takeWhile isBlank, isBlank c = true := fun c hc =>
      List.mem_takeWhile_imp hc
    -- from here on it does not matter that nothing more is blank at the beginning
    generalize value.takeWhile isBlank = before at hsplit hbefore
    have hblank : ∀ c ∈ before ++ lead ++ trail, c = ' ' ∨ c = '\t' := by
      intro c hc
      simp only [List.mem_append] at hc
      refine (isBlank_iff_of_isVisible (hvisible c ?_)).mp ?_
      · rcases hc with (h | h) | h <;> simp [hsplit, h]
      · rcases hc with (h | h) | h
        · exact hbefore c h
        · exact hlead c h
        · exact htrail c h
    exact ⟨⟨before, scheme, lead, trail, hscheme, hblank⟩, hsplit⟩
  · rintro ⟨l, rfl⟩
    exact ⟨l.scheme, _, l.dropWhile_header, l.scheme_eq, trim_eq_encode_iff.mpr
      ⟨l.lead, l.trail, rfl, fun c hc => (l.isBlank_and_isVisible (by simp [hc])).1,
        fun c hc => (l.isBlank_and_isVisible (by simp [hc])).1⟩⟩

/-! ## Requests -/

/-- The value of the header field in which a client says who it is. -/
def Request.authorization? (r : Request) : Option String :=
  (r.headers.find? fun h => lowercase h.1.toList == "authorization".toList).map (·.2)

theorem header?_authorization_eq_some_iff {r : Request} :
    r.header? "authorization" = some value ↔
      r.authorization? = some (.ofList value) ∧ ∀ c ∈ value, isVisible c = true := by
  unfold Request.header? Request.authorization?
  cases r.headers.find? fun h => lowercase h.1.toList == "authorization".toList with
  | none => simp
  | some field =>
    have hvalue : field.2 = .ofList value ↔ field.2.toList = value := by
      rw [← String.toList_inj, String.toList_ofList]
    simp only [Option.map_some, Option.some.injEq, hvalue]
    -- the characters are checked in the words of `isVisible`
    change (if field.2.toList.all isVisible = true then some field.2.toList else none) = some value
      ↔ _
    split
    · rename_i hall
      rw [Option.some.injEq, iff_self_and]
      rintro rfl
      exact List.all_eq_true.mp hall
    · rename_i hnot
      constructor
      · exact fun h => by cases h
      · rintro ⟨rfl, hvisible⟩
        exact absurd (List.all_eq_true.mpr hvisible) hnot

/-- A request carries a name and a password exactly if its header field is one that a client can
write for them. -/
theorem credentials?_eq_some_iff {r : Request} :
    r.credentials? = some (user, password) ↔
      ':' ∉ user.toList ∧
        ∃ l : Layout, r.authorization? = some (.ofList (l.header user password)) := by
  rw [Request.credentials?, Option.bind_eq_some_iff]
  constructor
  · rintro ⟨value, hvalue, hread⟩
    obtain ⟨hfield, hvisible⟩ := header?_authorization_eq_some_iff.mp hvalue
    obtain ⟨hcolon, l, rfl⟩ :=
      (credentialsOfHeader?_eq_some_iff_exists_layout hvisible).mp hread
    exact ⟨hcolon, l, hfield⟩
  · rintro ⟨hcolon, l, hfield⟩
    have hvisible : ∀ c ∈ l.header user password, isVisible c = true := fun c hc =>
      l.isVisible_of_mem_header hc
    exact ⟨_, header?_authorization_eq_some_iff.mpr ⟨hfield, hvisible⟩,
      (credentialsOfHeader?_eq_some_iff_exists_layout hvisible).mpr ⟨hcolon, l, rfl⟩⟩

/-- What a client can write for a name without a colon and a password is read as this name and this
password, and a request with anything else, or with no such header field, carries none. -/
theorem credentials_exact (r : Request) (user password : String) :
    (r.credentials? = some (user, password) ↔
      ':' ∉ user.toList ∧
        ∃ l : Layout, r.authorization? = some (.ofList (l.header user password))) ∧
    (r.credentials? = none ↔
      ∀ user password, ':' ∉ user.toList →
        ∀ l : Layout, r.authorization? ≠ some (.ofList (l.header user password))) := by
  refine ⟨credentials?_eq_some_iff, ?_⟩
  rw [Option.eq_none_iff_forall_ne_some]
  constructor
  · intro hnone user password hcolon l hfield
    exact hnone (user, password) (credentials?_eq_some_iff.mpr ⟨hcolon, l, hfield⟩)
  · rintro hother ⟨user, password⟩ hread
    obtain ⟨hcolon, l, hfield⟩ := credentials?_eq_some_iff.mp hread
    exact hother user password hcolon l hfield

/-- The first colon ends the name, so a password may have some. -/
example : credentialsOfHeader? "\tbASIC  dTpwOnE= ".toList = some ("u", "p:q") := by
  decide +kernel

end ScalarServer.Http
