import ScalarServer.NodeId
import ScalarServer.Proofs.Text.Split

/-!
# Written identifiers

Identifiers are written out and read again.

- `ofText?_parts`: what is read of a text that consists of the right parts;
- `parse_text`: an identifier with a text that is not empty and has no semicolon can be read back;
- `Writes`, `parse_eq_ok_iff`: the texts that write an identifier, and that no others are read;
- `text_injective`: different identifiers are written differently, also those that cannot be read
  back;
- `parse_exact`: all that reading and writing have to do with each other.
-/

namespace ScalarServer.NodeId

open Text

variable {cs digits identifier : List Char} {index : UInt16}

/-! ## Indices -/

/-- The index that a run of digits writes. -/
def indexOfDigits? (digits : List Char) : Option UInt16 :=
  if digits = [] ∨ !digits.all Char.isDigit then none
  else if ofDigits digits < 65536 then some (UInt16.ofNat (ofDigits digits)) else none

theorem indexOfText?_plus (digits : List Char) :
    indexOfText? ('+' :: digits) = indexOfDigits? digits := rfl

theorem indexOfText?_of_head (h : cs.head? ≠ some '+') :
    indexOfText? cs = indexOfDigits? cs := by
  simp only [indexOfText?, indexOfDigits?]
  split
  · exact absurd rfl h
  · rfl

theorem indexOfDigits?_eq_some_iff : indexOfDigits? digits = some index ↔
    digits ≠ [] ∧ digits.all Char.isDigit = true ∧ ofDigits digits = index.toNat := by
  unfold indexOfDigits?
  by_cases hdigits : digits = [] ∨ !digits.all Char.isDigit
  · rw [if_pos hdigits]
    rcases hdigits with hnil | hall
    · simp [hnil]
    · rw [Bool.not_eq_true'] at hall
      simp [hall]
  · rw [if_neg hdigits]
    simp only [not_or, Bool.not_eq_true', Bool.not_eq_false] at hdigits
    simp only [hdigits, ne_eq, not_false_eq_true, true_and]
    constructor
    · intro h
      split at h
      · rename_i hlt
        cases h
        exact (UInt16.toNat_ofNat_of_lt hlt).symm
      · cases h
    · intro h
      rw [h, if_pos index.toNat_lt, UInt16.ofNat_toNat]

/-- An index is written in digits, with a plus sign or none. -/
theorem indexOfText?_eq_some_iff : indexOfText? cs = some index ↔
    ∃ digits, (cs = digits ∨ cs = '+' :: digits) ∧ indexOfDigits? digits = some index := by
  constructor
  · intro h
    by_cases hplus : cs.head? = some '+'
    · obtain ⟨digits, rfl⟩ := List.head?_eq_some_iff.mp hplus
      rw [indexOfText?_plus] at h
      exact ⟨digits, .inr rfl, h⟩
    · rw [indexOfText?_of_head hplus] at h
      exact ⟨cs, .inl rfl, h⟩
  · rintro ⟨digits, rfl | rfl, h⟩
    · rw [indexOfText?_of_head, h]
      -- a plus sign is not a digit
      intro hplus
      have hall := (indexOfDigits?_eq_some_iff.mp h).2.1
      exact absurd (List.all_eq_true.mp hall '+' (List.mem_of_mem_head? hplus)) (by decide)
    · exact h

/-- The digits of a number below 65536 are read as this number. -/
theorem indexOfText?_toDigits (index : UInt16) :
    indexOfText? (Nat.toDigits 10 index.toNat) = some index := by
  have hdigits : (Nat.toDigits 10 index.toNat).all Char.isDigit = true :=
    List.all_eq_true.mpr fun _ => Nat.isDigit_of_mem_toDigits (by decide) (by decide)
  have hvalue : ofDigits (Nat.toDigits 10 index.toNat) = index.toNat :=
    Nat.ofDigitChars_eq_foldl.symm.trans Nat.ofDigitChars_ten_toDigits
  exact indexOfText?_eq_some_iff.mpr ⟨_, .inl rfl,
    indexOfDigits?_eq_some_iff.mpr ⟨Nat.toDigits_ne_nil, hdigits, hvalue⟩⟩

theorem semicolon_not_mem_of_indexOfText? (h : indexOfText? cs = some index) : ';' ∉ cs := by
  obtain ⟨digits, hcs, hindex⟩ := indexOfText?_eq_some_iff.mp h
  have hall := (indexOfDigits?_eq_some_iff.mp hindex).2.1
  have hsemicolon : ';' ∉ digits := fun hmem =>
    absurd (List.all_eq_true.mp hall ';' hmem) (by decide)
  rcases hcs with rfl | rfl
  · exact hsemicolon
  · simpa using hsemicolon

/-! ## Whole texts -/

/-- A semicolon at the end, or none, is left out. -/
theorem withoutFinalSemicolon_append {ending : List Char} (hne : identifier ≠ [])
    (hsemicolon : ';' ∉ identifier) (hending : ending = [] ∨ ending = [';']) :
    withoutFinalSemicolon (cs ++ identifier ++ ending) = cs ++ identifier := by
  unfold withoutFinalSemicolon
  rcases hending with rfl | rfl
  · rw [List.append_nil, if_neg]
    intro hlast
    rw [List.getLast?_append, List.getLast?_eq_some_getLast hne] at hlast
    exact hsemicolon (List.mem_of_getLast? ((List.getLast?_eq_some_getLast hne).trans hlast))
  · rw [if_pos (by simp), List.dropLast_concat]

/-- What is read of a text that consists of the right parts. -/
theorem ofText?_parts {ending : List Char} (hindex : indexOfText? digits = some index)
    (hne : identifier ≠ []) (hsemicolon : ';' ∉ identifier)
    (hending : ending = [] ∨ ending = [';']) :
    ofText? (.ofList ("ns=".toList ++ digits ++ ";s=".toList ++ identifier ++ ending)) =
      some ⟨index, .ofList identifier⟩ := by
  have hdigits : ';' ∉ "ns=".toList ++ digits := by
    simpa using semicolon_not_mem_of_indexOfText? hindex
  have hsplit : splitFirst ';' ("ns=".toList ++ digits ++ ";s=".toList ++ identifier) =
      some ("ns=".toList ++ digits, "s=".toList ++ identifier) := by
    rw [List.append_assoc]
    exact splitFirst_append hdigits
  unfold ofText?
  rw [String.toList_ofList, withoutFinalSemicolon_append hne hsemicolon hending, hsplit]
  have hstart := afterStart_append "ns=".toList digits
  have hstart' := afterStart_append "s=".toList identifier
  simp only [Option.bind_eq_bind, Option.bind_some, hstart, hindex, hstart']
  rw [if_neg]
  rintro (hnil | hmem)
  · exact hne hnil
  · exact hsemicolon hmem

theorem toList_text (id : NodeId) : id.text.toList =
    "ns=".toList ++ Nat.toDigits 10 id.namespaceIndex.toNat ++ ";s=".toList ++
      id.identifier.toList ++ [';'] := by
  simp [text]

/-- Only a semicolon at the end is left out. -/
theorem exists_ending (cs : List Char) :
    ∃ ending, (ending = [] ∨ ending = [';']) ∧ cs = withoutFinalSemicolon cs ++ ending := by
  unfold withoutFinalSemicolon
  by_cases hlast : cs.getLast? = some ';'
  · obtain ⟨start, rfl⟩ := List.getLast?_eq_some_iff.mp hlast
    exact ⟨[';'], .inr rfl, by rw [if_pos hlast, List.dropLast_concat]⟩
  · exact ⟨[], .inl rfl, by rw [if_neg hlast, List.append_nil]⟩

/-- Nothing is read but texts that consist of the right parts. -/
theorem exists_parts_of_ofText? {s : String} {id : NodeId} (h : ofText? s = some id) :
    ∃ digits ending, indexOfText? digits = some id.namespaceIndex ∧ id.identifier.toList ≠ [] ∧
      ';' ∉ id.identifier.toList ∧ (ending = [] ∨ ending = [';']) ∧
      s.toList = "ns=".toList ++ digits ++ ";s=".toList ++ id.identifier.toList ++ ending := by
  -- the steps of reading, each with what it says of the text
  obtain ⟨⟨first, second⟩, hsplit, h⟩ := Option.bind_eq_some_iff.mp h
  obtain ⟨digits, hdigits, h⟩ := Option.bind_eq_some_iff.mp h
  obtain ⟨index, hindex, h⟩ := Option.bind_eq_some_iff.mp h
  obtain ⟨identifier, hidentifier, h⟩ := Option.bind_eq_some_iff.mp h
  split at h
  · cases h
  · rename_i hok
    cases h
    rw [not_or] at hok
    obtain ⟨ending, hending, hs⟩ := exists_ending s.toList
    rw [(splitFirst_eq_some_iff.mp hsplit).1, afterStart_eq_some_iff.mp hdigits,
      afterStart_eq_some_iff.mp hidentifier] at hs
    rw [String.toList_ofList]
    refine ⟨digits, ending, hindex, hok.1, hok.2, hending, hs.trans ?_⟩
    simp

/-- What has been written out can be read back, if there is a text without a semicolon. -/
theorem parse_text {id : NodeId} (hne : id.identifier.toList ≠ [])
    (hsemicolon : ';' ∉ id.identifier.toList) : parse id.text = .ok id := by
  have hparts := ofText?_parts (indexOfText?_toDigits id.namespaceIndex) hne hsemicolon (.inr rfl)
  rw [← toList_text, String.ofList_toList, String.ofList_toList] at hparts
  rw [parse, hparts]

/-! ## What is read -/

/-- The parts of a text that writes an identifier: `ns=`, the index in digits with a plus sign or
none, `;s=`, the text of the identifier, and a semicolon or none. -/
structure WrittenAs (s : String) (id : NodeId) (sign digits ending : String) : Prop where
  /-- The parts, in order. -/
  parts : s = "ns=" ++ sign ++ digits ++ ";s=" ++ id.identifier ++ ending
  /-- Before the digits there is a plus sign or nothing. -/
  sign : sign = "" ∨ sign = "+"
  /-- There are digits. -/
  digits_ne : digits ≠ ""
  /-- They are decimal digits, as many as one likes. -/
  decimal : ∀ c ∈ digits.toList, c.isDigit = true
  /-- They write the index, which has sixteen bits. -/
  index : Nat.ofDigitChars 10 digits.toList 0 = id.namespaceIndex.toNat
  /-- The text of the identifier is not empty. -/
  identifier_ne : id.identifier ≠ ""
  /-- It has no semicolon. -/
  identifier : ';' ∉ id.identifier.toList
  /-- At the end there is a semicolon or nothing. -/
  ending : ending = "" ∨ ending = ";"

/-- A text writes an identifier. -/
def Writes (s : String) (id : NodeId) : Prop :=
  ∃ sign digits ending, WrittenAs s id sign digits ending

theorem parse_eq_ok_iff_ofText? {s : String} {id : NodeId} :
    parse s = .ok id ↔ ofText? s = some id := by
  unfold parse
  cases ofText? s <;> simp

/-- An index is read off its digits, whether there is a plus sign or none. -/
theorem WrittenAs.indexOfText? {s : String} {id : NodeId} {sign digits ending : String}
    (h : WrittenAs s id sign digits ending) :
    NodeId.indexOfText? (sign.toList ++ digits.toList) = some id.namespaceIndex := by
  refine indexOfText?_eq_some_iff.mpr ⟨digits.toList, ?_, indexOfDigits?_eq_some_iff.mpr ⟨?_,
    List.all_eq_true.mpr h.decimal, Nat.ofDigitChars_eq_foldl.symm.trans h.index⟩⟩
  · rcases h.sign with rfl | rfl
    · exact .inl rfl
    · exact .inr rfl
  · exact mt String.toList_eq_nil_iff.mp h.digits_ne

/-- An identifier is read of exactly the texts that write it. -/
theorem parse_eq_ok_iff {s : String} {id : NodeId} : parse s = .ok id ↔ Writes s id := by
  rw [parse_eq_ok_iff_ofText?]
  constructor
  · intro h
    -- the sign is split off the characters before the first semicolon
    obtain ⟨cs, ending, hindex, hne, hsemicolon, hending, hs⟩ := exists_parts_of_ofText? h
    obtain ⟨digits, hcs, hdigits⟩ := indexOfText?_eq_some_iff.mp hindex
    obtain ⟨hdigits_ne, hall, hvalue⟩ := indexOfDigits?_eq_some_iff.mp hdigits
    obtain ⟨sign, hsign, rfl⟩ : ∃ sign : String,
        (sign = "" ∨ sign = "+") ∧ cs = sign.toList ++ digits := by
      rcases hcs with rfl | rfl
      · exact ⟨"", .inl rfl, rfl⟩
      · exact ⟨"+", .inr rfl, rfl⟩
    refine ⟨sign, .ofList digits, .ofList ending, ⟨String.toList_inj.mp ?_, hsign, ?_, ?_, ?_,
      mt String.toList_eq_nil_iff.mpr hne, hsemicolon, ?_⟩⟩
    · simp [hs]
    · simpa using hdigits_ne
    · simpa using hall
    · rw [String.toList_ofList]
      exact Nat.ofDigitChars_eq_foldl.trans hvalue
    · rcases hending with rfl | rfl
      · exact .inl rfl
      · exact .inr rfl
  · rintro ⟨sign, digits, ending, h⟩
    have hending : ending.toList = [] ∨ ending.toList = [';'] := by
      rcases h.ending with rfl | rfl
      · exact .inl rfl
      · exact .inr rfl
    have hne : id.identifier.toList ≠ [] := mt String.toList_eq_nil_iff.mp h.identifier_ne
    have hread := ofText?_parts h.indexOfText? hne h.identifier hending
    rw [String.ofList_toList] at hread
    rw [← hread]
    refine congrArg ofText? (String.toList_inj.mp ?_)
    rw [h.parts]
    simp

/-- What is not read is refused, and the refusal says what it was. -/
theorem parse_eq_error_iff {s : String} {e : Error} :
    parse s = .error e ↔ e = .invalidNodeId s ∧ ∀ id, ¬ Writes s id := by
  simp only [← parse_eq_ok_iff, parse_eq_ok_iff_ofText?]
  unfold parse
  cases ofText? s with
  | none => simp [eq_comm]
  | some id => simp

/-! ## What is written -/

/-- An identifier can be read back exactly if there is a text without a semicolon. -/
theorem parse_text_iff {id : NodeId} :
    parse id.text = .ok id ↔ id.identifier ≠ "" ∧ ';' ∉ id.identifier.toList := by
  constructor
  · intro h
    obtain ⟨sign, digits, ending, hwritten⟩ := parse_eq_ok_iff.mp h
    exact ⟨hwritten.identifier_ne, hwritten.identifier⟩
  · rintro ⟨hne, hsemicolon⟩
    exact parse_text (mt String.toList_eq_nil_iff.mp hne) hsemicolon

/-- What has been read has a written form that is read as the same. -/
theorem parse_text_of_parse {s : String} {id : NodeId} (h : parse s = .ok id) :
    parse id.text = .ok id := by
  obtain ⟨sign, digits, ending, hwritten⟩ := parse_eq_ok_iff.mp h
  exact parse_text_iff.mpr ⟨hwritten.identifier_ne, hwritten.identifier⟩

/-- Different identifiers are written differently: the first semicolon ends the index. -/
theorem text_injective : Function.Injective text := by
  have hsplit : ∀ id : NodeId, splitFirst ';' id.text.toList =
      some ("ns=".toList ++ Nat.toDigits 10 id.namespaceIndex.toNat,
        "s=".toList ++ id.identifier.toList ++ [';']) := by
    intro id
    have hsemicolon : ';' ∉ "ns=".toList ++ Nat.toDigits 10 id.namespaceIndex.toNat := by
      simpa using semicolon_not_mem_of_indexOfText? (indexOfText?_toDigits id.namespaceIndex)
    rw [← splitFirst_append hsemicolon, toList_text]
    simp
  intro a b h
  have hparts := hsplit a
  rw [h, hsplit b, Option.some.injEq, Prod.mk.injEq] at hparts
  obtain ⟨hdigits, hidentifier⟩ := hparts
  have hindex := congrArg NodeId.indexOfText? (List.append_cancel_left hdigits)
  rw [indexOfText?_toDigits, indexOfText?_toDigits, Option.some.injEq] at hindex
  have htext := List.append_cancel_left (List.append_cancel_right hidentifier)
  cases a
  cases b
  simp only [NodeId.mk.injEq]
  exact ⟨hindex.symm, (String.toList_inj.mp htext).symm⟩

/-- An identifier is read of exactly the texts that write it, and every other text is refused. Every
identifier with a text that is not empty and has no semicolon can be read back from its written
form, so also one that has been read; and no two identifiers have one written form. -/
theorem parse_exact :
    (∀ s id, parse s = .ok id ↔ Writes s id) ∧
      (∀ s e, parse s = .error e ↔ e = .invalidNodeId s ∧ ∀ id, ¬ Writes s id) ∧
      (∀ id, parse id.text = .ok id ↔ id.identifier ≠ "" ∧ ';' ∉ id.identifier.toList) ∧
      (∀ s id, parse s = .ok id → parse id.text = .ok id) ∧
      Function.Injective text :=
  ⟨fun _ _ => parse_eq_ok_iff, fun _ _ => parse_eq_error_iff, fun _ => parse_text_iff,
    fun _ _ => parse_text_of_parse, text_injective⟩

/-- A plus sign and zeros are read and not written; and what cannot be read back is still written in
a form of its own. -/
theorem parse_exact_plus :
    parse "ns=+007;s=Plant/On" = .ok ⟨7, "Plant/On"⟩ ∧
      parse (text ⟨7, "Plant/On"⟩) = .ok ⟨7, "Plant/On"⟩ ∧ text ⟨7, "On;"⟩ ≠ text ⟨7, "On"⟩ := by
  have hwrites : Writes "ns=+007;s=Plant/On" ⟨7, "Plant/On"⟩ :=
    ⟨"+", "007", "", rfl, .inr rfl, by decide, List.all_eq_true.mp (by decide), by decide,
      by decide, by decide, .inl rfl⟩
  obtain ⟨hread, -, -, hreread, hinjective⟩ := parse_exact
  have hparse := (hread _ _).mpr hwrites
  exact ⟨hparse, hreread _ _ hparse, fun h => absurd (hinjective h) (by decide)⟩

end ScalarServer.NodeId
