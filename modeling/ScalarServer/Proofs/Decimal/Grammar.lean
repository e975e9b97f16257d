import Mathlib.Data.List.TakeWhile
import ScalarServer.Proofs.Decimal.Numeral

/-!
# Which texts are literals

Reading a text succeeds for the literals of the grammar and for nothing else, and gives what the
literal says. For an integer that is its value; for a floating-point number it is the number nearest
to the value, or what one of the words for infinity and NaN stands for.

- `integerLiteral?_eq_some_iff`: the texts of integers;
- `exists_numeral_of_unsignedLiteral?`: the parts of a decimal literal without a sign;
- `IsLiteral`, `floatingLiteral?_eq_some_iff`: the texts of floating-point numbers.
-/

namespace ScalarServer.Decimal

open Text Floating

variable {fmt : Format} {cs : List Char} {i : Int} {e : Int} {d : Decimal} {x : Floating fmt}

/-! ## Parts of a text -/

/-- Every text is a sign or none and what follows it. -/
theorem exists_sign (cs : List Char) :
    ∃ sign : Sign, cs = sign.text ++ (takeSign cs).2 ∧ (takeSign cs).1 = sign.negative := by
  unfold takeSign
  split
  · exact ⟨.minus, rfl, rfl⟩
  · exact ⟨.plus, rfl, rfl⟩
  · exact ⟨.absent, rfl, rfl⟩

/-- A run of digits and the rest make up the text. -/
theorem takeDigits_spec (cs : List Char) :
    cs = (takeDigits cs).1 ++ (takeDigits cs).2 ∧ ∀ c ∈ (takeDigits cs).1, c.isDigit = true :=
  ⟨List.takeWhile_append_dropWhile.symm, fun _ hc => List.mem_takeWhile_imp hc⟩

/-! ## Integers -/

/-- The texts that are read as integers are the integer literals. -/
theorem integerLiteral?_eq_some_iff :
    integerLiteral? cs = some i ↔ ∃ l : IntegerNumeral, l.text = cs ∧ l.value = i := by
  constructor
  · intro h
    obtain ⟨sign, hcs, hsign⟩ := exists_sign cs
    simp only [integerLiteral?] at h
    split at h
    · cases h
    · rename_i hdigits
      simp only [not_or, Bool.not_eq_true', Bool.not_eq_false, List.all_eq_true] at hdigits
      refine ⟨⟨sign, (takeSign cs).2, hdigits.1, hdigits.2⟩, hcs.symm, ?_⟩
      rw [IntegerNumeral.value, ← hsign]
      exact Option.some.inj h
  · rintro ⟨l, rfl, rfl⟩
    exact l.integerLiteral?_text

/-! ## Decimals -/

/-- What stands behind the digits of a decimal is nothing or an exponent. -/
theorem exists_exponent_of_exponentPart? (h : exponentPart? cs = some e) :
    cs = [] ∧ e = 0 ∨ ∃ part : ExponentPart, part.text = cs ∧ part.power.value = e := by
  unfold exponentPart? at h
  split at h
  · exact .inl ⟨rfl, (Option.some.inj h).symm⟩
  · split at h
    · rename_i hletter
      obtain ⟨power, rfl, rfl⟩ := integerLiteral?_eq_some_iff.mp h
      rcases hletter with rfl | rfl
      · exact .inr ⟨⟨false, power⟩, rfl, rfl⟩
      · exact .inr ⟨⟨true, power⟩, rfl, rfl⟩
    · cases h

/-- Digits, and what is read as an exponent behind them, are the parts of a decimal literal. -/
theorem exists_numeral_of_parts (sign : Sign) {whole : List Char} (fraction : Option (List Char))
    (hwhole : ∀ c ∈ whole, c.isDigit = true) (hfraction : ∀ c ∈ fraction.getD [], c.isDigit = true)
    (hne : whole ++ fraction.getD [] ≠ []) (hexponent : exponentPart? cs = some e) :
    ∃ l : Numeral, l.sign = sign ∧ l.whole = whole ∧ l.fraction = fraction ∧
      l.exponentText = cs ∧ l.power = e := by
  rcases exists_exponent_of_exponentPart? hexponent with ⟨rfl, rfl⟩ | ⟨part, rfl, rfl⟩
  · exact ⟨⟨sign, whole, fraction, none, hwhole, hfraction, hne⟩, rfl, rfl, rfl, rfl, rfl⟩
  · exact ⟨⟨sign, whole, fraction, some part, hwhole, hfraction, hne⟩, rfl, rfl, rfl, rfl, rfl⟩

/-- A text that is read as a decimal is a decimal literal, in front of which any sign can stand. -/
theorem exists_numeral_of_unsignedLiteral? (sign : Sign) (h : unsignedLiteral? cs = some d) :
    ∃ l : Numeral, l.sign = sign ∧ l.unsignedText = cs ∧ l.decimal = d := by
  obtain ⟨hcs, hwhole⟩ := takeDigits_spec cs
  rcases hparts : takeDigits cs with ⟨whole, after⟩
  rw [hparts] at hcs hwhole
  simp only [unsignedLiteral?, hparts] at h
  -- with a point there are digits behind it, or at least there is a place for them
  split at h
  · rename_i ds
    obtain ⟨hds, hfraction⟩ := takeDigits_spec ds
    split at h
    · cases h
    · rename_i hne
      obtain ⟨e, hexponent, rfl⟩ := Option.map_eq_some_iff.mp h
      obtain ⟨l, hsign, hl, hpoint, htext, hpower⟩ := exists_numeral_of_parts sign
        (some (takeDigits ds).1) hwhole hfraction hne hexponent
      refine ⟨l, hsign, ?_, ?_⟩
      · rw [hcs, hds]
        simp only [Numeral.unsignedText, Numeral.pointText, hl, hpoint, htext, List.cons_append]
      · simp only [Numeral.decimal, hl, hpoint, hpower, Option.getD_some]
  · split at h
    · cases h
    · rename_i hne
      obtain ⟨e, hexponent, rfl⟩ := Option.map_eq_some_iff.mp h
      obtain ⟨l, hsign, hl, hpoint, htext, hpower⟩ := exists_numeral_of_parts sign none
        hwhole (by simp) hne hexponent
      refine ⟨l, hsign, ?_, ?_⟩
      · simp only [Numeral.unsignedText, Numeral.pointText, hl, hpoint, htext, hcs, List.nil_append]
      · simp only [Numeral.decimal, hl, hpoint, hpower, Option.getD_none, List.length_nil]

/-! ## Floating-point numbers -/

/-- A text is a literal of a floating-point number. -/
inductive IsLiteral (fmt : Format) : List Char → Floating fmt → Prop where
  /-- A decimal literal is one of the number nearest to its value, with its sign. -/
  | numeral (l : Numeral) {n : Nat} (nearest : RoundsTo fmt |l.value| n) :
      IsLiteral fmt l.text (ofOrdinal fmt l.sign.negative n)
  /-- There are two words for infinity, in any case, -/
  | infinity (sign : Sign) {word : List Char}
      (spelling : lowercase word = "inf".toList ∨ lowercase word = "infinity".toList) :
      IsLiteral fmt (sign.text ++ word) (ofOrdinal fmt sign.negative fmt.infinity)
  /-- and one for NaN, whose sign is lost. -/
  | nan (sign : Sign) {word : List Char} (spelling : lowercase word = "nan".toList) :
      IsLiteral fmt (sign.text ++ word) .nan

/-- A word does not begin with a sign, in any case. -/
theorem takeSign_word (sign : Sign) {word letters : List Char} {letter : Char}
    (h : lowercase word = letter :: letters) (hplus : letter ≠ '+') (hminus : letter ≠ '-') :
    takeSign (sign.text ++ word) = (sign.negative, word) := by
  have hhead : word.head?.map lowerAscii = some letter := by
    rw [← List.head?_map]
    exact congrArg List.head? h
  -- signs have no case
  refine takeSign_append sign (fun hsign => hplus ?_) fun hsign => hminus ?_ <;>
  · rw [hsign] at hhead
    exact (Option.some.inj hhead).symm

/-- The texts that are read as floating-point numbers are their literals. -/
theorem floatingLiteral?_eq_some_iff (hfmt : fmt.Standard) :
    floatingLiteral? fmt cs = some x ↔ IsLiteral fmt cs x := by
  constructor
  · intro h
    obtain ⟨sign, hcs, hsign⟩ := exists_sign cs
    simp only [floatingLiteral?, hsign] at h
    rw [hcs]
    split at h
    · rename_i hword
      cases h
      exact .nan sign hword
    · split at h
      · rename_i hword
        cases h
        exact .infinity sign hword
      · obtain ⟨d, hd, rfl⟩ := Option.map_eq_some_iff.mp h
        obtain ⟨l, rfl, htext, rfl⟩ := exists_numeral_of_unsignedLiteral? sign hd
        obtain ⟨n, hn⟩ := exists_roundsTo hfmt l.decimal.value_nonneg
        rw [nearestOrdinal_eq hfmt hn, ofOrdinal_min, ← htext]
        exact .numeral l (l.abs_value ▸ hn)
  · rintro (⟨l, hn⟩ | ⟨sign, hword⟩ | ⟨sign, hword⟩)
    · exact l.floatingLiteral?_text hfmt (l.abs_value ▸ hn)
    · rcases hword with hword | hword
      · simp only [floatingLiteral?, takeSign_word sign hword (by decide) (by decide), hword]
        rfl
      · simp only [floatingLiteral?, takeSign_word sign hword (by decide) (by decide), hword]
        rfl
    · simp only [floatingLiteral?, takeSign_word sign hword (by decide) (by decide), hword]
      rfl

end ScalarServer.Decimal
