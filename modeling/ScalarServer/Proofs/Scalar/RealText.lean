import ScalarServer.Proofs.Decimal.FewestDigits
import ScalarServer.Proofs.Floating.Narrowing
import ScalarServer.Proofs.Scalar.Reading

/-!
# Doubles and their texts

A double is converted to the shortest decimal that reads back, written out in full, or to the word
for its infinity. Where there is no fraction the text is an integer literal, and if 128 bits are
enough for it, it is read as an integer, which loses the sign of zero. In all other cases it is read
as a double. On both ways the same double comes back.

- `ShortestText`, `shortestText_text`: the text of a number;
- `trim_text`: there are no blanks in it;
- `ofInt_text`: a text that is an integer literal, read as an integer and rounded;
- `convertVia_string_double`: doubles come back from their texts.
-/

namespace ScalarServer

open Text Floating Decimal

variable {fmt : Format} {x : Floating fmt}

/-! ## The text of a number -/

namespace Decimal

/-- The shortest text that is read as a number, without an exponent. -/
inductive ShortestText {fmt : Format} : Floating fmt → List Char → Prop where
  /-- A finite number is written as a decimal that is rounded to it. No other such decimal has fewer
  digits, and none that has as few of them is nearer. -/
  | finite {n : Nat} {d : Decimal} (negative : Bool) (finite : n < fmt.infinity)
      (reads : RoundsTo fmt d.value n)
      (fewest : ∀ other : Decimal, RoundsTo fmt other.value n →
        d.digits.length ≤ other.digits.length)
      (nearest : ∀ other : Decimal, RoundsTo fmt other.value n →
        other.digits.length ≤ d.digits.length →
        |d.value - fmt.magnitude n| ≤ |other.value - fmt.magnitude n|) :
      ShortestText (ofOrdinal fmt negative n) (positionalNumeral d negative).text
  /-- For the infinities there are words. -/
  | infinite (negative : Bool) :
      ShortestText (ofOrdinal fmt negative fmt.infinity)
        (if negative then "-inf".toList else "inf".toList)

theorem text_infinity (negative : Bool) : (ofOrdinal fmt negative fmt.infinity).text =
    if negative then "-inf".toList else "inf".toList := by
  rw [← number_eq_ofOrdinal le_rfl, text]
  cases negative <;> simp

/-- Every number but NaN is written so. -/
theorem shortestText_text (hfmt : fmt.Standard) (hx : x ≠ .nan) : ShortestText x x.text := by
  rcases eq_ofOrdinal_cases x with rfl | ⟨negative, rfl⟩ | ⟨negative, n, hn, rfl⟩
  · exact absurd rfl hx
  · rw [text_infinity]
    exact .infinite negative
  · rw [text_ofOrdinal hn]
    exact .finite negative hn (roundsTo_shortest hfmt .up n)
      (fun _ => length_digits_shortest_le hfmt .up) fun _ => dist_shortest_le hfmt .up

theorem Numeral.isBlank_of_mem (l : Numeral) {c : Char} (h : c ∈ l.text) : isBlank c = false := by
  simp only [text, unsignedText, List.mem_append] at h
  rcases h with hsign | hwhole | hpoint | hexponent
  · exact Sign.isBlank_of_mem hsign
  · exact isBlank_of_isDigit (l.whole_isDigit c hwhole)
  · have hfraction := l.fraction_isDigit
    unfold pointText at hpoint
    split at hpoint
    · cases hpoint
    · rename_i ds hds
      rw [hds] at hfraction
      rcases List.mem_cons.mp hpoint with rfl | hdigit
      · decide
      · exact isBlank_of_isDigit (hfraction c hdigit)
  · unfold exponentText at hexponent
    split at hexponent
    · cases hexponent
    · rename_i e _
      rcases List.mem_cons.mp hexponent with rfl | hpower
      · cases e.capital <;> decide
      · exact e.power.isBlank_of_mem hpower

/-- There are no blanks in the text of a number. -/
theorem trim_text (x : Floating fmt) : trim x.text = x.text := by
  rcases eq_ofOrdinal_cases x with rfl | ⟨negative, rfl⟩ | ⟨negative, n, hn, rfl⟩
  · rfl
  · rw [text_infinity]
    cases negative <;> rfl
  · rw [text_ofOrdinal hn]
    exact strip_eq_self (fun c hc => Numeral.isBlank_of_mem _ (List.mem_of_mem_head? hc))
      fun c hc => Numeral.isBlank_of_mem _ (List.mem_of_getLast? hc)

/-! ## Integers -/

/-- Where the text of a number is an integer literal, the integer is rounded to this number, but for
the sign of zero. -/
theorem ofInt_text (hfmt : fmt.Standard) {i : Int} (h : integerLiteral? x.text = some i) :
    ofInt fmt i = x ∨ x = zero.neg ∧ ofInt fmt i = zero := by
  rcases eq_ofOrdinal_cases x with rfl | ⟨negative, rfl⟩ | ⟨negative, n, hn, rfl⟩
  · cases h
  · -- the words are no integers
    rw [text_infinity] at h
    cases negative <;> cases h
  · rw [text_ofOrdinal hn] at h
    -- the decimal has the absolute value of the integer, and is rounded to the number
    have hround := roundsTo_shortest hfmt .up n
    rw [← value_positionalNumeral _ negative, ← Numeral.abs_value,
      Numeral.abs_value_of_integerLiteral? _ h] at hround
    rw [ofInt_eq hfmt hround]
    rcases eq_or_ne i 0 with rfl | hi
    · -- a minus sign before zero is not found again
      rw [Int.natAbs_zero, Nat.cast_zero] at hround
      obtain rfl := hround.eq_zero
      cases negative with
      | false => exact .inl rfl
      | true => exact .inr ⟨rfl, rfl⟩
    · rw [← Numeral.negative_of_integerLiteral? _ h hi, negative_positionalNumeral]
      exact .inl rfl

end Decimal

/-! ## There and back -/

theorem Floating.sameQuantity_self (hx : x ≠ .nan) : x.sameQuantity x = true := by
  cases x with
  | nan => exact absurd rfl hx
  | number negative n hn => simp [sameQuantity]

/-- The text of a double is read as a number that becomes this double again, but for the sign of
zero. -/
theorem Quantity.exists_toValue_double (x : Binary64) : ∃ q y,
    ofText? (.ofList x.text) = some q ∧ q.toValue .double = .ok (.double y) ∧
      (y = x ∨ x = zero.neg ∧ y = zero) := by
  have htrim : trim (String.ofList x.text).toList = x.text := by
    rw [String.toList_ofList, trim_text]
  by_cases hinteger : IsInteger x.text
  · -- the literal is not read as a double then, but the integer has the same value
    obtain ⟨i, hi, hfits⟩ := isInteger_iff.mp hinteger
    have hread : ofText? (.ofList x.text) = some (.integer i) :=
      ofText?_of_fits (by rw [htrim, hi]) hfits
    exact ⟨_, _, hread, rfl, ofInt_text Format.standard_binary64 hi⟩
  · refine ⟨.real x, x, ?_, rfl, .inl rfl⟩
    rw [ofText?_of_not_isInteger (by rwa [htrim]), htrim,
      floatingLiteral?_text Format.standard_binary64, Option.map_some]

namespace Value

/-- Every double but NaN is converted to the shortest text, which is read as what it writes: an
integer of 128 bits if it is the literal of one, and otherwise the nearest double. From there an
equal double comes back, the same one but for minus zero. -/
theorem convertVia_string_double {x : Binary64} (hx : x ≠ .nan) :
    ∃ s q y, (double x).convert .string = .ok (.string s) ∧ ShortestText x s.toList ∧
      Quantity.ofText? s = some q ∧ Quantity.Written s.toList q ∧
      (double x).convertVia .string .double = .ok (.double y) ∧
      (double y).agrees (.double x) = true ∧ (x ≠ zero.neg → y = x) := by
  obtain ⟨q, y, hread, hvalue, hy⟩ := Quantity.exists_toValue_double x
  have hwritten := Quantity.ofText?_eq_some_iff.mp hread
  rw [String.toList_ofList, trim_text] at hwritten
  have hback : (double x).convertVia .string .double = .ok (.double y) :=
    (convertVia_of_ok rfl).trans ((convert_string hread rfl).trans hvalue)
  have hsame : y.sameQuantity x = true := by
    rcases hy with rfl | ⟨rfl, rfl⟩
    · exact sameQuantity_self hx
    · rfl
  refine ⟨.ofList x.text, q, y, rfl, ?_, hread, ?_, hback, hsame, fun hzero => ?_⟩
  · rw [String.toList_ofList]
    exact shortestText_text Format.standard_binary64 hx
  · rwa [String.toList_ofList]
  · exact hy.resolve_right fun h => hzero h.1

/-- Minus zero comes back as a zero, and infinity as itself. -/
theorem convertVia_string_double_zero :
    (∃ y, (double zero.neg).convertVia .string .double = .ok (.double y) ∧
        (double y).agrees (.double zero.neg) = true) ∧
      (double infinity).convertVia .string .double = .ok (.double infinity) := by
  obtain ⟨-, -, y, -, -, -, -, hback, hagrees, -⟩ :=
    convertVia_string_double (x := zero.neg) (by decide)
  obtain ⟨-, -, z, -, -, -, -, hinfinite, -, hz⟩ :=
    convertVia_string_double (x := infinity) (by decide)
  obtain rfl := hz (by decide)
  exact ⟨⟨y, hback, hagrees⟩, hinfinite⟩

end Value

end ScalarServer
