import ScalarServer.Floating.Text
import ScalarServer.Proofs.Decimal.Numeral
import ScalarServer.Proofs.Decimal.Shortest

/-!
# Written decimals

A decimal is written positionally and read again, to any format.

- `IntegerNumeral.ofInt`: the text of an integer is a literal of this integer;
- `positionalParts_spec`: what the digits before and behind the point are;
- `positionalNumeral`: the positional form is a literal of the value of the decimal;
- `floatingLiteral?_text_ofOrdinal`: the text of a number, read in another format;
- `floatingLiteral?_text`: the text of a number is read as this number.
-/

namespace ScalarServer.Decimal

open Text Floating

variable {fmt target : Format} {d : Decimal} {n k : Nat}

/-! ## Runs of digits -/

theorem ofDigits_append (whole fraction : List Char) :
    ofDigits (whole ++ fraction) = 10 ^ fraction.length * ofDigits whole + ofDigits fraction :=
  (Nat.ofDigitChars_append 0).trans Nat.ofDigitChars_eq_ofDigitChars_zero

theorem ofDigits_replicate_zero (n : Nat) : ofDigits (List.replicate n '0') = 0 :=
  Nat.ofDigitChars_replicate_zero.trans (Nat.mul_zero _)

theorem ofDigits_digitsOf (n : Nat) : ofDigits (digitsOf n) = n :=
  Nat.ofDigitChars_ten_toDigits

theorem isDigit_of_mem_digitsOf (n : Nat) : ∀ c ∈ digitsOf n, c.isDigit = true :=
  fun _ => Nat.isDigit_of_mem_toDigits (by decide) (by decide)

theorem isDigit_of_mem_replicate (n : Nat) : ∀ c ∈ List.replicate n '0', c.isDigit = true :=
  fun _ hc => List.eq_of_mem_replicate hc ▸ rfl

namespace IntegerNumeral

/-- An integer as it is written out. -/
def ofInt (i : Int) : IntegerNumeral where
  sign := if i < 0 then .minus else .absent
  digits := digitsOf i.natAbs
  digits_ne_nil := Nat.toDigits_ne_nil
  isDigit := isDigit_of_mem_digitsOf _

theorem text_ofInt (i : Int) : (ofInt i).text = integerText i := by
  unfold integerText
  split <;> simp [ofInt, text, Sign.text, *]

theorem value_ofInt (i : Int) : (ofInt i).value = i := by
  simp only [value, ofInt, ofDigits_digitsOf]
  split
  · rw [if_pos (by decide)]
    omega
  · rw [if_neg (by decide)]
    omega

end IntegerNumeral

/-! ## The positional form -/

/-- What stands before and behind the point of a decimal. -/
structure Parts (d : Decimal) (whole fraction : List Char) : Prop where
  /-- There are digits before the point, -/
  whole_ne_nil : whole ≠ []
  /-- only digits, -/
  whole_digits : ∀ c ∈ whole, c.isDigit = true
  /-- and only digits behind it. -/
  fraction_digits : ∀ c ∈ fraction, c.isDigit = true
  /-- The digits behind the point count as negative powers of ten. -/
  value_eq : ((ofDigits (whole ++ fraction) : Nat) : ℚ) * 10 ^ (-(fraction.length : ℤ)) = d.value

theorem positionalParts_spec (d : Decimal) :
    Parts d d.positionalParts.1 d.positionalParts.2 := by
  have hdigits : ∀ c ∈ d.digits, c.isDigit = true := isDigit_of_mem_digitsOf d.coefficient
  have hvalue : ofDigits d.digits = d.coefficient := ofDigits_digitsOf d.coefficient
  have hlength : 0 < d.digits.length := length_digitsOf_pos d.coefficient
  have hne : d.digits ≠ [] := List.ne_nil_of_length_pos hlength
  simp only [positionalParts]
  by_cases hexponent : 0 ≤ d.exponent
  · -- zeros are written behind the digits
    rw [if_pos hexponent]
    refine ⟨by simp [hne], List.forall_mem_append.mpr ⟨hdigits, isDigit_of_mem_replicate _⟩,
      by simp, ?_⟩
    rw [List.append_nil, ofDigits_append, ofDigits_replicate_zero, hvalue, List.length_replicate,
      List.length_nil, value]
    obtain ⟨e, he⟩ := Int.eq_ofNat_of_zero_le hexponent
    simp [he, mul_comm]
  obtain ⟨places, hplaces⟩ := Int.eq_ofNat_of_zero_le (show 0 ≤ -d.exponent by omega)
  have hexponent' : d.exponent = -(places : ℤ) := by omega
  rw [if_neg hexponent, hplaces, Int.toNat_natCast]
  by_cases hlt : places < d.digits.length
  · -- the point stands between two digits
    rw [if_pos hlt]
    refine ⟨?_, fun c hc => hdigits c (List.mem_of_mem_take hc),
      fun c hc => hdigits c (List.mem_of_mem_drop hc), ?_⟩
    · rw [ne_eq, List.take_eq_nil_iff]
      simp only [hne, or_false]
      omega
    · rw [List.take_append_drop, hvalue, List.length_drop, value, hexponent']
      congr 3
      omega
  · -- zeros are written before the digits
    rw [if_neg hlt]
    refine ⟨by simp, by simp, List.forall_mem_append.mpr ⟨isDigit_of_mem_replicate _, hdigits⟩, ?_⟩
    have hzero : ofDigits ['0'] = 0 := rfl
    rw [← List.append_assoc, ofDigits_append, ofDigits_append, ofDigits_replicate_zero, hzero,
      hvalue, List.length_append, List.length_replicate, value, hexponent', Nat.mul_zero,
      Nat.zero_add, Nat.mul_zero, Nat.zero_add]
    congr 3
    omega

/-- The point is left out before an empty fraction. -/
theorem positional_eq (d : Decimal) : d.positional = d.positionalParts.1 ++
    if d.positionalParts.2 = [] then [] else '.' :: d.positionalParts.2 := by
  unfold positional
  split
  · rename_i heq
    simp [heq]
  · rename_i hne heq
    simp only [heq, if_neg hne]

/-- The positional form behind a minus sign or none, in its parts. -/
def positionalNumeral (d : Decimal) (negative : Bool) : Numeral where
  sign := if negative then .minus else .absent
  whole := d.positionalParts.1
  fraction := if d.positionalParts.2 = [] then none else some d.positionalParts.2
  exponent := none
  whole_isDigit := (positionalParts_spec d).whole_digits
  fraction_isDigit := by
    split
    · simp
    · exact (positionalParts_spec d).fraction_digits
  digits_ne_nil := List.append_ne_nil_of_left_ne_nil (positionalParts_spec d).whole_ne_nil _

theorem negative_positionalNumeral (d : Decimal) (negative : Bool) :
    (positionalNumeral d negative).sign.negative = negative := by
  cases negative <;> rfl

theorem text_positionalNumeral (d : Decimal) (negative : Bool) :
    (positionalNumeral d negative).text =
      if negative then '-' :: d.positional else d.positional := by
  have hunsigned : (positionalNumeral d negative).unsignedText = d.positional := by
    rw [positional_eq]
    by_cases hnil : d.positionalParts.2 = [] <;>
      simp [positionalNumeral, Numeral.unsignedText, Numeral.pointText, Numeral.exponentText, hnil]
  rw [Numeral.text, hunsigned]
  cases negative <;> rfl

/-- The positional form says what the decimal is. -/
theorem value_positionalNumeral (d : Decimal) (negative : Bool) :
    (positionalNumeral d negative).decimal.value = d.value := by
  have hfraction : (positionalNumeral d negative).fraction.getD [] = d.positionalParts.2 := by
    by_cases hnil : d.positionalParts.2 = [] <;> simp [positionalNumeral, hnil]
  rw [← (positionalParts_spec d).value_eq, Numeral.decimal, hfraction, value]
  simp [positionalNumeral, Numeral.power]

/-! ## Reading the text of a number -/

/-- The text of a finite number is the positional form of the shortest decimal. -/
theorem text_ofOrdinal (hn : n < fmt.infinity) (negative : Bool) :
    (ofOrdinal fmt negative n).text = (positionalNumeral (shortest fmt .up n) negative).text := by
  rw [← number_eq_ofOrdinal hn.le, text, text_positionalNumeral]
  simp only [if_neg hn.ne]

/-- The text of a finite number, read in some format. -/
theorem floatingLiteral?_text_ofOrdinal (htarget : target.Standard) (hn : n < fmt.infinity)
    (h : RoundsTo target (shortest fmt .up n).value k) (negative : Bool) :
    floatingLiteral? target (ofOrdinal fmt negative n).text =
      some (ofOrdinal target negative k) := by
  rw [← value_positionalNumeral _ negative] at h
  rw [text_ofOrdinal hn, Numeral.floatingLiteral?_text _ htarget h, negative_positionalNumeral]

/-- The text of a number is read as this number. -/
theorem floatingLiteral?_text (hfmt : fmt.Standard) (x : Floating fmt) :
    floatingLiteral? fmt x.text = some x := by
  cases x with
  | nan => rfl
  | number negative n hn =>
    rcases hn.lt_or_eq with hlt | rfl
    · rw [number_eq_ofOrdinal hn]
      exact floatingLiteral?_text_ofOrdinal hfmt hlt (roundsTo_shortest hfmt .up n) negative
    · simp only [text, if_true, number_eq_ofOrdinal hn]
      cases negative <;> rfl

end ScalarServer.Decimal
