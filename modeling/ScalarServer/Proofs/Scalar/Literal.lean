import ScalarServer.Proofs.Decimal.Literal
import ScalarServer.Proofs.Floating.Range
import ScalarServer.Proofs.Floating.Truncation
import ScalarServer.Proofs.Scalar.Modular
import ScalarServer.Proofs.Text.Split

/-!
# Conversion of literals

A text that writes a number is converted like this number. An integer literal of 128 bits is an
integer, and every other literal is read as a double first: so longer integers come to the greatest
integer of 64 bits of their sign, and a single can be refused, or be infinite if the double is.

- `ofText?_of_fits`, `ofText?_of_not_fits`: what a literal is read as;
- `convert_integerLiteral`: integer literals become integers, and truth values and integers come
  back from their text;
- `convert_decimalLiteral`: decimal literals become singles.
-/

namespace ScalarServer

open Text Floating Decimal

variable {s : String}

/-! ## Blanks around a literal -/

/-- A text with blanks around it, or none. -/
def Padded (s : String) (core : List Char) : Prop :=
  ∃ before after, s.toList = before ++ core ++ after ∧ (∀ c ∈ before, isBlank c = true) ∧
    ∀ c ∈ after, isBlank c = true

theorem isBlank_of_isDigit {c : Char} (h : c.isDigit = true) : isBlank c = false := by
  simp only [Char.isDigit, Bool.and_eq_true, decide_eq_true_eq, ge_iff_le,
    UInt32.le_iff_toNat_le] at h
  change 48 ≤ c.toNat ∧ c.toNat ≤ 57 at h
  simp only [isBlank, Bool.or_eq_false_iff, Bool.and_eq_false_iff, decide_eq_false_iff_not,
    beq_eq_false_iff_ne]
  omega

theorem Decimal.Sign.isBlank_of_mem {sign : Sign} {c : Char} (h : c ∈ sign.text) :
    isBlank c = false := by
  cases sign with
  | absent => cases h
  | plus | minus =>
    rw [text, List.mem_singleton] at h
    subst h
    decide

theorem Decimal.IntegerNumeral.isBlank_of_mem (l : IntegerNumeral) {c : Char} (h : c ∈ l.text) :
    isBlank c = false := by
  rcases List.mem_append.mp h with hsign | hdigit
  · exact Sign.isBlank_of_mem hsign
  · exact isBlank_of_isDigit (l.isDigit c hdigit)

theorem trim_of_padded {l : IntegerNumeral} (h : Padded s l.text) : trim s.toList = l.text := by
  obtain ⟨before, after, hs, hbefore, hafter⟩ := h
  rw [hs]
  exact strip_append hbefore hafter (fun c hc => l.isBlank_of_mem (List.mem_of_mem_head? hc))
    fun c hc => l.isBlank_of_mem (List.mem_of_getLast? hc)

/-! ## What a literal is read as -/

namespace Quantity

theorem quantityLimit_eq : quantityLimit = 2 ^ 127 := by
  decide

/-- An integer literal of 128 bits is an integer. -/
theorem ofText?_of_fits {i : Int} (h : integerLiteral? (trim s.toList) = some i)
    (hfits : -2 ^ 127 ≤ i ∧ i < 2 ^ 127) : ofText? s = some (.integer i) := by
  simp only [ofText?, h, quantityLimit_eq, if_pos hfits]

/-- Every other literal is the double nearest to its value. -/
theorem ofText?_of_not_fits {l : Numeral} {n : Nat} (h : trim s.toList = l.text)
    (hfits : ∀ i, integerLiteral? l.text = some i → ¬ (-2 ^ 127 ≤ i ∧ i < 2 ^ 127))
    (hn : RoundsTo .binary64 |l.value| n) :
    ofText? s = some (.real (ofOrdinal .binary64 l.sign.negative n)) := by
  rw [l.abs_value] at hn
  -- both ways to the double, that of the other literals and that of the long integers
  simp only [ofText?, h, quantityLimit_eq,
    l.floatingLiteral?_text Format.standard_binary64 hn, Option.map_some]
  cases hi : integerLiteral? l.text with
  | none => rfl
  | some i => simp only [if_neg (hfits i hi)]

end Quantity

namespace Value

/-- A text is converted to a number like the quantity that it writes. -/
theorem convert_string {q : Quantity} {target : ScalarType} (h : Quantity.ofText? s = some q)
    (htarget : target.isNumeric = true) : (Value.string s).convert target = q.toValue target := by
  cases target with
  | integer kind => simp [convert, type, h]
  | float => simp [convert, type, h]
  | double => simp [convert, type, h]
  | boolean | string => simp [ScalarType.isNumeric] at htarget

/-! ## Integers -/

theorem convert_integer_of_fits {l : IntegerNumeral} (h : trim s.toList = l.text)
    (hfits : -2 ^ 127 ≤ l.value ∧ l.value < 2 ^ 127) (kind : IntegerType) :
    (Value.string s).convert (.integer kind) = .ok (wrapped kind l.value) :=
  convert_string (Quantity.ofText?_of_fits (h ▸ l.integerLiteral?_text) hfits) rfl

/-- An integer of more than 128 bits becomes a double that has the greatest integer part. -/
theorem convert_integer_of_not_fits {l : IntegerNumeral} (h : trim s.toList = l.text)
    (hfits : ¬ (-2 ^ 127 ≤ l.value ∧ l.value < 2 ^ 127)) (kind : IntegerType) :
    (Value.string s).convert (.integer kind) =
      .ok (wrapped kind (if l.sign.negative then -2 ^ 63 else 2 ^ 63 - 1)) := by
  obtain ⟨n, hn⟩ := exists_roundsTo Format.standard_binary64 (abs_nonneg l.toNumeral.value)
  have hliteral : ∀ i, integerLiteral? l.toNumeral.text = some i →
      ¬ (-2 ^ 127 ≤ i ∧ i < 2 ^ 127) := by
    intro i hi
    rw [l.text_toNumeral, l.integerLiteral?_text] at hi
    cases hi
    exact hfits
  rw [← l.text_toNumeral] at h
  have hlarge : (2 : ℚ) ^ 63 ≤ |l.toNumeral.value| := by
    rw [l.value_toNumeral, ← Int.cast_abs]
    have habs : (2 : ℤ) ^ 63 ≤ |l.value| := le_abs.mpr (by omega)
    exact_mod_cast habs
  have htruncate := truncate_of_roundsTo hn hlarge l.sign.negative
  rw [convert_string (Quantity.ofText?_of_not_fits h hliteral hn) rfl, ← htruncate]
  rfl

/-- The text of a truth value or an integer is converted to it. -/
theorem convertVia_string {v : Value} {n : Int} (h : Counts v n) :
    v.convertVia .string v.type = .ok v := by
  cases h with
  | boolean b => cases b <;> rfl
  | integer kind n fits =>
    -- the text is a literal without blanks, and 128 bits are enough for all integer types
    have hpadded : Padded (Value.integer kind n fits).text (IntegerNumeral.ofInt n).text :=
      ⟨[], [], by simp [Value.text, IntegerNumeral.text_ofInt], by simp, by simp⟩
    have hfits : -2 ^ 127 ≤ (IntegerNumeral.ofInt n).value ∧
        (IntegerNumeral.ofInt n).value < 2 ^ 127 := by
      have hjson := fits_json fits
      unfold Json.Number.Fits at hjson
      rw [IntegerNumeral.value_ofInt]
      omega
    calc (Value.integer kind n fits).convertVia .string (.integer kind)
        = (Value.string (Value.integer kind n fits).text).convert (.integer kind) :=
          convertVia_of_ok rfl
      _ = .ok (wrapped kind n) := by
        rw [convert_integer_of_fits (trim_of_padded hpadded) hfits, IntegerNumeral.value_ofInt]
      _ = .ok (.integer kind n fits) := by rw [wrapped_of_holds fits]

/-- A text that is an integer literal with blanks around it is converted to the one value of an
integer type that is congruent to its value; but if 128 bits are not enough for it, to the one that
is congruent to the greatest or least integer of 64 bits with a sign. Truth values and integers come
back from their text. -/
theorem convert_integerLiteral :
    (∀ (s : String) (l : IntegerNumeral), Padded s l.text → ∀ kind,
      (-2 ^ 127 ≤ l.value → l.value < 2 ^ 127 →
          GivesResidue ((Value.string s).convert (.integer kind)) kind l.value) ∧
        (2 ^ 127 ≤ l.value →
          GivesResidue ((Value.string s).convert (.integer kind)) kind (2 ^ 63 - 1)) ∧
        (l.value < -2 ^ 127 →
          GivesResidue ((Value.string s).convert (.integer kind)) kind (-2 ^ 63))) ∧
      ∀ v n, Counts v n → v.convertVia .string v.type = .ok v := by
  refine ⟨fun s l hs kind => ⟨fun hlow hhigh => ?_, fun hlarge => ?_, fun hsmall => ?_⟩,
    fun v n => convertVia_string⟩
  · exact givesResidue_iff.mpr (convert_integer_of_fits (trim_of_padded hs) ⟨hlow, hhigh⟩ kind)
  · have hconvert := convert_integer_of_not_fits (trim_of_padded hs) (by omega) kind
    rw [IntegerNumeral.negative_of_value_pos (by omega)] at hconvert
    exact givesResidue_iff.mpr hconvert
  · have hconvert := convert_integer_of_not_fits (trim_of_padded hs) (by omega) kind
    rw [IntegerNumeral.negative_of_value_neg (by omega)] at hconvert
    exact givesResidue_iff.mpr hconvert

/-- An integer of more than 128 bits saturates at 64 bits before it wraps; integers come back. -/
theorem convert_integerLiteral_long :
    Padded " 340282366920938463463374607431768211456\n" (IntegerNumeral.ofInt (2 ^ 128)).text ∧
      2 ^ 127 ≤ (IntegerNumeral.ofInt (2 ^ 128)).value ∧
      GivesResidue ((string " 340282366920938463463374607431768211456\n").convert
        (.integer .uint16)) .uint16 (2 ^ 63 - 1) ∧
      (integer .int16 (-5) (by decide)).convertVia .string (.integer .int16) =
        .ok (.integer .int16 (-5) (by decide)) := by
  obtain ⟨hliteral, hback⟩ := convert_integerLiteral
  have hpadded :
      Padded " 340282366920938463463374607431768211456\n" (IntegerNumeral.ofInt (2 ^ 128)).text :=
    ⟨[' '], ['\n'], by decide, by simp [isBlank], by simp [isBlank]⟩
  have hlarge : 2 ^ 127 ≤ (IntegerNumeral.ofInt (2 ^ 128)).value := by
    rw [IntegerNumeral.value_ofInt]
    decide
  exact ⟨hpadded, hlarge, (hliteral _ _ hpadded .uint16).2.1 hlarge, hback _ _ (.integer _ _ _)⟩

/-! ## Singles -/

/-- A finite single is nearest to the value of a literal, or to the double that is nearest to it. -/
structure IsSingleOf (y : Binary32) (l : Numeral) (n : Nat) : Prop where
  /-- It is finite, -/
  isFinite : y.isFinite = true
  /-- and has the sign of the literal and some magnitude, -/
  exact : y.exact = .finite
    (if l.sign.negative then -Format.binary32.magnitude n else Format.binary32.magnitude n)
  /-- which the literal is rounded to, at once or over double precision. -/
  nearest : RoundsTo .binary32 |l.value| n ∨
    ∃ j, RoundsTo .binary64 |l.value| j ∧ RoundsTo .binary32 (Format.binary64.magnitude j) n

/-- An integer that is not above the greatest single becomes a finite single at once. -/
theorem exists_isSingleOf_ofInt {l : Numeral} {i : Int} (h : integerLiteral? l.text = some i)
    (hle : (i.natAbs : ℚ) ≤ greatestSingle) : ∃ n, IsSingleOf (ofInt .binary32 i) l n := by
  obtain ⟨n, hn⟩ :=
    exists_roundsTo Format.standard_binary32 (Nat.cast_nonneg i.natAbs : (0 : ℚ) ≤ _)
  have hfinite := hn.lt_infinity hle
  rw [ofInt_eq Format.standard_binary32 hn]
  refine ⟨n, isFinite_ofOrdinal hfinite, ?_, .inl (l.abs_value_of_integerLiteral? h ▸ hn)⟩
  rw [exact_ofOrdinal_of_lt hfinite]
  -- it remains to compare the sign of the integer with that of the literal
  rcases eq_or_ne i 0 with rfl | hne
  · -- a minus sign before zero is lost, which the exact value does not tell
    rw [Int.natAbs_zero, Nat.cast_zero] at hn
    obtain rfl := hn.eq_zero
    simp [Format.magnitude_zero]
  · rw [l.negative_of_integerLiteral? h hne]

/-- A text that is a decimal literal is read as a double first, unless it is an integer of 128
bits. -/
theorem convert_decimalLiteral {l : Numeral} (h : trim s.toList = l.text) :
    coerceJson (.string s) .float = (string s).convert .float ∧
      (|l.value| ≤ singleLimit → ∃ y n, (string s).convert .float = .ok (.float y) ∧
        IsSingleOf y l n) ∧
      (singleLimit < |l.value| → |l.value| < doubleLimit →
        ∃ n, RoundsTo .binary64 |l.value| n ∧ (string s).convert .float =
          .error (.conversion (.ofList (ofOrdinal .binary64 l.sign.negative n).text) .float)) ∧
      (doubleLimit ≤ |l.value| → (string s).convert .float =
        .ok (.float (ofOrdinal .binary32 l.sign.negative Format.binary32.infinity))) := by
  -- a text is no single in strict decoding, so that the first part holds by computation
  refine ⟨rfl, ?_⟩
  by_cases hinteger : ∃ i, integerLiteral? l.text = some i ∧ -2 ^ 127 ≤ i ∧ i < 2 ^ 127
  · -- integers of 128 bits are far below both limits
    obtain ⟨i, hi, hfits⟩ := hinteger
    have hconvert : (string s).convert .float = .ok (.float (ofInt .binary32 i)) :=
      convert_string (Quantity.ofText?_of_fits (h ▸ hi) hfits) rfl
    have hle : (i.natAbs : ℚ) ≤ greatestSingle := natAbs_le_greatestSingle (by omega)
    obtain ⟨n, hn⟩ := exists_isSingleOf_ofInt hi hle
    have hsmall : |l.value| ≤ singleLimit :=
      (l.abs_value_of_integerLiteral? hi).le.trans (hle.trans greatestSingle_lt_singleLimit.le)
    exact ⟨fun _ => ⟨_, n, hconvert, hn⟩, fun hlow => absurd hsmall (not_le.mpr hlow),
      fun hhigh => absurd hsmall (not_le.mpr (singleLimit_lt_doubleLimit.trans_le hhigh))⟩
  · obtain ⟨j, hj⟩ := exists_roundsTo Format.standard_binary64 (abs_nonneg l.value)
    have hconvert : (string s).convert .float =
        (Quantity.real (ofOrdinal .binary64 l.sign.negative j)).toValue .float :=
      convert_string (Quantity.ofText?_of_not_fits h
        (fun i hi hfits => hinteger ⟨i, hi, hfits⟩) hj) rfl
    obtain ⟨hsmall, hmiddle, hlarge⟩ := narrow?_of_roundsTo hj l.sign.negative
    refine ⟨fun hx => ?_, fun hlow hhigh => ⟨j, hj, ?_⟩, fun hx => ?_⟩
    · obtain ⟨n, hn, hfinite, hnarrow⟩ := hsmall hx
      refine ⟨ofOrdinal .binary32 l.sign.negative n, n, ?_, isFinite_ofOrdinal hfinite,
        exact_ofOrdinal_of_lt hfinite, .inr ⟨j, hj, hn⟩⟩
      rw [hconvert, Quantity.toValue, hnarrow]
    · rw [hconvert, Quantity.toValue, hmiddle hlow hhigh, Quantity.text]
    · rw [hconvert, Quantity.toValue, hlarge hx]

/-- A literal so large that already its double is infinite. -/
theorem convert_decimalLiteral_infinite :
    ∃ l : Numeral, trim " 1e400".toList = l.text ∧ doubleLimit ≤ |l.value| ∧
      (string " 1e400").convert .float = .ok (.float infinity) ∧
      coerceJson (.string " 1e400") .float = .ok (.float infinity) := by
  obtain ⟨l, htext, hdecimal, hsign⟩ : ∃ l : Numeral, trim " 1e400".toList = l.text ∧
      l.decimal = ⟨1, 400⟩ ∧ l.sign.negative = false :=
    ⟨⟨.absent, ['1'], none, some ⟨false, .ofInt 400⟩, by simp, by simp, by simp⟩,
      by decide, by decide, rfl⟩
  have hlarge : doubleLimit ≤ |l.value| :=
    calc doubleLimit ≤ 2 ^ 1024 := sub_le_self _ (by positivity)
      _ ≤ 2 ^ (3 * 400) := pow_le_pow_right₀ one_le_two (by decide)
      _ = 8 ^ 400 := by rw [pow_mul]; norm_num
      _ ≤ 10 ^ 400 := pow_le_pow_left₀ (by norm_num) (by norm_num) _
      _ = |l.value| := by
        rw [l.abs_value, hdecimal, Decimal.value, Nat.cast_one, one_mul]
        exact (zpow_natCast 10 400).symm
  obtain ⟨hcoerce, -, -, hinfinite⟩ := convert_decimalLiteral htext
  have hconvert := hinfinite hlarge
  rw [hsign] at hconvert
  exact ⟨l, htext, hlarge, hconvert, hcoerce.trans hconvert⟩

end Value

end ScalarServer
