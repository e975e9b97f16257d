import ScalarServer.Decimal.Literal
import ScalarServer.Proofs.Decimal.Value
import ScalarServer.Proofs.Floating.Conversion

/-!
# Literals and what they say

The grammar of number literals. An integer literal is a sign or none and digits; a decimal literal
may have a point before, among or behind its digits, and an exponent. `IntegerNumeral` and `Numeral`
hold the parts of a literal, `text` puts them together, and `value` is what they say: an exact
integer or rational, however many digits there are. Reading a literal of any format gives the
number nearest to its value.

- `IntegerNumeral.integerLiteral?_text`: an integer literal is read as its value;
- `Numeral.unsignedLiteral?_text`: the digits of a decimal literal, with their scale;
- `nearestOrdinal_eq`: a decimal is read as the magnitude that its value is rounded to;
- `Numeral.floatingLiteral?_text`: a decimal literal is read as the number nearest to its value;
- `Numeral.value_of_integerLiteral?`: a decimal literal is an integer literal only of its value.
-/

namespace ScalarServer.Decimal

open Text Floating

variable {fmt : Format} {whole : List Char} {n : Nat}

/-! ## Signs and first characters -/

/-- What stands before the digits of a literal. -/
inductive Sign where
  /-- Nothing. -/
  | absent
  /-- A plus sign. -/
  | plus
  /-- A minus sign. -/
  | minus
deriving DecidableEq, Repr

namespace Sign

/-- The sign as a text. -/
def text : Sign → List Char
  | .absent => []
  | .plus => ['+']
  | .minus => ['-']

/-- Whether it is a minus sign. -/
def negative : Sign → Bool
  | .absent | .plus => false
  | .minus => true

end Sign

/-- The characters that a literal can begin with behind its sign. -/
def startsNumber (c : Char) : Bool :=
  c.isDigit || c == '.'

theorem startsNumber_of_isDigit {c : Char} (h : c.isDigit = true) : startsNumber c = true := by
  simp [startsNumber, h]

/-- The sign of a literal is told from what follows, if that does not begin with a sign. -/
theorem takeSign_append (sign : Sign) {cs : List Char} (hplus : cs.head? ≠ some '+')
    (hminus : cs.head? ≠ some '-') : takeSign (sign.text ++ cs) = (sign.negative, cs) := by
  cases sign with
  | plus => rfl
  | minus => rfl
  | absent =>
    show takeSign cs = _
    unfold takeSign
    split
    · exact absurd rfl hminus
    · exact absurd rfl hplus
    · rfl

/-- A number does not begin with a sign. -/
theorem takeSign_text (sign : Sign) {cs : List Char}
    (hcs : ∀ c, cs.head? = some c → startsNumber c = true) :
    takeSign (sign.text ++ cs) = (sign.negative, cs) :=
  takeSign_append sign (fun h => absurd (hcs _ h) (by decide))
    fun h => absurd (hcs _ h) (by decide)

/-- A number is not taken for one of the words for infinity and NaN, as these begin with letters. -/
theorem lowercase_ne {cs : List Char} (hne : cs ≠ [])
    (hcs : ∀ c, cs.head? = some c → startsNumber c = true) {w : Char} {ws : List Char}
    (hw : startsNumber w = false) : lowercase cs ≠ w :: ws := by
  obtain ⟨first, rest, rfl⟩ := List.exists_cons_of_ne_nil hne
  have hfirst := hcs first rfl
  -- so the first character stays what it is
  have hupper : ¬ ('A' ≤ first ∧ first ≤ 'Z') := by
    rintro ⟨hlow, -⟩
    simp only [startsNumber, Char.isDigit, Bool.or_eq_true, Bool.and_eq_true, decide_eq_true_eq,
      beq_iff_eq] at hfirst
    rcases hfirst with ⟨-, hhigh⟩ | rfl
    · exact absurd (UInt32.le_trans hlow hhigh) (by decide)
    · exact absurd hlow (by decide)
  rw [lowercase, List.map_cons, lowerAscii, if_neg hupper]
  rintro ⟨⟩
  rw [hw] at hfirst
  cases hfirst

/-! ## Runs of digits -/

/-- A run of digits ends where something else begins. -/
theorem takeDigits_append (cs : List Char) (hwhole : ∀ c ∈ whole, c.isDigit = true)
    (hcs : ∀ c, cs.head? = some c → ¬ c.isDigit = true) :
    takeDigits (whole ++ cs) = (whole, cs) := by
  rw [takeDigits, List.takeWhile_append_of_pos hwhole, List.dropWhile_append_of_pos hwhole]
  cases cs with
  | nil => simp
  | cons c cs =>
    have hc := hcs c rfl
    rw [List.takeWhile_cons_of_neg hc, List.dropWhile_cons_of_neg hc, List.append_nil]

/-! ## Integer literals -/

/-- The parts of an integer literal. -/
structure IntegerNumeral where
  /-- A sign or none, -/
  sign : Sign
  /-- and digits behind it, -/
  digits : List Char
  /-- at least one, -/
  digits_ne_nil : digits ≠ []
  /-- and nothing else. -/
  isDigit : ∀ c ∈ digits, c.isDigit = true

namespace IntegerNumeral

/-- The literal. -/
def text (l : IntegerNumeral) : List Char :=
  l.sign.text ++ l.digits

/-- The integer that the literal says. -/
def value (l : IntegerNumeral) : Int :=
  if l.sign.negative then -ofDigits l.digits else ofDigits l.digits

theorem startsNumber_of_head (l : IntegerNumeral) :
    ∀ c, l.digits.head? = some c → startsNumber c = true := fun c hc =>
  startsNumber_of_isDigit (l.isDigit c (List.mem_of_mem_head? hc))

/-- An integer literal is read as its value. -/
theorem integerLiteral?_text (l : IntegerNumeral) : integerLiteral? l.text = some l.value := by
  have hall : l.digits.all Char.isDigit = true := List.all_eq_true.mpr l.isDigit
  simp only [integerLiteral?, text, takeSign_text _ l.startsNumber_of_head]
  simp [l.digits_ne_nil, hall, value]

/-- Only a minus sign makes an integer negative. -/
theorem negative_of_value_neg {l : IntegerNumeral} (h : l.value < 0) : l.sign.negative = true := by
  by_contra hsign
  rw [value, if_neg hsign] at h
  omega

theorem negative_of_value_pos {l : IntegerNumeral} (h : 0 < l.value) : l.sign.negative = false := by
  by_contra hsign
  rw [value, if_pos (by simpa using hsign)] at h
  omega

end IntegerNumeral

/-! ## Decimal literals -/

/-- The exponent of a decimal literal. -/
structure ExponentPart where
  /-- Whether the letter before it is a capital. -/
  capital : Bool
  /-- The power of ten. -/
  power : IntegerNumeral

namespace ExponentPart

/-- The exponent as it stands behind the digits. -/
def text (e : ExponentPart) : List Char :=
  (if e.capital then 'E' else 'e') :: e.power.text

end ExponentPart

/-- The parts of a decimal literal. -/
structure Numeral where
  /-- A sign or none, -/
  sign : Sign
  /-- the digits before the point, -/
  whole : List Char
  /-- the digits behind it, or nothing if there is no point, -/
  fraction : Option (List Char)
  /-- and an exponent or none. -/
  exponent : Option ExponentPart
  /-- Before the point there are only digits, -/
  whole_isDigit : ∀ c ∈ whole, c.isDigit = true
  /-- behind it as well, -/
  fraction_isDigit : ∀ c ∈ fraction.getD [], c.isDigit = true
  /-- and there is at least one of them. -/
  digits_ne_nil : whole ++ fraction.getD [] ≠ []

namespace Numeral

variable (l : Numeral)

/-- The point and what is behind it. -/
def pointText : List Char :=
  match l.fraction with
  | none => []
  | some digits => '.' :: digits

/-- The exponent, if there is one. -/
def exponentText : List Char :=
  match l.exponent with
  | none => []
  | some e => e.text

/-- The literal without its sign. -/
def unsignedText : List Char :=
  l.whole ++ (l.pointText ++ l.exponentText)

/-- The literal. -/
def text : List Char :=
  l.sign.text ++ l.unsignedText

/-- The power of ten that the exponent says. -/
def power : Int :=
  match l.exponent with
  | none => 0
  | some e => e.power.value

/-- The digits without the point, and the power of ten that scales them. -/
def decimal : Decimal :=
  ⟨ofDigits (l.whole ++ l.fraction.getD []), l.power - (l.fraction.getD []).length⟩

/-- The number that the literal says. -/
def value : ℚ :=
  if l.sign.negative then -l.decimal.value else l.decimal.value

theorem abs_value : |l.value| = l.decimal.value := by
  have hnonneg := l.decimal.value_nonneg
  unfold value
  split
  · rw [abs_neg, abs_of_nonneg hnonneg]
  · rw [abs_of_nonneg hnonneg]

/-- Except before zero, the sign of a literal is the sign of its value. -/
theorem negative_eq_of_value_ne_zero {l : Numeral} (h : l.value ≠ 0) :
    l.sign.negative = decide (l.value < 0) := by
  have hnonneg := l.decimal.value_nonneg
  unfold value at *
  -- the value without a sign is not negative, and with a minus sign it is not zero here
  cases hsign : l.sign.negative with
  | true =>
    rw [hsign, if_pos rfl, neg_ne_zero] at h
    simpa using hnonneg.lt_of_ne' h
  | false => simpa using hnonneg

/-! ### Reading the parts -/

/-- An exponent begins with a letter. -/
theorem head_exponentText {c : Char} (h : l.exponentText.head? = some c) : c = 'e' ∨ c = 'E' := by
  unfold exponentText at h
  split at h
  · cases h
  · rename_i e he
    cases h
    cases e.capital
    · exact .inl rfl
    · exact .inr rfl

theorem exponentPart?_exponentText : exponentPart? l.exponentText = some l.power := by
  unfold exponentText power
  split
  · rfl
  · rename_i e he
    have hletter : (if e.capital then 'E' else 'e') = 'e' ∨
        (if e.capital then 'E' else 'e') = 'E' := by
      cases e.capital <;> simp
    rw [ExponentPart.text, exponentPart?, if_pos hletter, IntegerNumeral.integerLiteral?_text]

/-- Behind the digits before the point no digit follows directly. -/
theorem head_pointText {c : Char} (h : (l.pointText ++ l.exponentText).head? = some c) :
    ¬ c.isDigit = true := by
  unfold pointText at h
  split at h
  · rcases l.head_exponentText h with rfl | rfl <;> decide
  · cases h
    decide

/-- The digits of a literal are read with their scale. -/
theorem unsignedLiteral?_text : unsignedLiteral? l.unsignedText = some l.decimal := by
  have hexponent : ∀ c, l.exponentText.head? = some c → ¬ c.isDigit = true := by
    intro c hc
    rcases l.head_exponentText hc with rfl | rfl <;> decide
  have hne := l.digits_ne_nil
  have hfraction := l.fraction_isDigit
  have hwhole := takeDigits_append _ l.whole_isDigit fun c => l.head_pointText
  cases h : l.fraction with
  | none =>
    rw [h, Option.getD_none, List.append_nil] at hne
    have hrest : l.pointText ++ l.exponentText = l.exponentText := by simp [pointText, h]
    -- an exponent is not taken for a point
    have hpoint : ∀ ds, l.exponentText ≠ '.' :: ds := by
      intro ds hds
      rcases l.head_exponentText (congrArg List.head? hds) with hc | hc <;>
        exact absurd hc (by decide)
    rw [hrest] at hwhole
    simp only [unsignedLiteral?, unsignedText, hrest, hwhole, List.append_nil, if_neg hne,
      exponentPart?_exponentText, Option.map_some, decimal, h, Option.getD_none]
  | some ds =>
    rw [h, Option.getD_some] at hne hfraction
    have hrest : l.pointText ++ l.exponentText = '.' :: (ds ++ l.exponentText) := by
      simp [pointText, h]
    rw [hrest] at hwhole
    simp only [unsignedLiteral?, unsignedText, hrest, hwhole,
      takeDigits_append _ hfraction hexponent, if_neg hne, exponentPart?_exponentText,
      Option.map_some, decimal, h, Option.getD_some]

/-- A literal without its sign begins with a digit or a point. -/
theorem startsNumber_of_head (c : Char) (h : l.unsignedText.head? = some c) :
    startsNumber c = true := by
  unfold unsignedText at h
  cases hwhole : l.whole with
  | cons first rest =>
    rw [hwhole] at h
    cases h
    exact startsNumber_of_isDigit (l.whole_isDigit _ (hwhole ▸ List.mem_cons_self))
  | nil =>
    -- then there is a point, as there are digits
    have hne := l.digits_ne_nil
    rw [hwhole] at h hne
    unfold pointText at h
    cases hfraction : l.fraction with
    | none => simp [hfraction] at hne
    | some ds =>
      rw [hfraction] at h
      cases h
      rfl

theorem unsignedText_ne_nil : l.unsignedText ≠ [] := by
  have hne := l.digits_ne_nil
  intro hnil
  -- no digits before the point and no point would mean no digits at all
  simp only [unsignedText, List.append_eq_nil_iff, pointText] at hnil
  obtain ⟨hwhole, hpoint, -⟩ := hnil
  cases hfraction : l.fraction with
  | none => simp [hwhole, hfraction] at hne
  | some ds => simp [hfraction] at hpoint

theorem takeSign_text : takeSign l.text = (l.sign.negative, l.unsignedText) :=
  Decimal.takeSign_text l.sign l.startsNumber_of_head

end Numeral

/-! ## Reading a number -/

/-- A decimal of too many digits is beyond the finite magnitudes. -/
theorem magnitude_infinity_le (hfmt : fmt.Standard) {e : ℤ} (he : (2 ^ fmt.exponentBits : ℕ) ≤ e) :
    fmt.magnitude fmt.infinity ≤ 10 ^ e := by
  have hbits : 2 ^ (fmt.exponentBits - 1) ≤ 2 ^ fmt.exponentBits :=
    Nat.pow_le_pow_right (by decide) (Nat.sub_le _ _)
  rw [Format.magnitude_infinity hfmt]
  calc (2 : ℚ) ^ 2 ^ (fmt.exponentBits - 1) ≤ 2 ^ 2 ^ fmt.exponentBits :=
        pow_le_pow_right₀ one_le_two hbits
    _ ≤ 10 ^ 2 ^ fmt.exponentBits := pow_le_pow_left₀ two_pos.le (by norm_num) _
    _ ≤ 10 ^ e := by
      rw [← zpow_natCast]
      exact zpow_le_zpow_right₀ (by norm_num) he

/-- A decimal with too many zeros behind the point is nearer to zero than to the least magnitude. -/
theorem lt_midpoint_zero (hfmt : fmt.Standard) {e : ℤ} (he : e < -(2 ^ fmt.exponentBits : ℕ)) :
    (10 : ℚ) ^ e < fmt.midpoint 0 := by
  have hprecision := hfmt.precision_le
  have hbits : 2 ^ (fmt.exponentBits - 1) ≤ 2 ^ fmt.exponentBits :=
    Nat.pow_le_pow_right (by decide) (Nat.sub_le _ _)
  have hexponent : fmt.exponent 0 = fmt.minExponent := by simp [Format.exponent]
  rw [Format.midpoint, Format.magnitude_zero, zero_add, Format.spacing, hexponent, div_eq_mul_inv,
    ← zpow_sub_one₀ two_ne_zero]
  -- eight is a power of two, and small enough for an exponent below zero
  calc (10 : ℚ) ^ e ≤ 8 ^ e := by
        obtain ⟨k, rfl⟩ : ∃ k : ℕ, e = -(k : ℤ) := ⟨e.natAbs, by omega⟩
        rw [zpow_neg, zpow_neg, zpow_natCast, zpow_natCast]
        exact inv_anti₀ (by positivity) (pow_le_pow_left₀ (by norm_num) (by norm_num) _)
    _ = 2 ^ (3 * e) := by
        rw [zpow_mul]
        norm_num
    _ < 2 ^ (fmt.minExponent - 1) := by
        refine zpow_lt_zpow_right₀ one_lt_two ?_
        simp only [Format.minExponent, twoPow_eq]
        omega

/-- A decimal is read as the magnitude that its value is rounded to, or as infinity. -/
theorem nearestOrdinal_eq (hfmt : fmt.Standard) {d : Decimal} (h : RoundsTo fmt d.value n) :
    nearestOrdinal fmt d = min fmt.infinity n := by
  simp only [nearestOrdinal]
  by_cases hzero : d.coefficient = 0
  · rw [if_pos hzero]
    rw [value, hzero, Nat.cast_zero, zero_mul] at h
    rw [h.eq_zero, Nat.min_zero]
  · rw [if_neg hzero]
    -- the number of digits decides about what is far too large or far too small
    have hlow := pow_scientificExponent_le hzero
    have hhigh := d.value_lt_pow
    generalize hsize : ((digitsOf d.coefficient).length : ℤ) + d.exponent = size
    have hfirst : d.scientificExponent + 1 = size := by
      rw [← hsize, scientificExponent, digits]
      ring
    rw [hfirst] at hhigh
    by_cases hlarge : (twoPow fmt.exponentBits : ℤ) < size
    · rw [if_pos hlarge]
      rw [twoPow_eq] at hlarge
      have hpast := (magnitude_infinity_le hfmt (by omega)).trans hlow
      rw [Nat.min_eq_left (h.le_of_magnitude_le hpast)]
    rw [if_neg hlarge]
    by_cases hsmall : size < -(twoPow fmt.exponentBits : ℤ)
    · rw [if_pos hsmall]
      have hround : RoundsTo fmt d.value 0 :=
        .of_lt_of_lt (fun m hm => absurd hm m.succ_ne_zero)
          (hhigh.trans (lt_midpoint_zero hfmt hsmall))
      rw [h.unique hround, Nat.min_zero]
    · rw [if_neg hsmall]
      exact nearest_eq hfmt (ratio_snd_pos d).ne' (by rwa [← ratio_div] at h)

namespace Numeral

variable (l : Numeral)

/-- A decimal literal is read as the number nearest to its value. -/
theorem floatingLiteral?_text (hfmt : fmt.Standard) (h : RoundsTo fmt l.decimal.value n) :
    floatingLiteral? fmt l.text = some (ofOrdinal fmt l.sign.negative n) := by
  have hword : ∀ w ws, startsNumber w = false → lowercase l.unsignedText ≠ w :: ws :=
    fun w ws => lowercase_ne l.unsignedText_ne_nil l.startsNumber_of_head
  have hnan : lowercase l.unsignedText ≠ "nan".toList := hword _ _ (by decide)
  have hinf : lowercase l.unsignedText ≠ "inf".toList := hword _ _ (by decide)
  have hinfinity : lowercase l.unsignedText ≠ "infinity".toList := hword _ _ (by decide)
  simp only [floatingLiteral?, l.takeSign_text, if_neg hnan, hinf, hinfinity, or_false, if_false,
    l.unsignedLiteral?_text, Option.map_some]
  rw [nearestOrdinal_eq hfmt h, ofOrdinal_min]

/-- A decimal literal that is an integer literal as well says the same. -/
theorem value_of_integerLiteral? {i : Int} (h : integerLiteral? l.text = some i) :
    (i : ℚ) = l.value := by
  simp only [integerLiteral?, l.takeSign_text] at h
  split at h
  · cases h
  · rename_i hdigits
    cases h
    simp only [not_or, Bool.not_eq_true', Bool.not_eq_false, List.all_eq_true, unsignedText,
      List.mem_append] at hdigits
    -- a point or a letter would not be a digit
    have hfraction : l.fraction = none := by
      cases hfraction : l.fraction with
      | none => rfl
      | some ds =>
        have hpoint := hdigits.2 '.' (.inr (.inl (by simp [pointText, hfraction])))
        exact absurd hpoint (by decide)
    have hexponent : l.exponent = none := by
      cases hexponent : l.exponent with
      | none => rfl
      | some e =>
        obtain ⟨c, hc⟩ : ∃ c, l.exponentText.head? = some c := by
          simp [exponentText, hexponent, ExponentPart.text]
        have hletter := hdigits.2 c (.inr (.inr (List.mem_of_mem_head? hc)))
        rcases l.head_exponentText hc with rfl | rfl <;> exact absurd hletter (by decide)
    simp [value, decimal, Decimal.value, power, unsignedText, pointText, exponentText, hfraction,
      hexponent]

theorem abs_value_of_integerLiteral? {i : Int} (h : integerLiteral? l.text = some i) :
    |l.value| = i.natAbs := by
  rw [← l.value_of_integerLiteral? h, Nat.cast_natAbs, Int.cast_abs]

/-- Except before zero, an integer has the sign of its literal. -/
theorem negative_of_integerLiteral? {i : Int} (h : integerLiteral? l.text = some i) (hi : i ≠ 0) :
    l.sign.negative = decide (i < 0) := by
  have hvalue := l.value_of_integerLiteral? h
  rw [negative_eq_of_value_ne_zero (hvalue ▸ Int.cast_ne_zero.mpr hi), ← hvalue]
  exact decide_eq_decide.mpr Int.cast_lt_zero

end Numeral

/-- An integer literal is a decimal literal. -/
def IntegerNumeral.toNumeral (l : IntegerNumeral) : Numeral where
  sign := l.sign
  whole := l.digits
  fraction := none
  exponent := none
  whole_isDigit := l.isDigit
  fraction_isDigit := by simp
  digits_ne_nil := by simpa using l.digits_ne_nil

theorem IntegerNumeral.text_toNumeral (l : IntegerNumeral) : l.toNumeral.text = l.text := by
  simp [toNumeral, Numeral.text, Numeral.unsignedText, Numeral.pointText, Numeral.exponentText,
    text]

theorem IntegerNumeral.value_toNumeral (l : IntegerNumeral) : l.toNumeral.value = l.value := by
  have h := l.integerLiteral?_text
  rw [← l.text_toNumeral] at h
  exact (l.toNumeral.value_of_integerLiteral? h).symm

end ScalarServer.Decimal
