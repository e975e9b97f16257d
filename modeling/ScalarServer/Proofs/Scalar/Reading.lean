import ScalarServer.Proofs.Decimal.Grammar
import ScalarServer.Proofs.Scalar.Literal

/-!
# What a text is read as

A text without the blanks around it is read as an integer if it is an integer literal of 128 bits,
and otherwise as a double if it is the literal of one. There are no other texts that are read as
numbers.

- `IsInteger`, `Written`: which quantity a text writes;
- `ofText?_eq_some_iff`, `ofText?_eq_none_iff`: reading finds this quantity, or there is none.
-/

namespace ScalarServer.Quantity

open Text Floating Decimal

variable {cs : List Char} {s : String} {q : Quantity}

/-! ## What a text writes -/

/-- An integer literal of 128 bits. -/
def IsInteger (cs : List Char) : Prop :=
  ∃ l : IntegerNumeral, l.text = cs ∧ -2 ^ 127 ≤ l.value ∧ l.value < 2 ^ 127

theorem isInteger_iff :
    IsInteger cs ↔ ∃ i, integerLiteral? cs = some i ∧ -2 ^ 127 ≤ i ∧ i < 2 ^ 127 := by
  simp only [IsInteger, integerLiteral?_eq_some_iff]
  constructor
  · rintro ⟨l, hl, hfits⟩
    exact ⟨l.value, ⟨l, hl, rfl⟩, hfits⟩
  · rintro ⟨_, ⟨l, hl, rfl⟩, hfits⟩
    exact ⟨l, hl, hfits⟩

/-- The quantity that a text without blanks around it writes. -/
inductive Written : List Char → Quantity → Prop where
  /-- An integer literal of 128 bits writes an integer. -/
  | integer (l : IntegerNumeral) (low : -2 ^ 127 ≤ l.value) (high : l.value < 2 ^ 127) :
      Written l.text (.integer l.value)
  /-- Every other literal of a double writes this double. -/
  | real {cs : List Char} {x : Binary64} (literal : IsLiteral .binary64 cs x)
      (noInteger : ¬ IsInteger cs) : Written cs (.real x)

theorem written_real_iff {x : Binary64} :
    Written cs (.real x) ↔ IsLiteral .binary64 cs x ∧ ¬ IsInteger cs := by
  constructor
  · rintro ⟨⟩
    exact ⟨‹_›, ‹_›⟩
  · exact fun ⟨literal, noInteger⟩ => .real literal noInteger

/-- A text that writes an integer writes nothing else. -/
theorem Written.eq_integer {l : IntegerNumeral} (h : Written cs q) (hcs : cs = l.text)
    (hfits : -2 ^ 127 ≤ l.value ∧ l.value < 2 ^ 127) : q = .integer l.value := by
  cases h with
  | integer l' =>
    -- two literals of the same text have the same value, as reading gives both
    have hread := l'.integerLiteral?_text
    rw [hcs, l.integerLiteral?_text] at hread
    rw [Option.some.inj hread]
  | real _ noInteger => exact absurd ⟨l, hcs.symm, hfits⟩ noInteger

/-- A text that writes no integer can only write a double. -/
theorem Written.exists_isLiteral (h : Written cs q) (hinteger : ¬ IsInteger cs) :
    ∃ x, IsLiteral .binary64 cs x ∧ .real x = q := by
  cases h with
  | integer l low high => exact absurd ⟨l, rfl, low, high⟩ hinteger
  | real literal => exact ⟨_, literal, rfl⟩

/-- A text that writes nothing is no literal of either kind. -/
theorem forall_not_written_iff :
    (∀ q, ¬ Written cs q) ↔ ¬ IsInteger cs ∧ ∀ x, ¬ IsLiteral .binary64 cs x := by
  constructor
  · intro h
    have hinteger : ¬ IsInteger cs := fun ⟨l, hl, hlow, hhigh⟩ =>
      h (.integer l.value) (hl ▸ .integer l hlow hhigh)
    exact ⟨hinteger, fun x hx => h _ (.real hx hinteger)⟩
  · rintro ⟨hinteger, hliteral⟩ q h
    obtain ⟨x, hx, -⟩ := h.exists_isLiteral hinteger
    exact hliteral x hx

/-! ## Reading -/

/-- Apart from integers of 128 bits, all literals are read as doubles. -/
theorem ofText?_of_not_isInteger (h : ¬ IsInteger (trim s.toList)) :
    ofText? s = (floatingLiteral? .binary64 (trim s.toList)).map .real := by
  simp only [ofText?, quantityLimit_eq]
  cases hi : integerLiteral? (trim s.toList) with
  | none => rfl
  | some i => exact if_neg fun hfits => h (isInteger_iff.mpr ⟨i, hi, hfits⟩)

/-- A text is read as what it writes. -/
theorem ofText?_eq_some_iff : ofText? s = some q ↔ Written (trim s.toList) q := by
  by_cases hinteger : IsInteger (trim s.toList)
  · obtain ⟨l, hl, hfits⟩ := hinteger
    rw [ofText?_of_fits (hl ▸ l.integerLiteral?_text) hfits]
    constructor
    · rintro ⟨⟩
      exact hl ▸ .integer l hfits.1 hfits.2
    · intro h
      rw [h.eq_integer hl.symm hfits]
  · simp only [ofText?_of_not_isInteger hinteger, Option.map_eq_some_iff,
      floatingLiteral?_eq_some_iff Format.standard_binary64]
    constructor
    · rintro ⟨x, hx, rfl⟩
      exact .real hx hinteger
    · exact fun h => h.exists_isLiteral hinteger

/-- A text that is not read as a number is no literal of either kind. -/
theorem ofText?_eq_none_iff : ofText? s = none ↔
    ¬ IsInteger (trim s.toList) ∧ ∀ x, ¬ IsLiteral .binary64 (trim s.toList) x := by
  rw [Option.eq_none_iff_forall_ne_some, ← forall_not_written_iff]
  exact forall_congr' fun q => not_congr ofText?_eq_some_iff

end ScalarServer.Quantity
