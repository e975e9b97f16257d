import ScalarServer.Proofs.Floating.Narrowing
import ScalarServer.Proofs.Scalar.Decoding
import ScalarServer.Proofs.Scalar.Reading

/-!
# When lenient decoding fails

Lenient decoding refuses what is no scalar at all, texts that are no number where a number is asked
for, and doubles that are beyond the greatest single where a single is asked for. It refuses nothing
else, and it always complains about the conversion.

- `Quantity.toValue_eq_error_iff`, `convert_eq_error`: the failures of conversion;
- `Unconvertible`: the refused JSON values, with the text that stands for them in the error;
- `coerceJson_of_unconvertible`, `exists_unconvertible`: these and no others are refused;
- `coerceJson_eq_error_iff`: both together, for all JSON values and types.
-/

namespace ScalarServer

open Text Floating Decimal

variable {target : ScalarType} {e : Error} {q : Quantity} {json : Json} {s : String}

/-! ## Failures of conversion -/

/-- The only quantities that are refused are doubles beyond the greatest single, as singles. -/
theorem Quantity.toValue_eq_error_iff : q.toValue target = .error e ↔
    ∃ x, q = .real x ∧ target = .float ∧ x.exact.BeyondSingle ∧
      e = .conversion (.ofList x.text) .float := by
  constructor
  · intro h
    cases target with
    | boolean | integer kind | string => cases h
    | double => cases q <;> cases h
    | float =>
      cases q with
      | integer n => cases h
      | real x =>
        simp only [toValue] at h
        split at h <;> cases h
        rename_i hnone
        exact ⟨x, rfl, rfl, narrow?_eq_none_iff.mp hnone, rfl⟩
  · rintro ⟨x, rfl, rfl, hbeyond, rfl⟩
    simp only [toValue, narrow?_eq_none_iff.mpr hbeyond, text]

namespace Value

variable {v : Value}

/-- A value that is no text is converted to another type like its quantity. -/
theorem convert_quantity (hq : Quantity.ofValue? v = some q) (htype : v.type ≠ target)
    (htarget : target ≠ .string) : v.convert target = q.toValue target := by
  unfold convert
  rw [if_neg htype]
  cases v with
  | string s => cases hq
  | boolean b | integer kind n fits | float x | double x =>
    cases hq
    cases target with
    | string => exact absurd rfl htarget
    | boolean | integer kind' | float | double => rfl

/-- Apart from texts, the only values that are refused are doubles beyond the greatest single. -/
theorem convert_eq_error (hq : Quantity.ofValue? v = some q) (h : v.convert target = .error e) :
    ∃ x, v = .double x ∧ target = .float ∧ x.exact.BeyondSingle ∧
      e = .conversion (.ofList x.text) .float := by
  have htype : v.type ≠ target := by
    rintro rfl
    rw [convert_self] at h
    cases h
  have htarget : target ≠ .string := by
    rintro rfl
    rw [convert, if_neg htype] at h
    cases h
  rw [convert_quantity hq htype htarget] at h
  obtain ⟨x, rfl, rfl, hx⟩ := Quantity.toValue_eq_error_iff.mp h
  -- a single has the type already, so that the double was there before
  cases v with
  | boolean b | integer kind n fits | string s => cases hq
  | float y => exact absurd rfl htype
  | double y =>
    cases hq
    exact ⟨x, rfl, rfl, hx⟩

/-! ## Refused JSON values -/

/-- A JSON value cannot be converted to a type. The error shows a text in its place. -/
inductive Unconvertible : Json → ScalarType → String → Prop where
  /-- `null` is no scalar, -/
  | null (target : ScalarType) : Unconvertible .null target (Json.render .null)
  /-- nor is an array, -/
  | array (items : List Json) (target : ScalarType) :
      Unconvertible (.array items) target (Json.array items).render
  /-- nor an object. -/
  | object (members : List (String × Json)) (target : ScalarType) :
      Unconvertible (.object members) target (Json.object members).render
  /-- A text is no number if it is neither an integer of 128 bits nor the literal of a double, apart
  from the blanks around it. -/
  | text {s : String} {target : ScalarType} (numeric : target.isNumeric = true)
      (noInteger : ¬ Quantity.IsInteger (trim s.toList))
      (noReal : ∀ x, ¬ IsLiteral .binary64 (trim s.toList) x) : Unconvertible (.string s) target s
  /-- A number beyond the greatest single is no single, -/
  | number {n : Json.Number} (beyond : n.toReal.exact.BeyondSingle) :
      Unconvertible (.number n) .float (.ofList n.toReal.text)
  /-- and neither is a text that is read as a double beyond it. -/
  | literal {s : String} {x : Binary64} (noInteger : ¬ Quantity.IsInteger (trim s.toList))
      (real : IsLiteral .binary64 (trim s.toList) x) (beyond : x.exact.BeyondSingle) :
      Unconvertible (.string s) .float (.ofList x.text)

/-- The integers that JSON has are far below the greatest single. -/
theorem not_beyondSingle_toReal {i : Int} (h : Json.Number.Fits i) :
    ¬ (Json.Number.integer i h).toReal.exact.BeyondSingle := by
  have hbound : i.natAbs ≤ 2 ^ 127 := by
    unfold Json.Number.Fits at h
    omega
  obtain ⟨j, hj⟩ :=
    exists_roundsTo Format.standard_binary64 (Nat.cast_nonneg i.natAbs : (0 : ℚ) ≤ _)
  obtain ⟨n, -, -, hnarrow⟩ := (narrow?_of_roundsTo hj (decide (i < 0))).1
    ((natAbs_le_greatestSingle hbound).trans greatestSingle_lt_singleLimit.le)
  rw [Json.Number.toReal, ← narrow?_eq_none_iff, ofInt_eq Format.standard_binary64 hj, hnarrow]
  exact Option.some_ne_none _

/-- A text is decoded leniently to a number by conversion. -/
theorem coerceJson_string (htarget : target.isNumeric = true) :
    coerceJson (.string s) target = (string s).convert target := by
  cases target with
  | integer kind | float | double => rfl
  | boolean | string => simp [ScalarType.isNumeric] at htarget

/-- A text that writes no number is converted to none. -/
theorem convert_string_of_none (h : Quantity.ofText? s = none) (htarget : target.isNumeric = true) :
    (string s).convert target = .error (.conversion s target) := by
  cases target with
  | integer kind | float | double => simp [convert, type, h]
  | boolean | string => simp [ScalarType.isNumeric] at htarget

/-- These JSON values are refused. -/
theorem coerceJson_of_unconvertible {shown : String} (h : Unconvertible json target shown) :
    coerceJson json target = .error (.conversion shown target) := by
  cases h with
  | null | array | object => cases target <;> rfl
  | text numeric noInteger noReal =>
    rw [coerceJson_string numeric]
    exact convert_string_of_none (Quantity.ofText?_eq_none_iff.mpr ⟨noInteger, noReal⟩) numeric
  | @number n beyond =>
    cases n with
    | integer i fits => exact absurd beyond (not_beyondSingle_toReal fits)
    | real x hx =>
      -- strict decoding fails, and so does the conversion of the natural value
      have hnone : narrow? x = none := narrow?_eq_none_iff.mpr beyond
      simp only [coerceJson, ofJson?, Json.Number.toReal, hnone, Option.map_none, natural?]
      exact Quantity.toValue_eq_error_iff.mpr ⟨x, rfl, rfl, beyond, rfl⟩
  | literal noInteger real beyond =>
    have hread := Quantity.ofText?_eq_some_iff.mpr (.real real noInteger)
    rw [coerceJson_string rfl, convert_string hread rfl]
    exact Quantity.toValue_eq_error_iff.mpr ⟨_, rfl, rfl, beyond, rfl⟩

/-- Lenient decoding fails if there is no natural value, or if this is not converted. -/
theorem natural?_of_coerceJson_eq_error (h : coerceJson json target = .error e) :
    natural? json = none ∧ e = .conversion json.render target ∨
      ∃ v, natural? json = some v ∧ v.convert target = .error e := by
  unfold coerceJson at h
  split at h
  · cases h
  · split at h
    · exact .inr ⟨_, ‹_›, h⟩
    · cases h
      exact .inl ⟨‹_›, rfl⟩

/-- What has no natural value cannot be converted. -/
theorem unconvertible_of_natural?_eq_none (h : natural? json = none) (target : ScalarType) :
    Unconvertible json target json.render := by
  cases json with
  | null => exact .null target
  | array items => exact .array items target
  | object members => exact .object members target
  | bool b | string s => cases h
  | number n =>
    -- every number has a natural value
    obtain ⟨w, hw, -⟩ := convert_natural_double n
    rw [h] at hw
    cases hw

/-- The natural value of an integer is an integer. -/
theorem type_of_natural?_integer {i : Int} {fits : Json.Number.Fits i}
    (h : natural? (.number (.integer i fits)) = some v) : ∃ kind, v.type = .integer kind := by
  obtain ⟨kind, holds, hinteger⟩ := exists_natural?_integer fits
  rw [hinteger] at h
  cases h
  exact ⟨kind, rfl⟩

/-- Only strings are natural texts. -/
theorem eq_of_natural?_string (h : natural? json = some (.string s)) : json = .string s := by
  cases json with
  | null | array items | object members | bool b => cases h
  | string t =>
    cases h
    rfl
  | number n =>
    cases n with
    | integer i fits =>
      obtain ⟨kind, htype⟩ := type_of_natural?_integer h
      cases htype
    | real x hx => cases h

/-- Only numbers that are no integers are natural doubles. -/
theorem exists_eq_of_natural?_double {x : Binary64} (h : natural? json = some (.double x)) :
    ∃ hx, json = .number (.real x hx) := by
  cases json with
  | null | array items | object members | bool b | string t => cases h
  | number n =>
    cases n with
    | integer i fits =>
      obtain ⟨kind, htype⟩ := type_of_natural?_integer h
      cases htype
    | real y hy =>
      cases h
      exact ⟨hy, rfl⟩

/-- The texts that are refused. -/
theorem unconvertible_of_convert_string (h : (string s).convert target = .error e) :
    ∃ shown, Unconvertible (.string s) target shown ∧ e = .conversion shown target := by
  -- truth values and texts can be made of every text
  have htarget : target.isNumeric = true := by
    cases target with
    | boolean | string => cases h
    | integer kind | float | double => rfl
  cases hread : Quantity.ofText? s with
  | none =>
    rw [convert_string_of_none hread htarget] at h
    cases h
    obtain ⟨noInteger, noReal⟩ := Quantity.ofText?_eq_none_iff.mp hread
    exact ⟨s, .text htarget noInteger noReal, rfl⟩
  | some q =>
    rw [convert_string hread htarget] at h
    obtain ⟨x, rfl, rfl, hbeyond, rfl⟩ := Quantity.toValue_eq_error_iff.mp h
    obtain ⟨real, noInteger⟩ := Quantity.written_real_iff.mp (Quantity.ofText?_eq_some_iff.mp hread)
    exact ⟨_, .literal noInteger real hbeyond, rfl⟩

/-- No other JSON values are refused. -/
theorem exists_unconvertible (h : coerceJson json target = .error e) :
    ∃ shown, Unconvertible json target shown ∧ e = .conversion shown target := by
  rcases natural?_of_coerceJson_eq_error h with ⟨hnatural, rfl⟩ | ⟨v, hnatural, hconvert⟩
  · exact ⟨_, unconvertible_of_natural?_eq_none hnatural target, rfl⟩
  cases hq : Quantity.ofValue? v with
  | none =>
    -- only texts are no quantities by themselves
    cases v with
    | boolean b | integer kind n fits | float x | double x => cases hq
    | string s =>
      rw [eq_of_natural?_string hnatural]
      exact unconvertible_of_convert_string hconvert
  | some q =>
    obtain ⟨x, rfl, rfl, hbeyond, rfl⟩ := convert_eq_error hq hconvert
    obtain ⟨hx, rfl⟩ := exists_eq_of_natural?_double hnatural
    exact ⟨_, .number hbeyond, rfl⟩

/-! ## All JSON values and types -/

/-- Lenient decoding fails exactly for the JSON values that cannot be converted, with an error that
names the type; and otherwise it gives a value of the type. -/
theorem coerceJson_eq_error_iff (json : Json) (target : ScalarType) :
    (∀ e, coerceJson json target = .error e ↔
        ∃ shown, Unconvertible json target shown ∧ e = .conversion shown target) ∧
      ∀ v, coerceJson json target = .ok v → v.type = target := by
  refine ⟨fun e => ⟨exists_unconvertible, ?_⟩, fun v h => ?_⟩
  · rintro ⟨shown, hshown, rfl⟩
    exact coerceJson_of_unconvertible hshown
  · have hconverts := converts_coerceJson json target
    rwa [h] at hconverts

/-- There are no hexadecimal integers, but blanks do no harm, and too large integers wrap. -/
theorem coerceJson_eq_error_iff_byte :
    coerceJson (.string "0x10") (.integer .byte) =
        .error (.conversion "0x10" (.integer .byte)) ∧
      ∃ v, coerceJson (.string " 257\n") (.integer .byte) = .ok v ∧ v.type = .integer .byte := by
  have hread : Quantity.ofText? "0x10" = none := by rfl
  have hwrapped : coerceJson (.string " 257\n") (.integer .byte) = .ok (wrapped .byte 257) := by rfl
  obtain ⟨noInteger, noReal⟩ := Quantity.ofText?_eq_none_iff.mp hread
  exact ⟨((coerceJson_eq_error_iff _ _).1 _).mpr ⟨_, .text rfl noInteger noReal, rfl⟩,
    _, hwrapped, (coerceJson_eq_error_iff _ _).2 _ hwrapped⟩

end Value

end ScalarServer
