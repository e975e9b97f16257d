import ScalarServer.Json.Literal
import ScalarServer.Proofs.Floating.Narrowing
import ScalarServer.Proofs.Scalar.Coding
import ScalarServer.Proofs.Scalar.Decoding
import ScalarServer.Proofs.Scalar.Lenient

/-!
# Strict coding is exact

A truth value, an integer or a text is decoded from the JSON value that it is encoded to, and from
no other one. So every JSON value is a value of such a type in one way or not at all, and a number
that is written with a point or an exponent is never an integer. Finite doubles come back from JSON,
and numbers that are not finite are the only ones that JSON does not have.

- `Accepts`, `accepts_iff`: the JSON values that are values of a type;
- `ofJson_eq_ok_iff_toJson`: decoding inverts encoding on both sides;
- `toJson_injective`: a JSON value is no two values of a type;
- `exists_real_of_value?`: what a literal with a point or an exponent is;
- `toJson_float_eq_null_iff`, `toJson_double_eq_null_iff`: what JSON does not have;
- `ofJson_exact`: all of this together.
-/

namespace ScalarServer

open Floating

/-! ## Numbers with a point or an exponent -/

namespace Json

variable {n : Number} {x : Binary64}

theorem exists_real_of_ofReal? (h : Number.ofReal? x = some n) : ∃ y hy, n = .real y hy := by
  unfold Number.ofReal? at h
  split at h
  · exact ⟨_, _, (Option.some.inj h).symm⟩
  · cases h

theorem exists_real_of_realOfParts {negative : Bool} {significand : Nat} {exponent : Int}
    (h : realOfParts negative significand exponent = some n) : ∃ y hy, n = .real y hy := by
  obtain ⟨ordinal, -, hreal⟩ := Option.bind_eq_some_iff.mp h
  exact exists_real_of_ofReal? hreal

/-- A literal with a point or an exponent is no integer, whatever its value. -/
theorem exists_real_of_value? {l : NumberLiteral} (h : l.value? = some n)
    (hparts : l.fraction ≠ none ∨ l.exponent ≠ none) : ∃ y hy, n = .real y hy := by
  simp only [NumberLiteral.value?] at h
  split at h
  · rename_i hfraction hexponent
    exact absurd hparts (by simp [hfraction, hexponent])
  · split at h
    · exact exists_real_of_realOfParts h
    · split at h
      · -- an exponent beyond all bounds gives zero, or no number at all
        split at h
        · cases h
        · exact exists_real_of_ofReal? h
      · exact exists_real_of_realOfParts h

end Json

namespace Value

variable {u v : Value} {json : Json} {target : ScalarType}

/-! ## Both ways between values and JSON -/

/-- The JSON values that are truth values, integers of a type, and texts. -/
inductive Accepts : ScalarType → Json → Prop where
  /-- `true` and `false`, -/
  | boolean (b : Bool) : Accepts .boolean (.bool b)
  /-- the integers in the range of the type, -/
  | integer {kind : IntegerType} {n : Int} (fits : Json.Number.Fits n) (holds : kind.Holds n) :
      Accepts (.integer kind) (.number (.integer n fits))
  /-- and the strings. -/
  | string (s : String) : Accepts .string (.string s)

/-- What is decoded is encoded to the same JSON value. -/
theorem toJson_of_ofJson? (hfloat : target ≠ .float) (hdouble : target ≠ .double)
    (h : ofJson? target json = some v) : v.toJson = json := by
  unfold ofJson? at h
  split at h
  · cases h
    rfl
  · unfold ofInt? at h
    split at h <;> cases h
    rfl
  -- the two types of floating-point numbers are left out, as these have several JSON forms
  · exact absurd rfl hfloat
  · exact absurd rfl hdouble
  · cases h
    rfl
  · cases h

/-- Decoding inverts encoding on both sides. -/
theorem ofJson_eq_ok_iff_toJson (hfloat : target ≠ .float) (hdouble : target ≠ .double) :
    ofJson json target = .ok v ↔ v.type = target ∧ v.toJson = json := by
  constructor
  · intro h
    exact ⟨type_of_ofJson h, toJson_of_ofJson? hfloat hdouble (ofJson_eq_ok_iff.mp h)⟩
  · rintro ⟨rfl, rfl⟩
    exact ofJson_toJson v hfloat fun x hx => absurd (congrArg type hx) hdouble

/-- No two values of a type are encoded to the same JSON value. -/
theorem toJson_injective (hfloat : u.type ≠ .float) (hdouble : u.type ≠ .double)
    (htype : v.type = u.type) (h : v.toJson = u.toJson) : v = u := by
  have hu := (ofJson_eq_ok_iff_toJson hfloat hdouble).mpr ⟨rfl, rfl⟩
  have hv := (ofJson_eq_ok_iff_toJson hfloat hdouble).mpr ⟨htype, h⟩
  exact Except.ok.inj (hv.symm.trans hu)

/-- The JSON values that are accepted are those of the values of the type. -/
theorem accepts_iff (hfloat : target ≠ .float) (hdouble : target ≠ .double) :
    Accepts target json ↔ ∃ v : Value, v.type = target ∧ v.toJson = json := by
  constructor
  · rintro (b | ⟨-, holds⟩ | s)
    · exact ⟨.boolean b, rfl, rfl⟩
    · exact ⟨.integer _ _ holds, rfl, rfl⟩
    · exact ⟨.string s, rfl, rfl⟩
  · rintro ⟨v, rfl, rfl⟩
    cases v with
    | boolean b => exact .boolean b
    | integer kind n holds => exact .integer _ holds
    | float x => exact absurd rfl hfloat
    | double x => exact absurd rfl hdouble
    | string s => exact .string s

/-! ## What JSON does not have -/

theorem realJson_eq_null_iff (x : Binary64) : realJson x = .null ↔ x.isFinite = false := by
  unfold realJson Json.Number.ofReal?
  by_cases h : x.isFinite = true <;> simp [h]

theorem toJson_double_eq_null_iff (x : Binary64) :
    toJson (.double x) = .null ↔ x.isFinite = false :=
  realJson_eq_null_iff x

/-- The decimal of a finite single is finite in double precision too. -/
theorem toJson_float_eq_null_iff (x : Binary32) :
    toJson (.float x) = .null ↔ x.isFinite = false := by
  rcases eq_ofOrdinal_cases x with rfl | ⟨negative, rfl⟩ | ⟨negative, n, hn, rfl⟩
  · exact iff_of_true rfl rfl
  · cases negative <;> exact iff_of_true rfl rfl
  · obtain ⟨j, -, hj, hjson⟩ := exists_toJson_float hn negative
    rw [hjson, realJson_eq_null_iff, isFinite_ofOrdinal hn, isFinite_ofOrdinal hj]

/-! ## Exactness -/

/-- A JSON value is decoded to a truth value, an integer of a type or a text exactly if that is
encoded to it. This is so for the truth values, the integers in the range of the type and the
strings, in one way each; and every other JSON value is refused. Numbers that are written with a
point or an exponent are among the refused ones. A finite double comes back from JSON, and a single
or a double is `null` there exactly if it is not finite. -/
theorem ofJson_exact :
    (∀ json target, target ≠ .float → target ≠ .double →
      (∀ v : Value, ofJson json target = .ok v ↔ v.type = target ∧ v.toJson = json) ∧
        (Accepts target json → ∃! v : Value, v.type = target ∧ v.toJson = json) ∧
        (¬ Accepts target json →
          ofJson json target = .error (.typeMismatch target json.render))) ∧
      (∀ (l : Json.NumberLiteral) (n : Json.Number), l.value? = some n →
        l.fraction ≠ none ∨ l.exponent ≠ none → ∀ kind, ¬ Accepts (.integer kind) (.number n)) ∧
      (∀ x : Binary64, x.isFinite = true →
        ofJson (toJson (.double x)) .double = .ok (.double x)) ∧
      (∀ x : Binary32, toJson (.float x) = .null ↔ x.isFinite = false) ∧
      ∀ x : Binary64, toJson (.double x) = .null ↔ x.isFinite = false := by
  refine ⟨fun json target hfloat hdouble => ⟨fun v => ofJson_eq_ok_iff_toJson hfloat hdouble,
    fun haccepts => ?_, fun hrefused => ?_⟩, fun l n hvalue hparts kind haccepts => ?_,
    fun x hx => ?_, toJson_float_eq_null_iff, toJson_double_eq_null_iff⟩
  · obtain ⟨v, rfl, rfl⟩ := (accepts_iff hfloat hdouble).mp haccepts
    exact ⟨v, ⟨rfl, rfl⟩, fun u hu => toJson_injective hfloat hdouble hu.1 hu.2⟩
  · cases hdecode : ofJson json target with
    | ok v =>
      have hjson := (ofJson_eq_ok_iff_toJson hfloat hdouble).mp hdecode
      exact absurd ((accepts_iff hfloat hdouble).mpr ⟨v, hjson⟩) hrefused
    | error e =>
      unfold ofJson at hdecode
      split at hdecode <;> cases hdecode
      rfl
  · obtain ⟨x, hx, rfl⟩ := Json.exists_real_of_value? hvalue hparts
    cases haccepts
  · refine ofJson_toJson (.double x) (by simp [type]) ?_
    rintro y ⟨⟩
    exact hx

/-- The greatest byte is accepted in one way, the integer behind it is not, and neither is the
greatest byte as `2.55e2`. Minus zero comes back. -/
theorem ofJson_exact_byte :
    (∃! v : Value, v.type = .integer .byte ∧ v.toJson = .number (.integer 255 (by decide))) ∧
      ofJson (.number (.integer 256 (by decide))) (.integer .byte) =
        .error (.typeMismatch (.integer .byte) "256") ∧
      (∃ n, Json.NumberLiteral.value? ⟨false, ['2'], some ['5', '5'], some (false, ['2'])⟩ =
        some n ∧ ¬ Accepts (.integer .byte) (.number n)) ∧
      ofJson (toJson (.double zero.neg)) .double = .ok (.double zero.neg) := by
  obtain ⟨hexact, hliteral, hdouble, -, -⟩ := ofJson_exact
  have hbyte := fun json => hexact json (.integer .byte) (by decide) (by decide)
  refine ⟨(hbyte _).2.1 (.integer _ (by decide)), (hbyte _).2.2 ?_, ?_, hdouble _ (by decide)⟩
  · rintro (_ | ⟨-, holds⟩ | _)
    exact absurd holds (by decide)
  · obtain ⟨n, hn⟩ := Option.isSome_iff_exists.mp (show (Json.NumberLiteral.value?
      ⟨false, ['2'], some ['5', '5'], some (false, ['2'])⟩).isSome = true by decide +kernel)
    exact ⟨n, hn, hliteral _ n hn (.inl (by simp)) .byte⟩

end Value

end ScalarServer
