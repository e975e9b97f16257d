import Mathlib.Data.Int.ModEq
import ScalarServer.Proofs.Scalar.Lenient

/-!
# Conversion of integers

An integer type of `w` bits has exactly one value in each residue class modulo `2 ^ w`, and
conversion of an integer or a truth value gives this value, whatever the source type and the signs
of the two types. Hence conversions can be chained.

- `IntegerType.wrap_modEq`, `IntegerType.eq_of_modEq`: wrapping stays in the residue class, which
  has one value of the type;
- `GivesResidue`, `givesResidue_iff`: what a conversion to an integer type comes to;
- `ConvertsAs`: a value that is treated as an integer, which alone matters then;
- `Counts`: the integer that a value is, with truth values as 0 and 1;
- `convertVia_integer`: a detour over a type that is at least as wide is not noticed;
- `convert_modular`: all of this for every value that is an integer or a truth value.
-/

namespace ScalarServer

variable {kind wide narrow : IntegerType} {m n : Int}

namespace IntegerType

/-! ## Residues -/

/-- The number of bits of the type. -/
def width : IntegerType → Nat
  | .sbyte | .byte => 8
  | .int16 | .uint16 => 16
  | .int32 | .uint32 => 32
  | .int64 | .uint64 => 64

theorem size_eq (kind : IntegerType) : kind.size = 2 ^ kind.width := by
  cases kind <;> rfl

/-- Wrapping stays in the residue class. -/
theorem wrap_modEq (kind : IntegerType) (n : Int) : kind.wrap n ≡ n [ZMOD 2 ^ kind.width] := by
  rw [wrap, size_eq]
  calc (n - kind.least) % 2 ^ kind.width + kind.least
      ≡ n - kind.least + kind.least [ZMOD 2 ^ kind.width] := (Int.mod_modEq _ _).add_right _
    _ = n := Int.sub_add_cancel n kind.least

theorem wrap_eq_of_modEq (h : m ≡ n [ZMOD 2 ^ kind.width]) : kind.wrap m = kind.wrap n := by
  rw [← size_eq] at h
  exact congrArg (· + kind.least) (h.sub_right kind.least)

/-- A residue class has at most one value of the type. -/
theorem eq_of_modEq (hm : kind.Holds m) (hn : kind.Holds n) (h : m ≡ n [ZMOD 2 ^ kind.width]) :
    m = n := by
  -- wrapping sees the residue only, and leaves the values of the type as they are
  have hwrap := wrap_eq_of_modEq h
  rwa [wrap_of_holds hm, wrap_of_holds hn] at hwrap

/-- Wrapping to 64 bits does not hide whether an integer of any of the types is zero. -/
theorem wrap_int64_eq_zero_iff (h : kind.Holds n) : int64.wrap n = 0 ↔ n = 0 := by
  -- no type has more than 64 bits, so that wrapping takes off one turn at most
  have hfits := Value.fits_json h
  unfold Json.Number.Fits at hfits
  simp only [wrap, least, size]
  omega

end IntegerType

namespace Value

variable {u v : Value} {middle target : ScalarType} {result : Except Error Value}

/-- A conversion succeeds with the one value of an integer type that is congruent to `n` modulo two
to the number of its bits. -/
def GivesResidue (result : Except Error Value) (kind : IntegerType) (n : Int) : Prop :=
  ∃ r fits, result = .ok (.integer kind r fits) ∧ r ≡ n [ZMOD 2 ^ kind.width] ∧
    ∀ m, kind.Holds m → m ≡ n [ZMOD 2 ^ kind.width] → m = r

theorem givesResidue_iff : GivesResidue result kind n ↔ result = .ok (wrapped kind n) := by
  constructor
  · rintro ⟨r, fits, rfl, hr, -⟩
    obtain rfl : r = kind.wrap n :=
      IntegerType.eq_of_modEq fits (kind.holds_wrap n) (hr.trans (kind.wrap_modEq n).symm)
    rfl
  · rintro rfl
    refine ⟨kind.wrap n, kind.holds_wrap n, rfl, kind.wrap_modEq n, fun m hm hmod => ?_⟩
    exact IntegerType.eq_of_modEq hm (kind.holds_wrap n) (hmod.trans (kind.wrap_modEq n).symm)

theorem wrapped_eq_of_modEq (h : m ≡ n [ZMOD 2 ^ kind.width]) :
    wrapped kind m = wrapped kind n := by
  simp only [wrapped, IntegerType.wrap_eq_of_modEq h]

theorem convert_self (v : Value) : v.convert v.type = .ok v := by
  unfold convert
  exact if_pos rfl

/-- Conversion to integer types and to truth values treats a value as an integer. -/
structure ConvertsAs (v : Value) (n : Int) : Prop where
  /-- Integer types get the value in the residue class of the integer. -/
  integer : ∀ kind, v.convert (.integer kind) = .ok (wrapped kind n)
  /-- The truth value says whether the integer is not zero. -/
  boolean : v.convert .boolean = .ok (.boolean (decide (n ≠ 0)))

/-- What a value is converted to depends only on the integer that it is treated as. -/
theorem ConvertsAs.congr (hu : ConvertsAs u n) (hv : ConvertsAs v n)
    (htarget : target = .boolean ∨ target.isInteger = true) :
    u.convert target = v.convert target := by
  cases target with
  | boolean => rw [hu.boolean, hv.boolean]
  | integer kind => rw [hu.integer, hv.integer]
  | float | double | string => simp [ScalarType.isInteger] at htarget

/-! ## Values that are integers -/

/-- The integer that a value of an integer type or a truth value is. -/
inductive Counts : Value → Int → Prop where
  /-- Truth values count as 0 and 1. -/
  | boolean (b : Bool) : Counts (.boolean b) (if b then 1 else 0)
  /-- An integer is itself. -/
  | integer (kind : IntegerType) (n : Int) (fits : kind.Holds n) : Counts (.integer kind n fits) n

theorem Counts.convertsAs (h : Counts v n) : ConvertsAs v n where
  integer kind := by
    cases h with
    | boolean b => rfl
    | integer kind' n fits =>
      unfold convert
      split
      · -- the value has the type already
        rename_i htype
        cases htype
        rw [wrapped_of_holds fits]
      · rfl
  boolean := by
    cases h with
    | boolean b => cases b <;> rfl
    | integer kind n fits =>
      show Except.ok (Value.boolean (IntegerType.int64.wrap n != 0)) = _
      rw [bne, beq_eq_decide, decide_eq_decide.mpr (IntegerType.wrap_int64_eq_zero_iff fits),
        decide_not]

/-- Converted to the type of a value that is the same integer, a value becomes this value. -/
theorem Counts.convert_type (hv : Counts v n) (hu : ConvertsAs u n) : u.convert v.type = .ok v := by
  have htype : v.type = .boolean ∨ v.type.isInteger = true := by
    cases hv with
    | boolean b => exact .inl rfl
    | integer kind n fits => exact .inr rfl
  -- so `u` becomes what `v` becomes, which stays itself in its own type
  rw [hu.congr hv.convertsAs htype, convert_self]

/-! ## Chains of conversions -/

/-- A value converted to one type and then to another. -/
def convertVia (v : Value) (middle target : ScalarType) : Except Error Value := do
  let u ← v.convert middle
  u.convert target

theorem convertVia_of_ok (h : v.convert middle = .ok u) :
    v.convertVia middle target = u.convert target := by
  rw [convertVia, h]
  rfl

/-- A detour over a type that is at least as wide is not noticed. -/
theorem convertVia_integer (h : Counts v n) (hwidth : narrow.width ≤ wide.width) :
    v.convertVia (.integer wide) (.integer narrow) = v.convert (.integer narrow) := by
  have hwide : Counts (wrapped wide n) (wide.wrap n) := .integer _ _ _
  -- the residue modulo the smaller power is kept too, as this divides the larger one
  have hmod : wide.wrap n ≡ n [ZMOD 2 ^ narrow.width] :=
    (wide.wrap_modEq n).of_dvd (pow_dvd_pow 2 hwidth)
  rw [convertVia_of_ok (h.convertsAs.integer wide), hwide.convertsAs.integer,
    h.convertsAs.integer, wrapped_eq_of_modEq hmod]

/-- A detour over a type that has the integer leads back. -/
theorem convertVia_type (h : Counts v n) (hfits : kind.Holds n) :
    v.convertVia (.integer kind) v.type = .ok v := by
  have hmiddle : Counts (.integer kind n hfits) n := .integer _ _ _
  rw [convertVia_of_ok ((h.convertsAs.integer kind).trans (by rw [wrapped_of_holds hfits])),
    h.convert_type hmiddle.convertsAs]

/-- A value that is the integer `n` is converted to the one value of an integer type that is
congruent to `n`, and to the truth value that says whether `n` is not zero. Nothing else of the
value matters; an integer type that is at least as wide as the target may come between; and from
a type that has `n` the way leads back. -/
theorem convert_modular (h : Counts v n) :
    (∀ kind, GivesResidue (v.convert (.integer kind)) kind n) ∧
      v.convert .boolean = .ok (.boolean (decide (n ≠ 0))) ∧
      (∀ u, Counts u n → ∀ target, target = .boolean ∨ target.isInteger = true →
        u.convert target = v.convert target) ∧
      (∀ wide narrow : IntegerType, narrow.width ≤ wide.width →
        v.convertVia (.integer wide) (.integer narrow) = v.convert (.integer narrow)) ∧
      ∀ kind : IntegerType, kind.Holds n → v.convertVia (.integer kind) v.type = .ok v :=
  ⟨fun kind => givesResidue_iff.mpr (h.convertsAs.integer kind), h.convertsAs.boolean,
    fun _ hu _ htarget => hu.convertsAs.congr h.convertsAs htarget,
    fun _ _ hwidth => convertVia_integer h hwidth, fun _ hfits => convertVia_type h hfits⟩

/-- The greatest integer of 64 bits without a sign: `-1` for the types with one, not zero, and the
same over a narrower type with a sign. -/
theorem convert_modular_greatest :
    Counts (.integer .uint64 18446744073709551615 (by decide)) 18446744073709551615 ∧
      GivesResidue ((integer .uint64 18446744073709551615 (by decide)).convert (.integer .int16))
        .int16 18446744073709551615 ∧
      (integer .uint64 18446744073709551615 (by decide)).convert .boolean = .ok (.boolean true) ∧
      (integer .uint64 18446744073709551615 (by decide)).convertVia (.integer .int32)
          (.integer .uint16) =
        (integer .uint64 18446744073709551615 (by decide)).convert (.integer .uint16) := by
  have hcounts : Counts (.integer .uint64 18446744073709551615 (by decide)) 18446744073709551615 :=
    .integer _ _ _
  obtain ⟨hresidue, hboolean, -, hchain, -⟩ := convert_modular hcounts
  exact ⟨hcounts, hresidue .int16, hboolean, hchain .int32 .uint16 (by decide)⟩

end Value

end ScalarServer
