import ScalarServer.Proofs.Floating.Conversion
import ScalarServer.Scalar.Conversion

/-!
# Strict and lenient decoding

Where strict decoding succeeds, lenient conversion of the natural value succeeds too. The two give
the same value, but for some large integers that are decoded as singles: strict decoding rounds
them to a double first, lenient conversion does not. Then the two values are neighbours, and strict
decoding gives the even one.

- `wrap_of_holds`: integers that fit a type are not changed by wrapping;
- `RoundedBothWays`: an integer as a single, rounded once and rounded twice;
- `ofInt_eq_convert_iff`: when an integer becomes the same single on both ways;
- `EndApart`: what becomes of it otherwise;
- `convert_natural_of_ofJson`: the comparison for all JSON values and types.
-/

namespace ScalarServer

open Floating

variable {kind : IntegerType} {i : Int} {json : Json} {target : ScalarType} {v : Value}

/-! ## Integers -/

theorem IntegerType.wrap_of_holds (h : kind.Holds i) : kind.wrap i = i := by
  obtain ⟨hlow, hhigh⟩ := h
  rw [wrap, Int.emod_eq_of_lt (by omega) (by omega)]
  omega

namespace Value

theorem wrapped_of_holds (h : kind.Holds i) : wrapped kind i = .integer kind i h := by
  simp only [wrapped, IntegerType.wrap_of_holds h]

/-- The natural value of a JSON integer is one of a 64-bit type. -/
theorem exists_natural?_integer (h : Json.Number.Fits i) :
    ∃ kind fits, natural? (.number (.integer i h)) = some (.integer kind i fits) := by
  by_cases hsigned : IntegerType.int64.Holds i
  · exact ⟨_, hsigned, by simp [natural?, ofInt?, hsigned]⟩
  · have hunsigned : IntegerType.uint64.Holds i := by
      unfold Json.Number.Fits at h
      simp only [IntegerType.Holds, IntegerType.least, IntegerType.size] at hsigned ⊢
      omega
    exact ⟨_, hunsigned, by simp [natural?, ofInt?, hsigned, hunsigned]⟩

/-- An integer that fits another type is converted to itself. -/
theorem convert_integer (kind' : IntegerType) (fits' : kind'.Holds i) (fits : kind.Holds i) :
    (integer kind' i fits').convert (.integer kind) = .ok (.integer kind i fits) := by
  unfold convert
  split
  · rename_i hkind
    cases hkind
    rfl
  · exact congrArg Except.ok (wrapped_of_holds fits)

/-! ## Singles -/

/-- Integers of 64 bits are finite in both formats. -/
theorem natAbs_le_magnitude_infinity (h : Json.Number.Fits i) :
    (i.natAbs : ℚ) ≤ Format.binary32.magnitude Format.binary32.infinity := by
  have habs : i.natAbs ≤ 2 ^ 128 := by
    unfold Json.Number.Fits at h
    omega
  rw [Format.magnitude_infinity Format.standard_binary32]
  exact_mod_cast habs

/-- An integer as a single: `n` if it is rounded once, and `k` if it is rounded to the double `j`
first. -/
structure RoundedBothWays (i : Int) (n j k : Nat) : Prop where
  /-- The nearest single. -/
  once : RoundsTo .binary32 i.natAbs n
  /-- The nearest double. -/
  first : RoundsTo .binary64 i.natAbs j
  /-- The single nearest to that. -/
  second : RoundsTo .binary32 (Format.binary64.magnitude j) k
  /-- Nothing is beyond infinity. -/
  once_le : n ≤ Format.binary32.infinity
  /-- Nothing is beyond infinity on the other way either. -/
  second_le : k ≤ Format.binary32.infinity
  /-- The integer as a single. -/
  ofInt_eq : Floating.ofInt .binary32 i = ofOrdinal .binary32 (decide (i < 0)) n
  /-- The integer as a double, and that as a single. -/
  convert_eq : Floating.convert .binary32 (Floating.ofInt .binary64 i) =
    ofOrdinal .binary32 (decide (i < 0)) k

theorem exists_roundedBothWays (h : Json.Number.Fits i) : ∃ n j k, RoundedBothWays i n j k := by
  have hbound := natAbs_le_magnitude_infinity h
  have hnonneg : (0 : ℚ) ≤ i.natAbs := Nat.cast_nonneg _
  obtain ⟨n, hn⟩ := exists_roundsTo Format.standard_binary32 hnonneg
  obtain ⟨j, hj⟩ := exists_roundsTo Format.standard_binary64 hnonneg
  obtain ⟨k, hk⟩ := exists_roundsTo Format.standard_binary32
    (Format.binary64.magnitude_nonneg j)
  -- where the singles end, there is a finite double, and no rounding leads past it
  obtain ⟨limit, hlimit, hmagnitude⟩ := exists_double (n := Format.binary32.infinity) le_rfl
  rw [← hmagnitude] at hbound
  have hfinite : j < Format.binary64.infinity := (hj.le_of_le_magnitude hbound).trans_lt hlimit
  refine ⟨n, j, k, hn, hj, hk, hn.le_of_le_magnitude (hmagnitude ▸ hbound),
    hk.le_of_le_magnitude (hmagnitude ▸ hj.magnitude_le hbound),
    ofInt_eq Format.standard_binary32 hn, ?_⟩
  rw [ofInt_eq Format.standard_binary64 hj, convert_eq Format.standard_binary32 hfinite hk]

/-- An integer becomes the same single on both ways, unless its nearest double is a midpoint of
singles and hides on which side of it the integer was. -/
theorem ofInt_eq_convert_iff (h : Json.Number.Fits i) :
    Floating.ofInt .binary32 i = Floating.convert .binary32 (Floating.ofInt .binary64 i) ↔
      ¬ LosesSide .binary64 .binary32 i.natAbs := by
  obtain ⟨n, j, k, hways⟩ := exists_roundedBothWays h
  rw [hways.ofInt_eq, hways.convert_eq,
    ← twice_eq_iff refines_binary hways.first hways.second hways.once]
  constructor
  · exact ofOrdinal_injective hways.once_le hways.second_le
  · rintro rfl
    rfl

/-- Where the two ways end, if the nearest double of an integer is the midpoint between the single
with the ordinal `m` and the next one, and the integer is on the side of the odd one of these. -/
structure EndApart (i : Int) (m : Nat) (strict lenient : Value) : Prop where
  /-- The nearest double is the midpoint. -/
  onMidpoint : ∃ j, RoundsTo .binary64 i.natAbs j ∧
    Format.binary64.magnitude j = Format.binary32.midpoint m
  /-- The integer is on the side of the odd one. -/
  side : if Even m then Format.binary32.midpoint m < i.natAbs
    else i.natAbs < Format.binary32.midpoint m
  /-- Strict decoding ends at the even one. -/
  strict_eq : strict =
    .float (ofOrdinal .binary32 (decide (i < 0)) (if Even m then m else m + 1))
  /-- Lenient conversion ends at the odd one. -/
  lenient_eq : lenient =
    .float (ofOrdinal .binary32 (decide (i < 0)) (if Even m then m + 1 else m))

theorem exists_endApart (h : Json.Number.Fits i)
    (hloses : LosesSide .binary64 .binary32 i.natAbs) :
    ∃ m, EndApart i m (.float (Floating.convert .binary32 (Floating.ofInt .binary64 i)))
      (.float (Floating.ofInt .binary32 i)) := by
  obtain ⟨n, j, k, hways⟩ := exists_roundedBothWays h
  obtain ⟨m, hmid, hside, heven, hodd⟩ :=
    exists_midpoint_of_losesSide refines_binary hways.first hways.second hways.once hloses
  refine ⟨m, ⟨j, hways.first, hmid⟩, hside, ?_, ?_⟩
  · rw [hways.convert_eq, heven]
  · rw [hways.ofInt_eq, hodd]

/-! ## All types -/

/-- An integer that is decoded as a single, when its nearest double hides on which side of a
midpoint of singles it was. -/
def DecodesApart (json : Json) (target : ScalarType) : Prop :=
  target = .float ∧ ∃ i h, json = .number (.integer i h) ∧ LosesSide .binary64 .binary32 i.natAbs

theorem not_decodesApart_of_ne (h : target ≠ .float) : ¬ DecodesApart json target :=
  fun hapart => h hapart.1

theorem ofJson_eq_ok_iff : ofJson json target = .ok v ↔ ofJson? target json = some v := by
  unfold ofJson
  split
  · rename_i hsome
    rw [hsome, Except.ok.injEq, Option.some.injEq]
  · rename_i hnone
    simp [hnone]

/-- A double in single precision is rounded. -/
theorem eq_convert_of_narrow? {x : Binary64} {y : Binary32} (h : narrow? x = some y) :
    y = Floating.convert .binary32 x := by
  unfold narrow? at h
  split at h <;> cases h
  rfl

/-- An integer that is decoded as a single: its natural value becomes the nearest single. -/
theorem convert_natural_integer_float {hfits : Json.Number.Fits i}
    (h : ofJson? .float (.number (.integer i hfits)) = some v) :
    ∃ w u, natural? (.number (.integer i hfits)) = some w ∧ w.convert .float = .ok u ∧
      (u = v ↔ ¬ DecodesApart (.number (.integer i hfits)) .float) ∧
      (DecodesApart (.number (.integer i hfits)) .float → ∃ m, EndApart i m v u) := by
  obtain ⟨y, hy, rfl⟩ := Option.map_eq_some_iff.mp h
  obtain ⟨kind, fits, hnatural⟩ := exists_natural?_integer hfits
  -- the natural value is rounded once, the strict one has been rounded twice
  refine ⟨_, .float (Floating.ofInt .binary32 i), hnatural, rfl, ?_⟩
  have hapart : DecodesApart (.number (.integer i hfits)) .float ↔
      LosesSide .binary64 .binary32 i.natAbs := by
    constructor
    · rintro ⟨-, i', hfits', heq, hside⟩
      cases heq
      exact hside
    · exact fun hside => ⟨rfl, i, hfits, rfl, hside⟩
  rw [Value.float.injEq, eq_convert_of_narrow? hy, hapart]
  exact ⟨ofInt_eq_convert_iff hfits, exists_endApart hfits⟩

/-- A number that is decoded as a double: its natural value becomes the same double. -/
theorem convert_natural_double (n : Json.Number) :
    ∃ w, natural? (.number n) = some w ∧ w.convert .double = .ok (.double n.toReal) := by
  cases n with
  | integer i hfits =>
    obtain ⟨kind, fits, hnatural⟩ := exists_natural?_integer hfits
    exact ⟨_, hnatural, rfl⟩
  | real x hfinite => exact ⟨_, rfl, rfl⟩

/-- Where strict decoding succeeds, so does lenient conversion of the natural value, and the values
differ only for integers whose nearest double hides their side of a midpoint: then strict decoding
ends at the even one of the singles beside the midpoint, and lenient conversion at the odd one.
Lenient decoding prefers the strict value. -/
theorem convert_natural_of_ofJson (h : ofJson json target = .ok v) :
    coerceJson json target = .ok v ∧
      ∃ w u, natural? json = some w ∧ w.convert target = .ok u ∧
        (u = v ↔ ¬ DecodesApart json target) ∧
        (DecodesApart json target →
          ∃ i h m, json = .number (.integer i h) ∧ EndApart i m v u) := by
  have hstrict := ofJson_eq_ok_iff.mp h
  refine ⟨by rw [coerceJson, hstrict], ?_⟩
  -- in all cases but one the two ways lead to the same value
  have agree : ∀ w, natural? json = some w → w.convert target = .ok v →
      ¬ DecodesApart json target → ∃ w u, natural? json = some w ∧ w.convert target = .ok u ∧
        (u = v ↔ ¬ DecodesApart json target) ∧
        (DecodesApart json target →
          ∃ i h m, json = .number (.integer i h) ∧ EndApart i m v u) :=
    fun w hw hv hnot => ⟨w, v, hw, hv, iff_of_true rfl hnot, fun hapart => absurd hapart hnot⟩
  unfold ofJson? at hstrict
  split at hstrict
  · cases hstrict
    exact agree _ rfl rfl (not_decodesApart_of_ne (by simp))
  · rename_i kind i hfits
    simp only [ofInt?] at hstrict
    split at hstrict
    · rename_i fits
      cases hstrict
      obtain ⟨kind', fits', hnatural⟩ := exists_natural?_integer hfits
      exact agree _ hnatural (convert_integer kind' fits' fits)
        (not_decodesApart_of_ne (by simp))
    · cases hstrict
  · rename_i n
    cases n with
    | integer i hfits =>
      -- strict decoding goes through a double here, conversion does not
      obtain ⟨w, u, hw, hu, hiff, hends⟩ := convert_natural_integer_float hstrict
      refine ⟨w, u, hw, hu, hiff, fun hapart => ?_⟩
      obtain ⟨m, hm⟩ := hends hapart
      exact ⟨i, hfits, m, rfl, hm⟩
    | real x hfinite =>
      obtain ⟨y, hy, rfl⟩ := Option.map_eq_some_iff.mp hstrict
      refine agree (.double x) rfl ?_ ?_
      · change Quantity.toValue (.real x) .float = _
        simp only [Json.Number.toReal] at hy
        simp only [Quantity.toValue, hy]
      · rintro ⟨-, i, hfits, heq, -⟩
        cases heq
  · rename_i n
    cases hstrict
    obtain ⟨w, hw, hconvert⟩ := convert_natural_double n
    exact agree w hw hconvert (not_decodesApart_of_ne (by simp))
  · cases hstrict
    exact agree _ rfl rfl (not_decodesApart_of_ne (by simp))
  · cases hstrict

/-- Just over half of the spacing of singles beyond two to the power of 62, the two ways end at these
neighbours. -/
theorem convert_natural_of_ofJson_midpoint :
    ofJson (.number (.integer 4611686293305294849 (by decide))) .float =
        .ok (.float (ofOrdinal .binary32 false 1585446912)) ∧
      ∃ m, EndApart 4611686293305294849 m (.float (ofOrdinal .binary32 false 1585446912))
        (.float (ofOrdinal .binary32 false 1585446913)) := by
  have hstrict : ofJson (.number (.integer 4611686293305294849 (by decide))) .float =
      .ok (.float (ofOrdinal .binary32 false 1585446912)) := by rfl
  have hlenient : (integer .int64 4611686293305294849 (by decide)).convert .float =
      .ok (.float (ofOrdinal .binary32 false 1585446913)) := by rfl
  obtain ⟨-, w, u, hw, hu, hiff, hends⟩ := convert_natural_of_ofJson hstrict
  cases hw
  obtain rfl := Except.ok.inj (hlenient.symm.trans hu)
  -- the values are not the same, so this is the case in which the two ways lead apart
  have hapart := not_not.mp (mt hiff.mpr (by decide))
  obtain ⟨i, _, m, heq, hm⟩ := hends hapart
  cases heq
  exact ⟨hstrict, m, hm⟩

/-- The two ways do lead apart: two to the power of 62, and just over half of the spacing of the
singles there, is nearer to the next single, but its nearest double is the midpoint. -/
theorem natural_convert_ne_ofJson :
    ¬ ∀ json target v, ofJson json target = .ok v →
      ∃ w, natural? json = some w ∧ w.convert target = .ok v := by
  intro h
  have hstrict : ofJson (.number (.integer 4611686293305294849 (by decide))) .float =
      .ok (.float (ofOrdinal .binary32 false 1585446912)) := by rfl
  obtain ⟨w, hw, hconvert⟩ := h _ _ _ hstrict
  have hlenient : (integer .int64 4611686293305294849 (by decide)).convert .float =
      .ok (.float (ofOrdinal .binary32 false 1585446913)) := by rfl
  cases hw
  rw [hlenient] at hconvert
  revert hconvert
  decide

end Value

end ScalarServer
