import ScalarServer.Proofs.Decimal.Literal
import ScalarServer.Proofs.Decimal.Midpoints
import ScalarServer.Scalar.Coding

/-!
# From a value to JSON and back

What strict decoding makes of an encoded value. Values of most types come back as they are. A
single takes a longer way: its shortest decimal is rounded to a double, which is the JSON number,
and this double is rounded to a single again, unless it is above the greatest one.

- `ofJson_toJson`: values of the other types come back, if JSON has them at all;
- `ofJson_toJson_float`: finite singles come back, with two exceptions of either sign. The decimal
  of the greatest single is above it and is refused, and there is one single whose decimal becomes
  the midpoint to the next one.
-/

namespace ScalarServer.Value

open Floating Decimal

variable {negative : Bool} {j n : Nat}

/-- Values of the other types come back. -/
theorem ofJson_toJson (v : Value) (hfloat : v.type ≠ .float)
    (hreal : ∀ x, v = .double x → x.isFinite = true) : ofJson v.toJson v.type = .ok v := by
  cases v with
  | boolean b => rfl
  | integer kind n h => simp [ofJson, ofJson?, toJson, type, ofInt?, h]
  | float x => exact absurd rfl hfloat
  | double x =>
    have hx := hreal x rfl
    simp [ofJson, ofJson?, toJson, type, realJson, Json.Number.ofReal?, hx, Json.Number.toReal]
  | string s => rfl

/-! ## Singles -/

/-- The double that stands for a finite single in JSON. -/
theorem exists_toJson_float (hn : n < Format.binary32.infinity) (negative : Bool) :
    ∃ j, RoundsTo .binary64 (shortest .binary32 .up n).value j ∧
      j < Format.binary64.infinity ∧
      toJson (.float (ofOrdinal .binary32 negative n)) =
        realJson (ofOrdinal .binary64 negative j) := by
  obtain ⟨j, hj⟩ := exists_roundsTo Format.standard_binary64
    (value_nonneg (shortest .binary32 .up n))
  refine ⟨j, hj, ?_, ?_⟩
  · obtain ⟨k, hk, hmagnitude⟩ := exists_double (n := Format.binary32.infinity) le_rfl
    have hround := roundsTo_shortest Format.standard_binary32 .up n
    refine (hj.le_of_le_magnitude (m := k) ?_).trans_lt hk
    rw [hmagnitude]
    calc (shortest .binary32 .up n).value ≤ Format.binary32.midpoint n := hround.le_midpoint
      _ ≤ Format.binary32.magnitude (n + 1) := (Format.midpoint_lt_magnitude_succ _ n).le
      _ ≤ Format.binary32.magnitude Format.binary32.infinity :=
        Format.magnitude_strictMono.monotone hn
  · simp only [toJson, floatingLiteral?_text_ofOrdinal Format.standard_binary64 hn hj]

/-- A finite double in JSON, decoded as a single. -/
theorem ofJson?_realJson (hj : j < Format.binary64.infinity)
    (hn : RoundsTo .binary32 (Format.binary64.magnitude j) n) (negative : Bool) :
    ofJson? .float (realJson (ofOrdinal .binary64 negative j)) =
      if greatestSingle < Format.binary64.magnitude j then none
      else some (.float (ofOrdinal .binary32 negative n)) := by
  have hfinite : (ofOrdinal .binary64 negative j).isFinite = true := by
    rw [← number_eq_ofOrdinal hj.le, isFinite, decide_eq_true_eq]
    exact hj
  simp only [realJson, Json.Number.ofReal?, hfinite, dif_pos, ofJson?, Json.Number.toReal,
    narrow?_eq hj hn]
  split <;> rfl

/-- The single with the bits `15ae43fd`, whose shortest decimal is too close to the midpoint above
it. -/
def unstable : Binary32 :=
  ofOrdinal .binary32 false 363742205

/-- The next number away from zero. -/
def outward : Binary32 → Binary32
  | .nan => .nan
  | .number negative n _ => ofOrdinal .binary32 negative (n + 1)

/-- The decimal of a single below the greatest one does not become a double above the greatest
single. -/
theorem magnitude_le_greatestSingle (hn : n + 1 < Format.binary32.infinity)
    (hj : RoundsTo .binary64 (shortest .binary32 .up n).value j) :
    Format.binary64.magnitude j ≤ greatestSingle := by
  obtain ⟨k, -, hmagnitude⟩ := exists_double (Nat.sub_le Format.binary32.infinity 1)
  have hround := roundsTo_shortest Format.standard_binary32 .up n
  rw [greatestSingle, ← hmagnitude]
  refine hj.magnitude_le ?_
  rw [hmagnitude]
  calc (shortest .binary32 .up n).value ≤ Format.binary32.midpoint n := hround.le_midpoint
    _ ≤ Format.binary32.magnitude (n + 1) := (Format.midpoint_lt_magnitude_succ _ n).le
    _ ≤ Format.binary32.magnitude (Format.binary32.infinity - 1) :=
      Format.magnitude_strictMono.monotone (by omega)

theorem ofJson_toJson_ofOrdinal (hn : n + 1 < Format.binary32.infinity) (hne : n ≠ 363742205)
    (negative : Bool) :
    ofJson (toJson (.float (ofOrdinal .binary32 negative n))) .float =
      .ok (.float (ofOrdinal .binary32 negative n)) := by
  have hlt : n < Format.binary32.infinity := by omega
  obtain ⟨j, hj, hfinite, hjson⟩ := exists_toJson_float hlt negative
  have hle := magnitude_le_greatestSingle hn hj
  rw [ofJson, hjson, ofJson?_realJson hfinite (roundsTo_single_of_shortest hlt hne hj),
    if_neg (not_lt.mpr hle)]

/-- Finite singles come back, but for the greatest one, which is refused, and for one that becomes
the next one. -/
theorem ofJson_toJson_float (x : Binary32) (hfinite : x.isFinite = true) :
    ofJson (toJson (.float x)) .float =
      if x = largest ∨ x = largest.neg then
        .error (.typeMismatch .float (toJson (.float x)).render)
      else if x = unstable ∨ x = unstable.neg then .ok (.float (outward x))
      else .ok (.float x) := by
  cases x with
  | nan => cases hfinite
  | number negative n hn =>
    have hlt : n < Format.binary32.infinity := by simpa [isFinite] using hfinite
    -- the two exceptions are evaluated
    by_cases hlargest : n = Format.binary32.infinity - 1
    · subst hlargest
      cases negative <;> rfl
    by_cases hunstable : n = 363742205
    · subst hunstable
      cases negative <;> rfl
    have hnotLargest : ¬ (number negative n hn = largest ∨ number negative n hn = largest.neg) := by
      simp only [largest, ofOrdinal, neg, number.injEq]
      omega
    have hnotUnstable :
        ¬ (number negative n hn = unstable ∨ number negative n hn = unstable.neg) := by
      simp only [unstable, ofOrdinal, neg, number.injEq]
      omega
    rw [if_neg hnotLargest, if_neg hnotUnstable, number_eq_ofOrdinal hn]
    exact ofJson_toJson_ofOrdinal (by omega) hunstable negative

example : ofJson (toJson (.float unstable)) .float =
    .ok (.float (ofBits .binary32 0x15ae43fe)) := by rfl

/-- The greatest single, whose JSON form is refused. -/
theorem ofJson_toJson_largest : isFinite (largest : Binary32) = true ∧
    ofJson (toJson (.float largest)) .float =
      .error (.typeMismatch .float "3.4028235e+38") :=
  ⟨by decide, (ofJson_toJson_float largest (by decide)).trans (by rfl)⟩

end ScalarServer.Value
