import Mathlib.Data.Rat.Floor
import ScalarServer.Proofs.Floating.Conversion

/-!
# Exact values and their integer parts

A floating-point number is exactly a rational number, an infinity, or nothing. Its integer part is
the rational number with its fraction left out, as far as 64 bits with a sign go; beyond them, and
for the infinities, it is the nearest integer of 64 bits, and for NaN it is zero.

- `Exact`, `exact`: what a number stands for, whatever its format;
- `truncate_eq`: the integer part is that of the exact value;
- `Exact.whole_ne_zero_iff`: it is zero for what is nearer to zero than one, and for NaN;
- `exact_widen`: a single stands for the same in double precision;
- `truncate_ofOrdinal_of_le`: all large numbers have the greatest integer part of their sign;
- `truncate_of_roundsTo`: rounding to a double does not change this;
- `exact_ofInt`: an integer with few digits is a number of the format, and needs no rounding.
-/

namespace ScalarServer.Floating

variable {fmt : Format} {negative : Bool} {n : Nat} {q : ℚ}

/-! ## Exact values -/

/-- What a floating-point number stands for. -/
inductive Exact where
  /-- Nothing: the exact value of NaN. -/
  | undefined
  /-- An infinity of either sign. -/
  | infinite (negative : Bool)
  /-- A rational number. -/
  | finite (q : ℚ)

/-- The exact value of a number. -/
def exact : Floating fmt → Exact
  | .nan => .undefined
  | .number negative n _ =>
    if n = fmt.infinity then .infinite negative
    else .finite (if negative then -fmt.magnitude n else fmt.magnitude n)

theorem exact_ofOrdinal_of_lt (h : n < fmt.infinity) :
    (ofOrdinal fmt negative n).exact =
      .finite (if negative then -fmt.magnitude n else fmt.magnitude n) := by
  rw [← number_eq_ofOrdinal h.le, exact, if_neg h.ne]

theorem exact_ofOrdinal_of_le (h : fmt.infinity ≤ n) :
    (ofOrdinal fmt negative n).exact = .infinite negative := by
  rw [ofOrdinal, exact, if_pos (Nat.min_eq_right h)]

/-- Double precision has the exact value of every single. -/
theorem exact_widen (x : Binary32) : x.widen.exact = x.exact := by
  cases x with
  | nan => rfl
  | number negative n hn =>
    rcases hn.lt_or_eq with hlt | rfl
    · -- the magnitude is one of the doubles, so that there is nothing to round
      obtain ⟨k, hk, hmagnitude⟩ := exists_double hn
      have hround : RoundsTo .binary64 (Format.binary32.magnitude n) k :=
        hmagnitude ▸ roundsTo_magnitude k
      rw [number_eq_ofOrdinal hn, widen, convert_eq Format.standard_binary64 hlt hround,
        exact_ofOrdinal_of_lt hk, exact_ofOrdinal_of_lt hlt, hmagnitude]
    · rw [widen, convert, if_pos rfl, exact_ofOrdinal_of_le le_rfl, exact, if_pos rfl]

/-! ## Integer parts of rational numbers -/

/-- The integer that is left of a rational number without its fraction. -/
def towardZero (q : ℚ) : ℤ :=
  if 0 ≤ q then ⌊q⌋ else ⌈q⌉

theorem towardZero_of_nonneg (h : 0 ≤ q) : towardZero q = ⌊q⌋ :=
  if_pos h

theorem towardZero_neg (q : ℚ) : towardZero (-q) = -towardZero q := by
  unfold towardZero
  rcases lt_trichotomy q 0 with hlt | rfl | hgt
  · rw [if_pos (neg_nonneg.mpr hlt.le), if_neg (not_le.mpr hlt), Int.floor_neg]
  · simp
  · rw [if_neg (not_le.mpr (neg_neg_of_pos hgt)), if_pos hgt.le, Int.ceil_neg]

/-- An integer has no fraction. -/
theorem towardZero_intCast (n : ℤ) : towardZero n = n := by
  unfold towardZero
  split
  · exact Int.floor_intCast n
  · exact Int.ceil_intCast n

/-- What is left is zero exactly for the numbers between minus one and one. -/
theorem towardZero_eq_zero_iff (q : ℚ) : towardZero q = 0 ↔ |q| < 1 := by
  have hnonneg : ∀ q : ℚ, 0 ≤ q → (towardZero q = 0 ↔ |q| < 1) := by
    intro q hq
    rw [towardZero_of_nonneg hq, Int.floor_eq_zero_iff, Set.mem_Ico, abs_of_nonneg hq]
    exact and_iff_right hq
  -- both sides are the same for the number of the opposite sign
  rcases le_total 0 q with hq | hq
  · exact hnonneg q hq
  · rw [← neg_eq_zero, ← towardZero_neg, ← abs_neg]
    exact hnonneg (-q) (neg_nonneg.mpr hq)

/-- The integer of 64 bits with a sign that is nearest to an integer. -/
def clamp (n : ℤ) : ℤ :=
  max (-2 ^ 63) (min n (2 ^ 63 - 1))

/-! ## Integer parts of exact values -/

namespace Exact

/-- The integer part of an exact value, in 64 bits with a sign. -/
def whole : Exact → ℤ
  | .undefined => 0
  | .infinite true => -2 ^ 63
  | .infinite false => 2 ^ 63 - 1
  | .finite q => clamp (towardZero q)

/-- An exact value is at least as far from zero as one. -/
def AtLeastOne : Exact → Prop
  | .undefined => False
  | .infinite _ => True
  | .finite q => 1 ≤ |q|

theorem whole_bounds (e : Exact) : -2 ^ 63 ≤ e.whole ∧ e.whole < 2 ^ 63 := by
  cases e with
  | undefined => decide
  | infinite negative => cases negative <;> decide
  | finite q =>
    simp only [whole, clamp]
    omega

/-- An integer of 64 bits with a sign is its own integer part. -/
theorem whole_intCast {n : ℤ} (hlow : -2 ^ 63 ≤ n) (hhigh : n < 2 ^ 63) :
    (Exact.finite n).whole = n := by
  rw [whole, towardZero_intCast, clamp]
  omega

theorem whole_ne_zero_iff (e : Exact) : e.whole ≠ 0 ↔ e.AtLeastOne := by
  cases e with
  | undefined => simp [whole, AtLeastOne]
  | infinite negative => cases negative <;> simp [whole, AtLeastOne]
  | finite q =>
    have hclamp : clamp (towardZero q) = 0 ↔ towardZero q = 0 := by
      unfold clamp
      omega
    rw [whole, AtLeastOne, ne_eq, hclamp, towardZero_eq_zero_iff, not_lt]

end Exact

/-! ## Integer parts of floating-point numbers -/

/-- Division of naturals leaves the fraction of a magnitude out. -/
theorem floor_magnitude (fmt : Format) (n : Nat) :
    (((fmt.ratio n).1 / (fmt.ratio n).2 : Nat) : ℤ) = towardZero (fmt.magnitude n) := by
  rw [towardZero_of_nonneg (fmt.magnitude_nonneg n), ← Format.ratio_div,
    Rat.floor_natCast_div_natCast, Int.natCast_ediv]

/-- The integer part of a number is that of its exact value. -/
theorem truncate_eq (x : Floating fmt) : x.truncate = x.exact.whole := by
  cases x with
  | nan => rfl
  | number negative n hn =>
    simp only [truncate, exact]
    by_cases hinfinite : n = fmt.infinity
    · rw [if_pos hinfinite, if_pos hinfinite]
      cases negative <;> rfl
    · rw [if_neg hinfinite, if_neg hinfinite, floor_magnitude]
      have hnonneg : 0 ≤ towardZero (fmt.magnitude n) := by
        rw [towardZero_of_nonneg (fmt.magnitude_nonneg n), Int.floor_nonneg]
        exact fmt.magnitude_nonneg n
      -- the sign comes back after the fraction is gone
      cases negative with
      | true =>
        show max _ (-towardZero (fmt.magnitude n)) = clamp (towardZero (-fmt.magnitude n))
        rw [towardZero_neg, clamp]
        omega
      | false =>
        show min _ (towardZero (fmt.magnitude n)) = clamp (towardZero (fmt.magnitude n))
        rw [clamp]
        omega

/-- All numbers beyond 64 bits, the infinities among them, have the greatest integer part of their
sign. -/
theorem truncate_ofOrdinal_of_le (h : 2 ^ 63 ≤ fmt.magnitude n) (negative : Bool) :
    (ofOrdinal fmt negative n).truncate = if negative then -2 ^ 63 else 2 ^ 63 - 1 := by
  rw [truncate_eq]
  rcases Nat.lt_or_ge n fmt.infinity with hlt | hge
  · have hlarge : 2 ^ 63 ≤ towardZero (fmt.magnitude n) := by
      rw [towardZero_of_nonneg (fmt.magnitude_nonneg n), Int.le_floor]
      exact_mod_cast h
    rw [exact_ofOrdinal_of_lt hlt, Exact.whole]
    cases negative with
    | true =>
      simp only [if_true, towardZero_neg, clamp]
      omega
    | false =>
      simp only [Bool.false_eq_true, if_false, clamp]
      omega
  · rw [exact_ofOrdinal_of_le hge]
    cases negative <;> rfl

/-- Numbers beyond 64 bits that are rounded to a double have the greatest integer part as well. -/
theorem truncate_of_roundsTo (h : RoundsTo .binary64 q n) (hq : 2 ^ 63 ≤ q) (negative : Bool) :
    (ofOrdinal .binary64 negative n).truncate = if negative then -2 ^ 63 else 2 ^ 63 - 1 := by
  -- the limit is itself a double, so that rounding does not lead below it
  obtain ⟨k, hk⟩ := Format.binary64.exists_magnitude (r := 1) (e := 63) (by decide) (by decide)
  have hlimit : Format.binary64.magnitude k = 2 ^ 63 := by
    rw [hk, Nat.cast_one, one_mul]
    exact zpow_natCast 2 63
  exact truncate_ofOrdinal_of_le (hlimit ▸ h.le_magnitude (hlimit ▸ hq)) negative

/-! ## Integers as floating-point numbers -/

/-- An integer that has no more digits than a significand is a number of the format. -/
theorem exact_ofInt (hfmt : fmt.Standard) (hexponent : fmt.precision < 2 ^ (fmt.exponentBits - 1))
    {n : ℤ} (hn : |n| ≤ 2 ^ fmt.precision) : (ofInt fmt n).exact = .finite n := by
  have hprecision := hfmt.two_le_precision
  have hdigits : n.natAbs ≤ 2 ^ fmt.precision := by
    rw [Int.abs_eq_natAbs] at hn
    exact_mod_cast hn
  have hbinade : 2 ^ fmt.precision = 2 * fmt.binade := by
    rw [Format.binade, twoPow_eq, ← Nat.pow_succ', Nat.succ_eq_add_one]
    congr 1
    omega
  -- the integer is a significand that is scaled by one, so that there is nothing to round
  have hscale : fmt.minExponent ≤ 0 := by
    rw [Format.minExponent, twoPow_eq]
    omega
  obtain ⟨k, hk⟩ := fmt.exists_magnitude (hbinade ▸ hdigits) hscale
  rw [zpow_zero, mul_one] at hk
  have hround : RoundsTo fmt n.natAbs k := hk ▸ roundsTo_magnitude k
  have hfinite : k < fmt.infinity := by
    rw [← Format.magnitude_strictMono.lt_iff_lt, hk, Format.magnitude_infinity hfmt]
    calc (n.natAbs : ℚ) ≤ 2 ^ fmt.precision := by exact_mod_cast hdigits
      _ < 2 ^ (2 ^ (fmt.exponentBits - 1)) := pow_lt_pow_right₀ one_lt_two hexponent
  rw [ofInt_eq hfmt hround, exact_ofOrdinal_of_lt hfinite, hk, Nat.cast_natAbs, Int.cast_abs]
  congr 1
  rcases lt_or_ge n 0 with hneg | hnonneg
  · rw [if_pos (decide_eq_true hneg), abs_of_neg (Int.cast_lt_zero.mpr hneg), neg_neg]
  · rw [if_neg (by simpa using hnonneg), abs_of_nonneg (Int.cast_nonneg hnonneg)]

end ScalarServer.Floating
