import ScalarServer.Proofs.Floating.Conversion

/-!
# The range of single precision

What becomes of a number that is rounded to a double and then put into single precision. Up to
`singleLimit` it is a finite single, up to `doubleLimit` it is refused, and beyond the latter the
double is infinite already, which single precision has as well.

- `RoundsTo.le_iff_of_even`, `RoundsTo.succ_le_iff_of_even`: the numbers that are rounded to at
  most, or at least, an even ordinal;
- `greatestSingle_eq`, `greatestSingle_lt_iff`: the greatest single, and what is rounded to a double
  above it;
- `infinity_le_iff`: what is rounded to an infinite double;
- `narrow?_of_roundsTo`: the three cases.
-/

namespace ScalarServer.Floating

variable {fmt : Format} {x : ℚ} {j k n : Nat} {negative : Bool}

/-! ## Comparison with an even ordinal -/

namespace RoundsTo

/-- The midpoint above an even ordinal is the last number that is not rounded past it. -/
theorem le_iff_of_even (h : RoundsTo fmt x j) (heven : Even k) : j ≤ k ↔ x ≤ fmt.midpoint k := by
  constructor
  · exact fun hjk => h.le_midpoint.trans (Format.midpoint_strictMono.monotone hjk)
  · intro hx
    -- the tie goes to `k`
    have hmid : RoundsTo fmt (fmt.midpoint k) (if Even k then k else k + 1) := .midpoint k
    rw [if_pos heven] at hmid
    exact h.monotone hmid hx

/-- The midpoint below an even ordinal is the first number that is rounded to it. -/
theorem succ_le_iff_of_even (h : RoundsTo fmt x j) (heven : Even (k + 1)) :
    k + 1 ≤ j ↔ fmt.midpoint k ≤ x := by
  constructor
  · intro hkj
    obtain ⟨i, rfl⟩ := Nat.exists_eq_add_of_le' (Nat.le_of_add_left_le hkj)
    exact (Format.midpoint_strictMono.monotone (by omega)).trans h.midpoint_le
  · intro hx
    -- the tie goes away from `k`, which is odd
    have hmid : RoundsTo fmt (fmt.midpoint k) (if Even k then k else k + 1) := .midpoint k
    rw [if_neg (Nat.even_add_one.mp heven)] at hmid
    exact hmid.monotone h hx

end RoundsTo

/-! ## Limits -/

/-- The last number that is rounded to a double not above the greatest single. -/
def singleLimit : ℚ :=
  2 ^ 128 - 2 ^ 104 + 2 ^ 74

/-- The first number that is rounded to an infinite double. -/
def doubleLimit : ℚ :=
  2 ^ 1024 - 2 ^ 970

theorem singleLimit_lt_doubleLimit : singleLimit < doubleLimit := by
  have hsmall : (2 : ℚ) ^ 74 < 2 ^ 104 := pow_lt_pow_right₀ one_lt_two (by decide)
  have hmiddle : (2 : ℚ) ^ 128 ≤ 2 ^ 970 := pow_le_pow_right₀ one_le_two (by decide)
  have hlarge : (2 : ℚ) ^ (970 + 1) ≤ 2 ^ 1024 := pow_le_pow_right₀ one_le_two (by decide)
  rw [pow_succ] at hlarge
  unfold singleLimit doubleLimit
  -- the powers are too large to be computed
  generalize (2 : ℚ) ^ 970 = a at *
  generalize (2 : ℚ) ^ 1024 = b at *
  linarith

/-- The greatest finite magnitude is as far below the next power of two as magnitudes are apart. -/
theorem magnitude_pred_infinity (hn : n + 1 = fmt.infinity) :
    fmt.magnitude n = fmt.magnitude fmt.infinity - fmt.spacing n := by
  rw [← hn, Format.magnitude_succ, add_sub_cancel_right]

theorem greatestSingle_eq : greatestSingle = 2 ^ 128 - 2 ^ 104 := by
  have hexponent : Format.binary32.exponent (Format.binary32.infinity - 1) = 104 := by decide
  rw [greatestSingle, magnitude_pred_infinity (by decide),
    Format.magnitude_infinity Format.standard_binary32, Format.spacing, hexponent]
  norm_num [Format.binary32]

/-- What is rounded to a double above the greatest single. -/
theorem greatestSingle_lt_iff (h : RoundsTo .binary64 x j) :
    greatestSingle < Format.binary64.magnitude j ↔ singleLimit < x := by
  -- the ordinal of the greatest single among the doubles
  have hsignificand : Format.binary64.significand 0x47efffffe0000000 = 2 ^ 53 - 2 ^ 29 := by decide
  have hexponent : Format.binary64.exponent 0x47efffffe0000000 = 75 := by decide
  have hmagnitude : Format.binary64.magnitude 0x47efffffe0000000 = greatestSingle := by
    rw [Format.magnitude, hsignificand, hexponent, greatestSingle_eq]
    norm_num
  have hmidpoint : Format.binary64.midpoint 0x47efffffe0000000 = singleLimit := by
    rw [Format.midpoint, hmagnitude, greatestSingle_eq, Format.spacing, hexponent, singleLimit]
    norm_num
  rw [← hmagnitude, Format.magnitude_strictMono.lt_iff_lt, ← not_le,
    h.le_iff_of_even (by decide), hmidpoint, not_le]

/-- What is rounded to an infinite double. -/
theorem infinity_le_iff (h : RoundsTo .binary64 x j) :
    Format.binary64.infinity ≤ j ↔ doubleLimit ≤ x := by
  have hexponent : Format.binary64.exponent (Format.binary64.infinity - 1) = 971 := by decide
  have hinfinity : Format.binary64.magnitude Format.binary64.infinity = 2 ^ 1024 :=
    Format.magnitude_infinity Format.standard_binary64
  have hspacing : Format.binary64.spacing (Format.binary64.infinity - 1) = 2 ^ 970 * 2 := by
    rw [Format.spacing, hexponent, ← pow_succ]
    exact zpow_natCast 2 971
  have hmidpoint : Format.binary64.midpoint (Format.binary64.infinity - 1) = doubleLimit := by
    rw [Format.midpoint, magnitude_pred_infinity (by decide), hinfinity, hspacing, doubleLimit]
    generalize (2 : ℚ) ^ 970 = a
    generalize (2 : ℚ) ^ 1024 = b
    linarith
  -- infinity comes next after the greatest finite double, and its ordinal is even
  rw [← hmidpoint, ← h.succ_le_iff_of_even (by decide)]
  exact Iff.rfl

/-! ## From a number to a single -/

theorem isFinite_ofOrdinal (h : n < fmt.infinity) : (ofOrdinal fmt negative n).isFinite = true := by
  rw [← number_eq_ofOrdinal h.le, isFinite, decide_eq_true_eq]
  exact h

/-- What is not above the greatest single is rounded to a finite one. -/
theorem RoundsTo.lt_infinity (h : RoundsTo .binary32 x n) (hx : x ≤ greatestSingle) :
    n < Format.binary32.infinity :=
  (h.le_of_le_magnitude hx).trans_lt (by decide)

/-- Infinities stay what they are. -/
theorem narrow?_infinity (h : Format.binary64.infinity ≤ j) :
    narrow? (ofOrdinal .binary64 negative j) =
      some (ofOrdinal .binary32 negative Format.binary32.infinity) := by
  rw [← ofOrdinal_min, Nat.min_eq_left h]
  cases negative <;> rfl

/-- A number that is rounded to a double and then put into single precision: a finite single, or
none, or infinity. -/
theorem narrow?_of_roundsTo (h : RoundsTo .binary64 x j) (negative : Bool) :
    (x ≤ singleLimit → ∃ n, RoundsTo .binary32 (Format.binary64.magnitude j) n ∧
        n < Format.binary32.infinity ∧
        narrow? (ofOrdinal .binary64 negative j) = some (ofOrdinal .binary32 negative n)) ∧
      (singleLimit < x → x < doubleLimit → narrow? (ofOrdinal .binary64 negative j) = none) ∧
      (doubleLimit ≤ x → narrow? (ofOrdinal .binary64 negative j) =
        some (ofOrdinal .binary32 negative Format.binary32.infinity)) := by
  obtain ⟨n, hn⟩ := exists_roundsTo Format.standard_binary32 (Format.binary64.magnitude_nonneg j)
  refine ⟨fun hx => ?_, fun hlow hhigh => ?_,
    fun hx => narrow?_infinity ((infinity_le_iff h).mpr hx)⟩
  · have hfinite : j < Format.binary64.infinity :=
      not_le.mp (mt (infinity_le_iff h).mp (not_le.mpr (hx.trans_lt singleLimit_lt_doubleLimit)))
    have hle : ¬ greatestSingle < Format.binary64.magnitude j :=
      mt (greatestSingle_lt_iff h).mp (not_lt.mpr hx)
    refine ⟨n, hn, hn.lt_infinity (not_lt.mp hle), ?_⟩
    rw [narrow?_eq hfinite hn, if_neg hle]
  · have hfinite : j < Format.binary64.infinity :=
      not_le.mp (mt (infinity_le_iff h).mp (not_le.mpr hhigh))
    rw [narrow?_eq hfinite hn, if_pos ((greatestSingle_lt_iff h).mpr hlow)]

/-- Integers of 128 bits with a sign are not above the greatest single. -/
theorem natAbs_le_greatestSingle {i : Int} (h : i.natAbs ≤ 2 ^ 127) :
    (i.natAbs : ℚ) ≤ greatestSingle := by
  have hcast : (i.natAbs : ℚ) ≤ 2 ^ 127 := by exact_mod_cast h
  rw [greatestSingle_eq]
  exact hcast.trans (by norm_num)

theorem greatestSingle_lt_singleLimit : greatestSingle < singleLimit := by
  rw [greatestSingle_eq, singleLimit]
  norm_num

end ScalarServer.Floating
