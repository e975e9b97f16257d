import Mathlib.Algebra.Order.Field.Basic
import Mathlib.Algebra.Order.Field.Power
import Mathlib.Algebra.Order.Ring.Unbundled.Rat
import Mathlib.Data.Nat.Cast.Order.Ring
import Mathlib.Tactic.Linarith
import Mathlib.Tactic.Ring
import ScalarServer.Floating.Round

/-!
# Magnitudes

What an ordinal stands for, as a rational number. Ordinals are in the order of their magnitudes,
and the magnitudes that share an exponent are evenly spaced, up to the first one of the next
binade. The main facts are:

- `magnitude_add_mul_binade`: a significand in a binade, whether it is the last one or already the
  first one of the next binade, stands for itself times the power of two of the binade;
- `magnitude_succ`, `magnitude_strictMono`: how far the next magnitude is;
- `exists_magnitude`: every integer of few digits, scaled by a power of two that the format has, is
  a magnitude;
- `ratio_div`: the quotient that `Format.ratio` gives is the magnitude.
-/

namespace ScalarServer

/-! ## Powers -/

@[simp]
theorem twoPow_eq (k : Nat) : twoPow k = 2 ^ k := rfl

@[simp]
theorem tenPow_eq (k : Nat) : tenPow k = 10 ^ k := rfl

/-- A power with an integer exponent, as a quotient of two powers of which one is 1. -/
theorem zpow_eq_div (b : ℚ) (e : ℤ) : b ^ e = b ^ e.toNat / b ^ (-e).toNat := by
  rcases le_total 0 e with h | h
  · rw [show (-e).toNat = 0 by omega, pow_zero, div_one, ← zpow_natCast, Int.toNat_of_nonneg h]
  · rw [show e.toNat = 0 by omega, pow_zero, one_div, ← zpow_natCast,
      Int.toNat_of_nonneg (by omega), zpow_neg, inv_inv]

namespace Floating.Format

variable (fmt : Format)

/-- What the interchange formats have in common. -/
structure Standard : Prop where
  /-- A significand has more digits than the leading one. -/
  two_le_precision : 2 ≤ fmt.precision
  /-- There is an exponent. -/
  exponentBits_pos : 0 < fmt.exponentBits
  /-- The exponent has the larger range. -/
  precision_le : fmt.precision ≤ 2 ^ fmt.exponentBits

/-- The magnitude that an ordinal stands for. -/
def magnitude (n : Nat) : ℚ :=
  fmt.significand n * 2 ^ fmt.exponent n

/-- How far the next magnitude is. -/
def spacing (n : Nat) : ℚ :=
  2 ^ fmt.exponent n

/-- Halfway to the next magnitude. -/
def midpoint (n : Nat) : ℚ :=
  fmt.magnitude n + fmt.spacing n / 2

variable {fmt}

theorem standard_binary32 : binary32.Standard :=
  ⟨by decide, by decide, by decide⟩

theorem standard_binary64 : binary64.Standard :=
  ⟨by decide, by decide, by decide⟩

theorem binade_pos (fmt : Format) : 0 < fmt.binade :=
  Nat.pow_pos (by decide)

theorem spacing_pos (fmt : Format) (n : Nat) : 0 < fmt.spacing n :=
  zpow_pos (by norm_num) _

theorem spacing_mono : Monotone fmt.spacing := fun m n h => by
  have hdiv : m / fmt.binade ≤ n / fmt.binade := Nat.div_le_div_right h
  exact zpow_le_zpow_right₀ one_le_two (by unfold exponent; omega)

/-! ## Significands and exponents -/

theorem significand_lt (fmt : Format) (n : Nat) : fmt.significand n < 2 * fmt.binade := by
  have hmod := Nat.mod_lt n fmt.binade_pos
  unfold significand
  split <;> omega

/-- Only subnormal numbers have a significand without its leading digit. -/
theorem binade_le_significand (fmt : Format) (n : Nat) :
    n / fmt.binade - 1 = 0 ∨ fmt.binade ≤ fmt.significand n := by
  unfold significand
  split
  · rename_i hlt
    exact .inl (by rw [Nat.div_eq_of_lt hlt])
  · exact .inr (Nat.le_add_right _ _)

/-- An ordinal counts the binades below it and then its significand. -/
theorem significand_add_mul_binade (fmt : Format) (n : Nat) :
    fmt.significand n + (n / fmt.binade - 1) * fmt.binade = n := by
  unfold significand
  split
  · rename_i hlt
    rw [Nat.div_eq_of_lt hlt, Nat.zero_sub, Nat.zero_mul, Nat.add_zero]
  · rename_i hge
    obtain ⟨q, hq⟩ := Nat.exists_eq_add_of_le' (Nat.div_pos (Nat.le_of_not_lt hge) fmt.binade_pos)
    have hsum := Nat.div_add_mod' n fmt.binade
    rw [hq, Nat.add_mul, Nat.one_mul] at hsum
    rw [hq, Nat.add_sub_cancel]
    omega

/-- A significand stands for itself times the power of two of its binade. The first significand of
the next binade may be taken for the end of this one. -/
theorem magnitude_add_mul_binade (fmt : Format) {r d : Nat} (hr : r ≤ 2 * fmt.binade)
    (hd : d = 0 ∨ fmt.binade ≤ r) :
    fmt.magnitude (r + d * fmt.binade) = r * 2 ^ (fmt.minExponent + d) := by
  have hpos := fmt.binade_pos
  by_cases hlow : r < fmt.binade
  · -- a subnormal number
    obtain rfl : d = 0 := by omega
    simp only [magnitude, significand, exponent, Nat.zero_mul, Nat.add_zero, if_pos hlow,
      Nat.div_eq_of_lt hlow, Nat.zero_sub]
  · by_cases hlast : r = 2 * fmt.binade
    · -- the first number of the next binade
      have hsum : r + d * fmt.binade = (d + 2) * fmt.binade := by rw [hlast]; ring
      have hnot : ¬ (d + 2) * fmt.binade < fmt.binade := by
        rw [Nat.not_lt]
        exact Nat.le_mul_of_pos_left _ (by omega)
      simp only [magnitude, significand, exponent, hsum, if_neg hnot, Nat.mul_mod_left,
        Nat.add_zero, Nat.mul_div_cancel _ hpos]
      rw [hlast, show ((d + 2 - 1 : Nat) : ℤ) = (d : ℤ) + 1 by omega, ← add_assoc,
        zpow_add_one₀ (by norm_num)]
      push_cast
      ring
    · -- a normal number, with `t` behind its leading digit
      obtain ⟨t, rfl⟩ := Nat.exists_eq_add_of_le (Nat.le_of_not_lt hlow)
      have ht : t < fmt.binade := by omega
      have hsum : fmt.binade + t + d * fmt.binade = (d + 1) * fmt.binade + t := by ring
      have hnot : ¬ (d + 1) * fmt.binade + t < fmt.binade := by
        rw [Nat.add_mul, Nat.one_mul]
        omega
      have hdiv : ((d + 1) * fmt.binade + t) / fmt.binade = d + 1 := by
        rw [Nat.mul_comm, Nat.mul_add_div hpos, Nat.div_eq_of_lt ht, Nat.add_zero]
      have hmod : ((d + 1) * fmt.binade + t) % fmt.binade = t := by
        rw [Nat.mul_comm, Nat.mul_add_mod, Nat.mod_eq_of_lt ht]
      simp only [magnitude, significand, exponent, hsum, if_neg hnot, hdiv, hmod,
        Nat.add_sub_cancel]

theorem magnitude_zero (fmt : Format) : fmt.magnitude 0 = 0 := by
  have h := fmt.magnitude_add_mul_binade (r := 0) (d := 0) (Nat.zero_le _) (.inl rfl)
  simpa using h

/-- Binades have an even number of ordinals. -/
theorem even_binade (hfmt : fmt.Standard) : Even fmt.binade := by
  have hprecision := hfmt.two_le_precision
  unfold binade
  rw [twoPow_eq, Nat.even_pow]
  exact ⟨even_two, by omega⟩

/-! ## The order of magnitudes -/

theorem magnitude_succ (fmt : Format) (n : Nat) :
    fmt.magnitude (n + 1) = fmt.magnitude n + fmt.spacing n := by
  have hnext := fmt.magnitude_add_mul_binade (r := fmt.significand n + 1)
    (d := n / fmt.binade - 1) (fmt.significand_lt n)
    ((fmt.binade_le_significand n).imp_right Nat.le_succ_of_le)
  have hsum : fmt.significand n + 1 + (n / fmt.binade - 1) * fmt.binade = n + 1 := by
    rw [Nat.add_right_comm, significand_add_mul_binade]
  rw [hsum] at hnext
  rw [hnext, magnitude, spacing, exponent]
  push_cast
  ring

theorem magnitude_strictMono : StrictMono fmt.magnitude :=
  strictMono_nat_of_lt_succ fun n => by
    rw [magnitude_succ]
    exact lt_add_of_pos_right _ (fmt.spacing_pos n)

theorem magnitude_nonneg (fmt : Format) (n : Nat) : 0 ≤ fmt.magnitude n :=
  fmt.magnitude_zero ▸ magnitude_strictMono.monotone (Nat.zero_le n)

theorem magnitude_lt_midpoint (fmt : Format) (n : Nat) : fmt.magnitude n < fmt.midpoint n :=
  lt_add_of_pos_right _ (half_pos (fmt.spacing_pos n))

theorem midpoint_lt_magnitude_succ (fmt : Format) (n : Nat) :
    fmt.midpoint n < fmt.magnitude (n + 1) := by
  rw [magnitude_succ, midpoint]
  exact add_lt_add_right (half_lt_self (fmt.spacing_pos n)) _

theorem midpoint_strictMono : StrictMono fmt.midpoint :=
  strictMono_nat_of_lt_succ fun n =>
    (fmt.midpoint_lt_magnitude_succ n).trans (fmt.magnitude_lt_midpoint (n + 1))

/-- The spacing changes only at the first number of a binade, which has an even ordinal. -/
theorem spacing_of_odd (hfmt : fmt.Standard) {n : Nat} (hodd : ¬ Even (n + 1)) :
    fmt.spacing n = fmt.spacing (n + 1) := by
  -- the first number of a binade would be divisible by an even number
  have hbinade : ¬ fmt.binade ∣ n + 1 := fun hdvd => hodd ((even_binade hfmt).trans_dvd hdvd)
  rw [spacing, spacing, exponent, exponent, Nat.succ_div_of_not_dvd hbinade]

/-- The midpoints around an odd ordinal are equally far away. -/
theorem abs_midpoint_sub_magnitude (hfmt : fmt.Standard) {m n : Nat} (hodd : ¬ Even n)
    (hm : m = n ∨ m + 1 = n) : |fmt.midpoint m - fmt.magnitude n| = fmt.spacing n / 2 := by
  rcases hm with rfl | rfl
  · rw [midpoint, add_sub_cancel_left, abs_of_pos (half_pos (fmt.spacing_pos m))]
  · rw [magnitude_succ, midpoint, ← spacing_of_odd hfmt hodd, add_sub_add_left_eq_sub,
      abs_sub_comm, sub_half, abs_of_pos (half_pos (fmt.spacing_pos m))]

/-- From the first normal number on, the spacing is small against the magnitude. -/
theorem binade_mul_spacing_le {n : Nat} (h : fmt.binade ≤ n) :
    fmt.binade * fmt.spacing n ≤ fmt.magnitude n := by
  have hle : fmt.binade ≤ fmt.significand n := by
    rw [significand, if_neg (Nat.not_lt.mpr h)]
    exact Nat.le_add_right _ _
  exact mul_le_mul_of_nonneg_right (by exact_mod_cast hle) (fmt.spacing_pos n).le

/-! ## Which numbers are magnitudes -/

/-- An integer of few digits, scaled by a power of two that the format has, is a magnitude. -/
theorem exists_magnitude (fmt : Format) {r : Nat} {e : ℤ} (hr : r ≤ 2 * fmt.binade)
    (he : fmt.minExponent ≤ e) : ∃ n, fmt.magnitude n = r * 2 ^ e := by
  obtain ⟨d, rfl⟩ := Int.le.dest he
  -- on the exponent: an integer that lacks the leading digit is doubled, as long as that helps
  induction d generalizing r with
  | zero => exact ⟨r, by simpa using fmt.magnitude_add_mul_binade (d := 0) hr (.inl rfl)⟩
  | succ d ih =>
    rcases Nat.lt_or_ge r fmt.binade with hlow | hge
    · obtain ⟨n, hn⟩ := ih (r := 2 * r) (by omega) (by omega)
      refine ⟨n, ?_⟩
      rw [hn, Nat.cast_succ, ← add_assoc, zpow_add_one₀ (by norm_num)]
      push_cast
      ring
    · exact ⟨_, fmt.magnitude_add_mul_binade hr (.inr hge)⟩

/-- The ordinal of infinity stands for the least power of two that is too large. -/
theorem magnitude_infinity (hfmt : fmt.Standard) :
    fmt.magnitude fmt.infinity = 2 ^ (2 ^ (fmt.exponentBits - 1)) := by
  have hprecision := hfmt.two_le_precision
  -- the exponents, half of which are below that of infinity
  have hhalf : 2 ^ fmt.exponentBits = 2 * 2 ^ (fmt.exponentBits - 1) := by
    rw [← Nat.pow_succ', Nat.succ_eq_add_one, Nat.sub_add_cancel hfmt.exponentBits_pos]
  have hone : 1 ≤ 2 ^ (fmt.exponentBits - 1) := Nat.one_le_two_pow
  obtain ⟨k, hk⟩ := Nat.exists_eq_add_of_le hone
  have hsplit : fmt.infinity = fmt.binade + 2 * k * fmt.binade := by
    rw [infinity, twoPow_eq, hhalf, hk, show 2 * (1 + k) - 1 = 1 + 2 * k by omega]
    ring
  have hbinade : (fmt.binade : ℚ) = 2 ^ ((fmt.precision : ℤ) - 1) := by
    rw [binade, twoPow_eq, Nat.cast_pow, ← zpow_natCast]
    congr 1
    omega
  rw [hsplit, fmt.magnitude_add_mul_binade (by omega) (.inr le_rfl), minExponent, twoPow_eq, hk,
    hbinade, ← zpow_add₀ two_ne_zero, ← zpow_natCast]
  congr 1
  push_cast
  ring

/-- An ordinal is even exactly if its significand is. -/
theorem even_significand_iff (hfmt : fmt.Standard) (n : Nat) :
    Even (fmt.significand n) ↔ Even n := by
  nth_rewrite 2 [← fmt.significand_add_mul_binade n]
  simp [Nat.even_add, even_binade hfmt]

/-! ## Magnitudes as quotients -/

theorem ratio_snd_pos (fmt : Format) (n : Nat) : 0 < (fmt.ratio n).2 :=
  Nat.pow_pos (by decide)

theorem ratio_div (n : Nat) :
    ((fmt.ratio n).1 : ℚ) / (fmt.ratio n).2 = fmt.magnitude n := by
  rw [magnitude, zpow_eq_div]
  simp only [ratio, twoPow_eq]
  push_cast
  ring

end Floating.Format

end ScalarServer
