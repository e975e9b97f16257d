import ScalarServer.Decimal.Shortest
import ScalarServer.Proofs.Floating.Magnitude

/-!
# The value of a decimal

A decimal as a rational number, and the number of digits of a natural.

- `ratio_div`: the quotient that `Decimal.ratio` gives is the value;
- `length_digitsOf_le_iff`: how many digits a number has;
- `value_lt_pow`, `pow_scientificExponent_le`: a decimal and the power of ten of its first digit;
- `log10Quotient_spec`: the power of ten that `log10Quotient` finds is not above the quotient.
-/

namespace ScalarServer.Decimal

open Text

variable {num den : Nat}

/-- The rational number that a decimal is. -/
def value (d : Decimal) : ℚ :=
  d.coefficient * 10 ^ d.exponent

theorem value_nonneg (d : Decimal) : 0 ≤ d.value :=
  mul_nonneg (Nat.cast_nonneg _) (zpow_pos (by norm_num) _).le

theorem ratio_snd_pos (d : Decimal) : 0 < d.ratio.2 :=
  Nat.pow_pos (by decide)

theorem ratio_div (d : Decimal) : (d.ratio.1 : ℚ) / d.ratio.2 = d.value := by
  rw [value, zpow_eq_div]
  simp only [ratio, tenPow_eq]
  push_cast
  ring

/-! ## Comparison of quotients -/

variable {x y : Nat × Nat}

theorem compareRatios_eq_lt_iff (hx : 0 < x.2) (hy : 0 < y.2) :
    compareRatios x y = .lt ↔ (x.1 : ℚ) / x.2 < y.1 / y.2 := by
  rw [div_lt_div_iff₀ (by exact_mod_cast hx) (by exact_mod_cast hy), compareRatios,
    Nat.compare_eq_lt]
  exact_mod_cast Iff.rfl

theorem compareRatios_eq_gt_iff (hx : 0 < x.2) (hy : 0 < y.2) :
    compareRatios x y = .gt ↔ (y.1 : ℚ) / y.2 < x.1 / x.2 := by
  rw [div_lt_div_iff₀ (by exact_mod_cast hy) (by exact_mod_cast hx), compareRatios,
    Nat.compare_eq_gt]
  exact_mod_cast Iff.rfl

theorem compareRatios_eq_eq_iff (hx : 0 < x.2) (hy : 0 < y.2) :
    compareRatios x y = .eq ↔ (x.1 : ℚ) / x.2 = y.1 / y.2 := by
  rw [div_eq_div_iff (by exact_mod_cast hx.ne') (by exact_mod_cast hy.ne'), compareRatios,
    Nat.compare_eq_eq]
  exact_mod_cast Iff.rfl

/-! ## Numbers of digits -/

theorem length_digitsOf_pos (n : Nat) : 0 < (digitsOf n).length :=
  Nat.length_toDigits_pos

theorem length_digitsOf_le_iff {n k : Nat} (hk : 0 < k) : (digitsOf n).length ≤ k ↔ n < 10 ^ k :=
  Nat.length_toDigits_le_iff (by decide) hk

theorem lt_pow_length_digitsOf (n : Nat) : n < 10 ^ (digitsOf n).length :=
  (length_digitsOf_le_iff (length_digitsOf_pos n)).mp le_rfl

/-- A positive number is at least the power of ten of its first digit. -/
theorem pow_length_digitsOf_le {n : Nat} (hn : n ≠ 0) : 10 ^ ((digitsOf n).length - 1) ≤ n := by
  rcases Nat.lt_or_ge 1 (digitsOf n).length with h | h
  · by_contra hlt
    have hle := (length_digitsOf_le_iff (n := n) (k := (digitsOf n).length - 1) (by omega)).mpr
      (Nat.lt_of_not_le hlt)
    omega
  · rw [Nat.sub_eq_zero_of_le h, Nat.pow_zero]
    exact Nat.one_le_iff_ne_zero.mpr hn

/-! ## The first digit -/

/-- Zero has one digit. -/
theorem coefficient_ne_zero {d : Decimal} (h : 1 < d.digits.length) : d.coefficient ≠ 0 := by
  intro hzero
  rw [digits, hzero] at h
  exact lt_irrefl 1 h

/-- A decimal is less than the next power of ten after that of its first digit. -/
theorem value_lt_pow (d : Decimal) : d.value < 10 ^ (d.scientificExponent + 1) := by
  have hten : (10 : ℚ) ≠ 0 := by norm_num
  have hhigh := lt_pow_length_digitsOf d.coefficient
  have hsize : d.scientificExponent + 1 = d.digits.length + d.exponent := by
    rw [scientificExponent]
    ring
  rw [hsize, zpow_add₀ hten, zpow_natCast]
  exact mul_lt_mul_of_pos_right (by exact_mod_cast hhigh) (zpow_pos (by norm_num) _)

/-- It is at least the power of ten of its first digit. -/
theorem pow_scientificExponent_le {d : Decimal} (hd : d.coefficient ≠ 0) :
    (10 : ℚ) ^ d.scientificExponent ≤ d.value := by
  have hten : (10 : ℚ) ≠ 0 := by norm_num
  have hlow := pow_length_digitsOf_le hd
  have hpos : 0 < d.digits.length := length_digitsOf_pos d.coefficient
  rw [scientificExponent, zpow_add₀ hten, ← Nat.cast_pred hpos, zpow_natCast]
  exact mul_le_mul_of_nonneg_right (by exact_mod_cast hlow) (zpow_pos (by norm_num) _).le

/-- A power of ten as a decimal. -/
theorem value_one (k : ℤ) : (⟨1, k⟩ : Decimal).value = 10 ^ k := by
  rw [value, Nat.cast_one, one_mul]

/-- The power of ten that is found is not above the quotient. -/
theorem log10Quotient_spec (hnum : num ≠ 0) (hden : den ≠ 0) :
    (10 : ℚ) ^ log10Quotient num den ≤ num / den := by
  have hden' : (0 : ℚ) < den := by exact_mod_cast Nat.pos_of_ne_zero hden
  simp only [log10Quotient, tenPow_eq]
  generalize hs : (digitsOf den).length = s
  -- shifted by `s` digits, the quotient is at least one
  have hshift : den ≤ num * 10 ^ s := by
    have hlt := lt_pow_length_digitsOf den
    rw [hs] at hlt
    exact hlt.le.trans (Nat.le_mul_of_pos_left _ (Nat.pos_of_ne_zero hnum))
  have hquotient : num * 10 ^ s / den ≠ 0 :=
    (Nat.div_pos hshift (Nat.pos_of_ne_zero hden)).ne'
  have hpow := pow_length_digitsOf_le hquotient
  have hpos := length_digitsOf_pos (num * 10 ^ s / den)
  generalize (digitsOf (num * 10 ^ s / den)).length = k at hpow hpos
  -- its first of `k` digits bounds it from below, and the shift is taken back
  have hle : (10 : ℚ) ^ (k - 1) ≤ num * 10 ^ s / den := by
    rw [le_div_iff₀ hden']
    exact_mod_cast (Nat.le_div_iff_mul_le (Nat.pos_of_ne_zero hden)).mp hpow
  have hexponent : (10 : ℚ) ^ ((k : ℤ) - 1 - s) = 10 ^ (k - 1) / 10 ^ s := by
    rw [zpow_sub₀ (by norm_num), zpow_natCast, ← Nat.cast_pred hpos, zpow_natCast]
  rw [hexponent, div_le_iff₀ (by positivity), div_mul_eq_mul_div]
  exact hle

end ScalarServer.Decimal
