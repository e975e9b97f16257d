import ScalarServer.Proofs.Decimal.Shortest

/-!
# The shortest decimal has the fewest digits

The search for the shortest decimal begins with steps so coarse that one digit is left, and goes on
to finer ones only where neither neighbour of the magnitude reads back. As all that is rounded to a
magnitude lies together, no multiple of these steps reads back then. A decimal with fewer digits
would be such a multiple, or would have one between itself and the decimal that is found. A decimal
with as few digits is in the same steps, or there is a nearer one that is.

- `not_roundsTo_mul`: which steps have no multiple that reads back;
- `search_cases`: the search ends in its first steps, or the next coarser ones have none;
- `shortest_cases`: the shortest decimal has one digit, or none that reads back has coarser steps;
- `length_digits_shortest_le`: no decimal that reads back has fewer digits than the shortest one;
- `dist_shortest_le`: none of those with as few digits is nearer.
-/

namespace ScalarServer.Decimal

open Text Floating

variable {fmt : Format} {n : Nat} {d : Decimal}

/-! ## Coarser steps -/

/-- If neither neighbour of a magnitude reads back, no multiple of these steps does. -/
theorem not_roundsTo_mul {k : ℤ}
    (hlow : ¬ RoundsTo fmt (neighbours (fmt.ratio n).1 (fmt.ratio n).2 k).1.value n)
    (hhigh : ¬ RoundsTo fmt (neighbours (fmt.ratio n).1 (fmt.ratio n).2 k).2.value n) (c : Nat) :
    ¬ RoundsTo fmt (c * 10 ^ k) n := by
  intro hc
  obtain ⟨hle, hlt, hstep⟩ := neighbours_spec (fmt.ratio n).1 (fmt.ratio_snd_pos n).ne' k
  rw [Format.ratio_div] at hle hlt
  -- a neighbour would lie between the multiple and the magnitude itself
  rcases le_or_le_of_step rfl hstep c with hbelow | habove
  · exact hlow (hc.between (roundsTo_magnitude n) hbelow hle)
  · exact hhigh ((roundsTo_magnitude n).between hc hlt.le habove)

/-- The search ends in its first steps, with one of the neighbours, or in finer ones, where no
multiple of the next coarser ones reads back. -/
theorem search_cases (hfmt : fmt.Standard) (tie : Tie) (n : Nat) (k : ℤ) (steps : Nat) :
    ((search fmt tie (n + 1) k steps).exponent = k ∧
        (search fmt tie (n + 1) k steps).coefficient ≤
          (neighbours (fmt.ratio (n + 1)).1 (fmt.ratio (n + 1)).2 k).1.coefficient + 1) ∨
      (search fmt tie (n + 1) k steps).exponent < k ∧
        ∀ c : Nat, ¬ RoundsTo fmt (c * 10 ^ ((search fmt tie (n + 1) k steps).exponent + 1))
          (n + 1) := by
  induction steps generalizing k with
  | zero => exact .inl ⟨rfl, Nat.le_succ _⟩
  | succ steps ih =>
    rcases search_succ_cases hfmt tie n k steps with ⟨-, h | h⟩ | ⟨hlow, hhigh, h⟩
    · rw [h]
      exact .inl ⟨rfl, Nat.le_succ _⟩
    · rw [h]
      exact .inl ⟨rfl, le_rfl⟩
    · rw [h]
      -- the steps that have just failed are the next coarser ones for the following round
      rcases ih (k - 1) with ⟨hexponent, -⟩ | ⟨hlt, hcoarser⟩
      · rw [hexponent, sub_add_cancel]
        exact .inr ⟨sub_one_lt k, not_roundsTo_mul hlow hhigh⟩
      · exact .inr ⟨hlt.trans (sub_one_lt k), hcoarser⟩

/-- A coefficient without a trailing zero is left as it is. -/
theorem stripZeros_of_mod_ne (fuel : Nat) (h : d.coefficient % 10 ≠ 0) : stripZeros fuel d = d := by
  cases fuel with
  | zero => rfl
  | succ fuel => rw [stripZeros, if_neg fun hzeros => h hzeros.2]

/-! ## The first steps -/

/-- The power of ten that is found is the greatest one that is not above the quotient. -/
theorem lt_log10Quotient (num : Nat) {den : Nat} (hden : den ≠ 0) :
    (num : ℚ) / den < 10 ^ (log10Quotient num den + 1) := by
  simp only [log10Quotient, tenPow_eq]
  generalize (digitsOf den).length = s
  have hlt := lt_pow_length_digitsOf (num * 10 ^ s / den)
  have hpos := length_digitsOf_pos (num * 10 ^ s / den)
  obtain ⟨-, hceil⟩ := natDiv_bounds (num * 10 ^ s) (Nat.pos_of_ne_zero hden)
  generalize (digitsOf (num * 10 ^ s / den)).length = k at hlt hpos
  generalize num * 10 ^ s / den = q at hlt hceil
  -- shifted by `s` digits, the quotient has `k` digits before the point
  have hbound : ((num * 10 ^ s : Nat) : ℚ) / den < 10 ^ k :=
    hceil.trans_le (by exact_mod_cast hlt)
  have hexponent : (10 : ℚ) ^ ((k : ℤ) - 1 - s + 1) = 10 ^ k / 10 ^ s := by
    rw [sub_add_eq_add_sub, sub_add_cancel, zpow_sub₀ (by norm_num), zpow_natCast, zpow_natCast]
  rw [hexponent, lt_div_iff₀ (by positivity)]
  calc (num : ℚ) / den * 10 ^ s = ((num * 10 ^ s : Nat) : ℚ) / den := by
        push_cast
        ring
    _ < 10 ^ k := hbound

/-- A magnitude is less than the next power of ten after the one that the search begins with. -/
theorem lt_pow_firstExponent (fmt : Format) (n : Nat) :
    fmt.magnitude n < 10 ^ (firstExponent fmt n + 1) := by
  rw [← Format.ratio_div]
  exact lt_log10Quotient _ (fmt.ratio_snd_pos n).ne'

/-- In the first steps one digit is left. -/
theorem coefficient_neighbours_lt (fmt : Format) (n : Nat) :
    (neighbours (fmt.ratio n).1 (fmt.ratio n).2 (firstExponent fmt n)).1.coefficient < 10 := by
  have hscale : (0 : ℚ) < 10 ^ firstExponent fmt n := zpow_pos (by norm_num) _
  obtain ⟨hle, -, -⟩ :=
    neighbours_spec (fmt.ratio n).1 (fmt.ratio_snd_pos n).ne' (firstExponent fmt n)
  rw [Format.ratio_div] at hle
  have hlt := hle.trans_lt (lt_pow_firstExponent fmt n)
  rw [zpow_add_one₀ (by norm_num), mul_comm ((10 : ℚ) ^ firstExponent fmt n)] at hlt
  exact_mod_cast lt_of_mul_lt_mul_right hlt hscale.le

/-- Ten loses its zero, so that one digit is left of it as well. -/
theorem length_digits_stripZeros (h : d.coefficient ≤ 10) :
    (stripZeros (digitsOf d.coefficient).length d).digits.length = 1 := by
  obtain ⟨fuel, hfuel⟩ := Nat.exists_eq_add_of_lt (length_digitsOf_pos d.coefficient)
  rw [hfuel]
  have hlt : (stripZeros (0 + fuel + 1) d).coefficient < 10 := by
    rw [stripZeros]
    split
    · rename_i hzeros
      have hone : d.coefficient / 10 = 1 := by omega
      rw [hone, stripZeros_of_mod_ne _ (show 1 % 10 ≠ 0 by decide)]
      exact Nat.one_lt_ofNat
    · omega
  exact le_antisymm ((length_digitsOf_le_iff one_pos).mpr hlt) (length_digitsOf_pos _)

/-! ## The fewest digits -/

/-- Every decimal is a multiple of all steps that are not coarser than its own. -/
theorem exists_value_eq_mul (d : Decimal) {k : ℤ} (h : k ≤ d.exponent) :
    ∃ c : Nat, d.value = c * 10 ^ k := by
  obtain ⟨j, hj⟩ := Int.le.dest h
  refine ⟨d.coefficient * 10 ^ j, ?_⟩
  rw [value, ← hj, zpow_add₀ (by norm_num), zpow_natCast]
  push_cast
  ring

/-- The decimal that is found has one digit and is in the first steps, or it is in finer ones, and
is the shortest decimal itself, as no decimal in coarser steps reads back. -/
theorem shortest_cases (hfmt : fmt.Standard) (tie : Tie) (n : Nat) :
    (shortest fmt tie (n + 1)).digits.length = 1 ∧
        (found fmt tie (n + 1)).exponent = firstExponent fmt (n + 1) ∨
      shortest fmt tie (n + 1) = found fmt tie (n + 1) ∧
        (found fmt tie (n + 1)).exponent < firstExponent fmt (n + 1) ∧
        ∀ other : Decimal, RoundsTo fmt other.value (n + 1) →
          other.exponent ≤ (found fmt tie (n + 1)).exponent := by
  have hround := (found_spec hfmt tie n).reads
  have hten := coefficient_neighbours_lt fmt (n + 1)
  rw [shortest_succ]
  rcases search_cases hfmt tie n (firstExponent fmt (n + 1)) fmt.precision with
    ⟨hexponent, hcoefficient⟩ | ⟨hlt, hcoarser⟩
  · exact .inl ⟨length_digits_stripZeros (hcoefficient.trans (by omega)), hexponent⟩
  · have hcoarsest : ∀ other : Decimal, RoundsTo fmt other.value (n + 1) →
        other.exponent ≤ (found fmt tie (n + 1)).exponent := by
      intro other hother
      by_contra hfiner
      obtain ⟨c, hc⟩ :=
        other.exists_value_eq_mul (k := (found fmt tie (n + 1)).exponent + 1) (by omega)
      exact hcoarser c (hc ▸ hother)
    -- so there is no trailing zero to be stripped
    have hzero : (found fmt tie (n + 1)).coefficient % 10 ≠ 0 := fun hmod =>
      absurd (hcoarsest ⟨(found fmt tie (n + 1)).coefficient / 10,
        (found fmt tie (n + 1)).exponent + 1⟩ ((value_div_ten hmod).symm ▸ hround)) (by simp)
    exact .inr ⟨stripZeros_of_mod_ne _ hzero, hlt, hcoarsest⟩

/-- A decimal has the fewest digits of all that read back, if none of them has coarser steps. -/
theorem length_digits_le_of_coarsest {coarsest : Decimal} (hround : RoundsTo fmt coarsest.value n)
    (hcoarsest : ∀ other : Decimal, RoundsTo fmt other.value n →
      other.exponent ≤ coarsest.exponent)
    (h : RoundsTo fmt d.value n) : coarsest.digits.length ≤ d.digits.length := by
  by_contra hlt
  have hpos : 0 < d.digits.length := length_digitsOf_pos d.coefficient
  have hne : coarsest.coefficient ≠ 0 := coefficient_ne_zero (by omega)
  have hexponent := hcoarsest d h
  -- the power of ten of the first digit lies between the two, and has coarser steps
  have hbelow : d.value ≤ 10 ^ coarsest.scientificExponent := by
    refine d.value_lt_pow.le.trans (zpow_le_zpow_right₀ (by norm_num) ?_)
    simp only [scientificExponent]
    omega
  have hpower : RoundsTo fmt (⟨1, coarsest.scientificExponent⟩ : Decimal).value n := by
    rw [value_one]
    exact h.between hround hbelow (pow_scientificExponent_le hne)
  have hcoarser := hcoarsest _ hpower
  simp only [scientificExponent] at hcoarser
  omega

/-- No decimal that is rounded to an ordinal has fewer digits than the shortest one. -/
theorem length_digits_shortest_le (hfmt : fmt.Standard) (tie : Tie) (h : RoundsTo fmt d.value n) :
    (shortest fmt tie n).digits.length ≤ d.digits.length := by
  have hpos : 1 ≤ d.digits.length := length_digitsOf_pos d.coefficient
  cases n with
  | zero =>
    rw [shortest, if_pos rfl]
    exact hpos
  | succ n =>
    rcases shortest_cases hfmt tie n with ⟨hone, -⟩ | ⟨hfound, -, hcoarsest⟩
    · rw [hone]
      exact hpos
    · rw [hfound]
      exact length_digits_le_of_coarsest (found_spec hfmt tie n).reads hcoarsest h

/-! ## The nearest decimal with the fewest digits -/

/-- The first digit of the shortest decimal is at most at the power of ten that the search begins
with. -/
theorem length_add_exponent_le (hfmt : fmt.Standard) (tie : Tie) (n : Nat) :
    ((shortest fmt tie (n + 1)).digits.length : ℤ) + (found fmt tie (n + 1)).exponent ≤
      firstExponent fmt (n + 1) + 1 := by
  rcases shortest_cases hfmt tie n with ⟨hone, hfirst⟩ | ⟨hfound, hlt, hcoarsest⟩
  · rw [hone, hfirst]
    omega
  · rw [hfound]
    by_contra hlong
    have hne : (found fmt tie (n + 1)).coefficient ≠ 0 := coefficient_ne_zero (by omega)
    -- else the next power of ten would lie between the magnitude and the decimal
    have hpower : RoundsTo fmt (⟨1, firstExponent fmt (n + 1) + 1⟩ : Decimal).value (n + 1) := by
      rw [value_one]
      refine (roundsTo_magnitude _).between (found_spec hfmt tie n).reads
        (lt_pow_firstExponent fmt (n + 1)).le (le_trans ?_ (pow_scientificExponent_le hne))
      refine zpow_le_zpow_right₀ (by norm_num) ?_
      rw [scientificExponent]
      omega
    have hcoarser := hcoarsest _ hpower
    simp only at hcoarser
    omega

/-- No decimal that is rounded to an ordinal and has as few digits as the shortest one is nearer. -/
theorem dist_shortest_le (hfmt : fmt.Standard) (tie : Tie) (h : RoundsTo fmt d.value n)
    (hdigits : d.digits.length ≤ (shortest fmt tie n).digits.length) :
    |(shortest fmt tie n).value - fmt.magnitude n| ≤ |d.value - fmt.magnitude n| := by
  cases n with
  | zero =>
    rw [value_shortest_zero, sub_self, abs_zero]
    exact abs_nonneg _
  | succ n =>
    have hlength := length_add_exponent_le hfmt tie n
    have hpos : 0 < (shortest fmt tie (n + 1)).digits.length := length_digitsOf_pos _
    have hnearest := (found_spec hfmt tie n).nearest
    rw [value_shortest_succ]
    rcases le_or_gt (found fmt tie (n + 1)).exponent d.exponent with hcoarse | hfine
    · obtain ⟨c, hc⟩ := d.exists_value_eq_mul hcoarse
      rw [hc] at h ⊢
      exact hnearest c h
    · -- with finer steps and as few digits, it is below a power of ten that is not above the
      -- magnitude, and so is the better choice
      have hfirst := pow_firstExponent_le fmt n
      have hbelow : d.value ≤ 10 ^ firstExponent fmt (n + 1) := by
        refine d.value_lt_pow.le.trans (zpow_le_zpow_right₀ (by norm_num) ?_)
        rw [scientificExponent]
        omega
      obtain ⟨c, hc⟩ := (⟨1, firstExponent fmt (n + 1)⟩ : Decimal).exists_value_eq_mul
        (k := (found fmt tie (n + 1)).exponent) (by simp only; omega)
      rw [value_one] at hc
      calc |(found fmt tie (n + 1)).value - fmt.magnitude (n + 1)|
          ≤ |10 ^ firstExponent fmt (n + 1) - fmt.magnitude (n + 1)| :=
            hc ▸ hnearest c (hc ▸ h.between (roundsTo_magnitude _) hbelow hfirst)
        _ ≤ |d.value - fmt.magnitude (n + 1)| :=
            Set.abs_sub_left_of_mem_uIcc (Set.mem_uIcc_of_ge hbelow hfirst)

end ScalarServer.Decimal
