import Mathlib.Algebra.Order.Group.Pointwise.Interval
import ScalarServer.Proofs.Decimal.Value
import ScalarServer.Proofs.Floating.Nearest

/-!
# The shortest decimal reads back

The search for a decimal goes from coarse steps to fine ones, and ends before the steps are as
fine as the spacing of the format. The main facts are:

- `readsAs_iff`: what the search tests is whether a decimal is rounded to the ordinal;
- `found_search`: the search ends with such a decimal, the nearest one in its steps;
- `roundsTo_shortest`: the shortest decimal of a magnitude is rounded to it;
- `exists_grid_shortest`: for an odd ordinal, it is also the nearest one in steps of a power of
  ten.
-/

namespace ScalarServer.Decimal

open Floating

variable {fmt : Format} {tie : Tie} {n num den : Nat} {d : Decimal}

/-! ## The test for reading back -/

/-- With one more digit, midpoints are magnitudes. -/
theorem magnitude_withMidpoints (hfmt : fmt.Standard) (n : Nat) :
    (withMidpoints fmt).magnitude (2 * n + 1) = fmt.midpoint n := by
  have hprecision := hfmt.two_le_precision
  have hbinade : (withMidpoints fmt).binade = 2 * fmt.binade := by
    simp only [withMidpoints, Format.binade, twoPow_eq, Nat.add_sub_cancel]
    rw [← Nat.pow_succ', Nat.succ_eq_add_one, Nat.sub_add_cancel (by omega)]
  have hexponent : (withMidpoints fmt).minExponent = fmt.minExponent - 1 := by
    simp only [withMidpoints, Format.minExponent]
    omega
  have hlt := fmt.significand_lt n
  have hsum := fmt.significand_add_mul_binade n
  have hodd : 2 * n + 1 =
      2 * fmt.significand n + 1 + (n / fmt.binade - 1) * (withMidpoints fmt).binade := by
    rw [hbinade]
    linarith
  rw [hodd, Format.magnitude_add_mul_binade _ (by omega)
    ((Format.binade_le_significand _ n).imp_right (by omega)), hexponent, Format.midpoint,
    Format.magnitude, Format.spacing, Format.exponent, sub_add_eq_add_sub,
    zpow_sub_one₀ two_ne_zero]
  push_cast
  ring

/-- A decimal passes the test exactly if it is rounded to the ordinal. -/
theorem readsAs_iff (hfmt : fmt.Standard) :
    readsAs fmt (n + 1) d = true ↔ RoundsTo fmt d.value (n + 1) := by
  have hlow : (((withMidpoints fmt).ratio (2 * (n + 1) - 1)).1 : ℚ) /
      ((withMidpoints fmt).ratio (2 * (n + 1) - 1)).2 = fmt.midpoint n := by
    rw [Format.ratio_div, show 2 * (n + 1) - 1 = 2 * n + 1 by omega, magnitude_withMidpoints hfmt]
  have hhigh : (((withMidpoints fmt).ratio (2 * (n + 1) + 1)).1 : ℚ) /
      ((withMidpoints fmt).ratio (2 * (n + 1) + 1)).2 = fmt.midpoint (n + 1) := by
    rw [Format.ratio_div, magnitude_withMidpoints hfmt]
  have heven : ((n + 1) % 2 == 0) = true ↔ Even (n + 1) := by
    rw [beq_iff_eq, Nat.even_iff]
  simp only [readsAs, Bool.and_eq_true, Bool.or_eq_true, beq_iff_eq (a := compareRatios _ _),
    compareRatios_eq_lt_iff (Format.ratio_snd_pos _ _) (ratio_snd_pos d),
    compareRatios_eq_eq_iff (Format.ratio_snd_pos _ _) (ratio_snd_pos d),
    compareRatios_eq_lt_iff (ratio_snd_pos d) (Format.ratio_snd_pos _ _),
    compareRatios_eq_eq_iff (ratio_snd_pos d) (Format.ratio_snd_pos _ _), ratio_div, hlow, hhigh,
    heven]
  constructor
  · rintro ⟨habove, hbelow⟩
    refine ⟨?_, hbelow⟩
    rintro m ⟨⟩
    exact habove
  · intro h
    exact ⟨h.above n rfl, h.below⟩

/-! ## Neighbours in steps of a power of ten -/

/-- A quotient lies between its neighbours, which are one step apart. -/
theorem neighbours_spec (num : Nat) (hden : den ≠ 0) (k : ℤ) :
    (neighbours num den k).1.value ≤ num / den ∧
      (num : ℚ) / den < (neighbours num den k).2.value ∧
      (neighbours num den k).2.value = (neighbours num den k).1.value + 10 ^ k := by
  have hscale : (0 : ℚ) < 10 ^ k := zpow_pos (by norm_num) _
  have hden' : 0 < den * tenPow k.toNat :=
    Nat.mul_pos (Nat.pos_of_ne_zero hden) (Nat.pow_pos (by decide))
  obtain ⟨hfloor, hceil⟩ := natDiv_bounds (num * tenPow (-k).toNat) hden'
  have hquotient : ((num * tenPow (-k).toNat : Nat) : ℚ) / (den * tenPow k.toNat : Nat) =
      num / den / 10 ^ k := by
    simp only [zpow_eq_div 10 k, tenPow_eq]
    push_cast
    rw [div_div_div_eq]
  rw [hquotient] at hfloor hceil
  simp only [neighbours, value]
  refine ⟨(le_div_iff₀ hscale).mp hfloor, ?_, ?_⟩
  · rw [← div_lt_iff₀ hscale]
    exact_mod_cast hceil
  · push_cast
    ring

/-- What the search looks for: a decimal that is rounded to the ordinal, and nothing in the same
steps that does so is nearer. For an odd ordinal, nothing at all in these steps is nearer. -/
structure Found (fmt : Format) (n : Nat) (d : Decimal) : Prop where
  /-- It is rounded to the ordinal. -/
  reads : RoundsTo fmt d.value n
  /-- Nothing in the same steps that is rounded to the ordinal is nearer. -/
  nearest : ∀ c : Nat, RoundsTo fmt (c * 10 ^ d.exponent) n →
    |d.value - fmt.magnitude n| ≤ |c * 10 ^ d.exponent - fmt.magnitude n|
  /-- For an odd ordinal, it is at most half a step away. -/
  near : ¬ Even n → 2 * |d.value - fmt.magnitude n| ≤ 10 ^ d.exponent

variable {low high : Decimal} {k : ℤ}

/-- There is nothing in the same steps between a decimal and the one a step above it. -/
theorem le_or_le_of_step (hk : low.exponent = k) (hstep : high.value = low.value + 10 ^ k)
    (c : Nat) : c * 10 ^ k ≤ low.value ∨ high.value ≤ c * 10 ^ k := by
  have hscale : (0 : ℚ) < 10 ^ k := zpow_pos (by norm_num) _
  have hlow : low.value = low.coefficient * 10 ^ k := by rw [value, hk]
  rcases Nat.lt_or_ge low.coefficient c with hlt | hle
  · have hhigh : high.value = (low.coefficient + 1 : Nat) * 10 ^ k := by
      rw [hstep, hlow]
      push_cast
      ring
    rw [hhigh]
    exact .inr (mul_le_mul_of_nonneg_right (by exact_mod_cast hlt) hscale.le)
  · rw [hlow]
    exact .inl (mul_le_mul_of_nonneg_right (by exact_mod_cast hle) hscale.le)

/-- The decimal below is the nearest one in its steps, unless the one above reads back as well and
is nearer. -/
theorem dist_low_le (hk : low.exponent = k) (hle : low.value ≤ fmt.magnitude n)
    (hlt : fmt.magnitude n < high.value) (hstep : high.value = low.value + 10 ^ k)
    (hnear : RoundsTo fmt high.value n → 2 * fmt.magnitude n ≤ 2 * low.value + 10 ^ k) (c : Nat)
    (hc : RoundsTo fmt (c * 10 ^ k) n) :
    |low.value - fmt.magnitude n| ≤ |c * 10 ^ k - fmt.magnitude n| := by
  rcases le_or_le_of_step hk hstep c with hbelow | habove
  · exact Set.abs_sub_left_of_mem_uIcc (Set.mem_uIcc_of_ge hbelow hle)
  · -- the decimal above lies between the magnitude and what reads back
    have hmid := hnear ((roundsTo_magnitude n).between hc hlt.le habove)
    calc |low.value - fmt.magnitude n| = fmt.magnitude n - low.value := by
          rw [abs_sub_comm, abs_of_nonneg (sub_nonneg.mpr hle)]
      _ ≤ c * 10 ^ k - fmt.magnitude n := by linarith
      _ ≤ |c * 10 ^ k - fmt.magnitude n| := le_abs_self _

/-- The decimal above is the nearest one in its steps, unless the one below reads back as well and
is nearer. -/
theorem dist_high_le (hk : low.exponent = k) (hle : low.value ≤ fmt.magnitude n)
    (hlt : fmt.magnitude n < high.value) (hstep : high.value = low.value + 10 ^ k)
    (hnear : RoundsTo fmt low.value n → 2 * low.value + 10 ^ k ≤ 2 * fmt.magnitude n) (c : Nat)
    (hc : RoundsTo fmt (c * 10 ^ k) n) :
    |high.value - fmt.magnitude n| ≤ |c * 10 ^ k - fmt.magnitude n| := by
  rcases le_or_le_of_step hk hstep c with hbelow | habove
  · have hmid := hnear (hc.between (roundsTo_magnitude n) hbelow hle)
    calc |high.value - fmt.magnitude n| = high.value - fmt.magnitude n :=
          abs_of_nonneg (sub_nonneg.mpr hlt.le)
      _ ≤ -(c * 10 ^ k - fmt.magnitude n) := by linarith
      _ ≤ |c * 10 ^ k - fmt.magnitude n| := neg_le_abs _
  · exact Set.abs_sub_left_of_mem_uIcc (Set.mem_uIcc_of_le hlt.le habove)

/-- Where the decimal above does not read back, the one below is nearer to an odd ordinal. -/
theorem Found.of_low (hlow : RoundsTo fmt low.value n) (hhigh : ¬ RoundsTo fmt high.value n)
    (hk : low.exponent = k) (hle : low.value ≤ fmt.magnitude n)
    (hlt : fmt.magnitude n < high.value) (hstep : high.value = low.value + 10 ^ k) :
    Found fmt n low := by
  refine ⟨hlow, ?_, fun _ => ?_⟩
  · rw [hk]
    exact dist_low_le hk hle hlt hstep fun h => absurd h hhigh
  have hdist := hlow.dist_le low.value_nonneg
  -- the decimal above is beyond the midpoint, which is half of the spacing away
  have hmid : fmt.midpoint n ≤ high.value := by
    by_contra hinside
    refine hhigh (.of_lt_of_lt (fun m hm => ?_) (not_le.mp hinside))
    exact (hm ▸ Format.midpoint_lt_magnitude_succ _ m).trans hlt
  rw [Format.midpoint] at hmid
  rw [abs_sub_comm, abs_of_nonneg (sub_nonneg.mpr hle)] at hdist ⊢
  rw [hk]
  linarith

/-- Where the decimal below does not read back, the one above is nearer to an odd ordinal, as the
midpoints on both sides are equally far away. -/
theorem Found.of_high (hfmt : fmt.Standard) (hlow : ¬ RoundsTo fmt low.value n)
    (hhigh : RoundsTo fmt high.value n) (hk : low.exponent = k) (hk' : high.exponent = k)
    (hle : low.value ≤ fmt.magnitude n) (hlt : fmt.magnitude n < high.value)
    (hstep : high.value = low.value + 10 ^ k) : Found fmt n high := by
  refine ⟨hhigh, ?_, fun hodd => ?_⟩
  · rw [hk']
    exact dist_high_le hk hle hlt hstep fun h => absurd h hlow
  have hdist := hhigh.dist_le high.value_nonneg
  have hmid : low.value ≤ fmt.magnitude n - fmt.spacing n / 2 := by
    by_contra hinside
    refine hlow (.of_lt_of_lt ?_ (hle.trans_lt (Format.magnitude_lt_midpoint _ n)))
    rintro m rfl
    rw [Format.midpoint, Format.spacing_of_odd hfmt hodd]
    have hsucc := fmt.magnitude_succ m
    rw [Format.spacing_of_odd hfmt hodd] at hsucc
    linarith
  rw [abs_of_nonneg (sub_nonneg.mpr hlt.le)] at hdist ⊢
  rw [hk']
  linarith

/-- Where both read back, the nearer one is taken. -/
theorem Found.of_nearer (tie : Tie) (hlow : RoundsTo fmt low.value n)
    (hhigh : RoundsTo fmt high.value n) (hk : low.exponent = k) (hk' : high.exponent = k)
    (hle : low.value ≤ fmt.magnitude n) (hlt : fmt.magnitude n < high.value)
    (hstep : high.value = low.value + 10 ^ k) :
    Found fmt n (nearer tie (fmt.ratio n) low high) := by
  -- the magnitude is compared with the middle between the two, both doubled
  have hdouble : ((2 * (fmt.ratio n).1 : Nat) : ℚ) / (fmt.ratio n).2 = 2 * fmt.magnitude n := by
    rw [← Format.ratio_div]
    push_cast
    ring
  have hmiddle : (⟨2 * low.coefficient + 1, low.exponent⟩ : Decimal).value =
      2 * low.value + 10 ^ k := by
    rw [value, value, ← hk]
    push_cast
    ring
  have hlowNear : 2 * fmt.magnitude n ≤ 2 * low.value + 10 ^ k → Found fmt n low := by
    refine fun h => ⟨hlow, ?_, fun _ => ?_⟩
    · rw [hk]
      exact dist_low_le hk hle hlt hstep fun _ => h
    · rw [abs_sub_comm, abs_of_nonneg (sub_nonneg.mpr hle), hk]
      linarith
  have hhighNear : 2 * low.value + 10 ^ k ≤ 2 * fmt.magnitude n → Found fmt n high := by
    refine fun h => ⟨hhigh, ?_, fun _ => ?_⟩
    · rw [hk']
      exact dist_high_le hk hle hlt hstep fun _ => h
    · rw [abs_of_nonneg (sub_nonneg.mpr hlt.le), hk']
      linarith
  have hpos : 0 < (2 * (fmt.ratio n).1, (fmt.ratio n).2).2 := Format.ratio_snd_pos _ n
  have hpos' := ratio_snd_pos ⟨2 * low.coefficient + 1, low.exponent⟩
  simp only [Decimal.nearer]
  split
  · rename_i hcompare
    rw [compareRatios_eq_lt_iff hpos hpos', ratio_div, hdouble, hmiddle] at hcompare
    exact hlowNear hcompare.le
  · rename_i hcompare
    rw [compareRatios_eq_gt_iff hpos hpos', ratio_div, hdouble, hmiddle] at hcompare
    exact hhighNear hcompare.le
  · rename_i hcompare
    rw [compareRatios_eq_eq_iff hpos hpos', ratio_div, hdouble, hmiddle] at hcompare
    cases tie with
    | up => exact hhighNear hcompare.ge
    | even =>
      dsimp only
      split
      · exact hlowNear hcompare.le
      · exact hhighNear hcompare.ge

/-! ## The search -/

/-- The nearer one of two decimals is one of them. -/
theorem nearer_eq_or_eq (tie : Tie) (value : Nat × Nat) (low high : Decimal) :
    nearer tie value low high = low ∨ nearer tie value low high = high := by
  simp only [nearer]
  split
  · exact .inl rfl
  · exact .inr rfl
  · cases tie with
    | up => exact .inr rfl
    | even => exact ite_eq_or_eq _ _ _

/-- One round of the search. -/
theorem search_succ (fmt : Format) (tie : Tie) (n : Nat) (k : ℤ) (steps : Nat) :
    search fmt tie n k (steps + 1) =
      match readsAs fmt n (neighbours (fmt.ratio n).1 (fmt.ratio n).2 k).1,
        readsAs fmt n (neighbours (fmt.ratio n).1 (fmt.ratio n).2 k).2 with
      | true, true => nearer tie (fmt.ratio n) (neighbours (fmt.ratio n).1 (fmt.ratio n).2 k).1
          (neighbours (fmt.ratio n).1 (fmt.ratio n).2 k).2
      | true, false => (neighbours (fmt.ratio n).1 (fmt.ratio n).2 k).1
      | false, true => (neighbours (fmt.ratio n).1 (fmt.ratio n).2 k).2
      | false, false => search fmt tie n (k - 1) steps := by
  rfl

/-- Steps in which one of the neighbours reads back end the search with one of them; else the search
goes on in finer steps. -/
theorem search_succ_cases (hfmt : fmt.Standard) (tie : Tie) (n : Nat) (k : ℤ) (steps : Nat) :
    Found fmt (n + 1) (search fmt tie (n + 1) k (steps + 1)) ∧
        (search fmt tie (n + 1) k (steps + 1) =
            (neighbours (fmt.ratio (n + 1)).1 (fmt.ratio (n + 1)).2 k).1 ∨
          search fmt tie (n + 1) k (steps + 1) =
            (neighbours (fmt.ratio (n + 1)).1 (fmt.ratio (n + 1)).2 k).2) ∨
      ¬ RoundsTo fmt
          (neighbours (fmt.ratio (n + 1)).1 (fmt.ratio (n + 1)).2 k).1.value (n + 1) ∧
        ¬ RoundsTo fmt
          (neighbours (fmt.ratio (n + 1)).1 (fmt.ratio (n + 1)).2 k).2.value (n + 1) ∧
        search fmt tie (n + 1) k (steps + 1) = search fmt tie (n + 1) (k - 1) steps := by
  obtain ⟨hle, hlt, hstep⟩ :=
    neighbours_spec (fmt.ratio (n + 1)).1 (fmt.ratio_snd_pos (n + 1)).ne' k
  rw [Format.ratio_div] at hle hlt
  have hk : (neighbours (fmt.ratio (n + 1)).1 (fmt.ratio (n + 1)).2 k).1.exponent = k := rfl
  have hk' : (neighbours (fmt.ratio (n + 1)).1 (fmt.ratio (n + 1)).2 k).2.exponent = k := rfl
  rw [search_succ]
  generalize neighbours (fmt.ratio (n + 1)).1 (fmt.ratio (n + 1)).2 k = pair at *
  obtain ⟨low, high⟩ := pair
  dsimp only
  cases hlow : readsAs fmt (n + 1) low <;> cases hhigh : readsAs fmt (n + 1) high <;>
    simp only [← Bool.not_eq_true, readsAs_iff hfmt] at hlow hhigh
  · exact .inr ⟨hlow, hhigh, rfl⟩
  · exact .inl ⟨.of_high hfmt hlow hhigh hk hk' hle hlt hstep, .inr rfl⟩
  · exact .inl ⟨.of_low hlow hhigh hk hle hlt hstep, .inl rfl⟩
  · exact .inl ⟨.of_nearer tie hlow hhigh hk hk' hle hlt hstep, nearer_eq_or_eq _ _ _ _⟩

/-- The search finds a decimal, if its last steps are finer than half of the spacing. -/
theorem found_search (hfmt : fmt.Standard) (steps : Nat) (k : ℤ)
    (hfine : (10 : ℚ) ^ k < 10 ^ steps * (fmt.spacing (n + 1) / 2)) :
    Found fmt (n + 1) (search fmt tie (n + 1) k (steps + 1)) := by
  induction steps generalizing k with
  | zero =>
    refine ((search_succ_cases hfmt tie n k 0).resolve_right
      fun ⟨_, hhigh, _⟩ => hhigh ?_).1
    -- the decimal above is less than one step above the magnitude, and so below the midpoint
    obtain ⟨hle, hlt, hstep⟩ :=
      neighbours_spec (fmt.ratio (n + 1)).1 (fmt.ratio_snd_pos (n + 1)).ne' k
    rw [Format.ratio_div] at hle hlt
    refine .of_lt_of_lt (fun m hm => ?_) ?_
    · exact (hm ▸ Format.midpoint_lt_magnitude_succ _ m).trans hlt
    · rw [pow_zero, one_mul] at hfine
      rw [Format.midpoint]
      linarith
  | succ steps ih =>
    rcases search_succ_cases hfmt tie n k (steps + 1) with ⟨h, -⟩ | ⟨-, -, h⟩
    · exact h
    · rw [h]
      refine ih (k - 1) ?_
      rw [zpow_sub_one₀ (by norm_num), ← div_eq_mul_inv, div_lt_iff₀ (by norm_num)]
      calc (10 : ℚ) ^ k < 10 ^ (steps + 1) * (fmt.spacing (n + 1) / 2) := hfine
        _ = 10 ^ steps * (fmt.spacing (n + 1) / 2) * 10 := by ring

/-- A trailing zero can be taken off the coefficient. -/
theorem value_div_ten (h : d.coefficient % 10 = 0) :
    (⟨d.coefficient / 10, d.exponent + 1⟩ : Decimal).value = d.value := by
  have hten : ((d.coefficient / 10 : Nat) : ℚ) * 10 = d.coefficient := by
    exact_mod_cast Nat.div_mul_cancel (Nat.dvd_of_mod_eq_zero h)
  rw [value, value, zpow_add_one₀ (by norm_num), ← hten]
  ring

/-- A decimal keeps its value when it loses trailing zeros. -/
theorem value_stripZeros (fuel : Nat) (d : Decimal) : (stripZeros fuel d).value = d.value := by
  fun_induction stripZeros fuel d with
  | case1 d => rfl
  | case2 fuel d h ih => rw [ih, value_div_ten h.2]
  | case3 fuel d h => rfl

/-- As many digits as the format has binary ones are enough. -/
theorem two_pow_le_ten_pow {p : Nat} (hp : 2 ≤ p) : 2 ^ (p + 1) ≤ 10 ^ (p - 1) := by
  obtain ⟨q, rfl⟩ := Nat.exists_eq_add_of_le' hp
  rw [show q + 2 - 1 = q + 1 by omega]
  calc 2 ^ (q + 2 + 1) = 8 * 2 ^ q := by ring
    _ ≤ 10 * 10 ^ q := Nat.mul_le_mul (by decide) (Nat.pow_le_pow_left (by decide) q)
    _ = 10 ^ (q + 1) := by ring

/-- The exponent that the search begins with. -/
def firstExponent (fmt : Format) (n : Nat) : Int :=
  log10Quotient (fmt.ratio n).1 (fmt.ratio n).2

/-- The power of ten that the search begins with is not above a positive magnitude. -/
theorem pow_firstExponent_le (fmt : Format) (n : Nat) :
    (10 : ℚ) ^ firstExponent fmt (n + 1) ≤ fmt.magnitude (n + 1) := by
  have hpos : 0 < fmt.magnitude (n + 1) :=
    (Format.magnitude_nonneg _ n).trans_lt (Format.magnitude_strictMono n.lt_succ_self)
  have hnum : (fmt.ratio (n + 1)).1 ≠ 0 := by
    intro hzero
    rw [← Format.ratio_div, hzero, Nat.cast_zero, zero_div] at hpos
    exact hpos.false
  have hlog := log10Quotient_spec hnum (fmt.ratio_snd_pos (n + 1)).ne'
  rwa [Format.ratio_div] at hlog

/-- The decimal that the search finds, which can have trailing zeros. -/
def found (fmt : Format) (tie : Tie) (n : Nat) : Decimal :=
  search fmt tie n (firstExponent fmt n) fmt.precision

theorem shortest_succ (fmt : Format) (tie : Tie) (n : Nat) : shortest fmt tie (n + 1) =
    stripZeros (Text.digitsOf (found fmt tie (n + 1)).coefficient).length (found fmt tie (n + 1)) :=
  if_neg n.succ_ne_zero

theorem value_shortest_succ (fmt : Format) (tie : Tie) (n : Nat) :
    (shortest fmt tie (n + 1)).value = (found fmt tie (n + 1)).value := by
  rw [shortest_succ, value_stripZeros]

/-- The search finds what it looks for. -/
theorem found_spec (hfmt : fmt.Standard) (tie : Tie) (n : Nat) :
    Found fmt (n + 1) (found fmt tie (n + 1)) := by
  have hprecision := hfmt.two_le_precision
  have hlog := pow_firstExponent_le fmt n
  rw [found, show fmt.precision = fmt.precision - 1 + 1 by omega]
  refine found_search hfmt _ _ ?_
  -- the magnitude is less than a power of two of spacings, and so than a power of ten of them
  have hsignificand : (fmt.significand (n + 1) : ℚ) < 2 ^ (fmt.precision + 1) / 2 := by
    have hlt := fmt.significand_lt (n + 1)
    rw [Format.binade, twoPow_eq, ← Nat.pow_succ', Nat.succ_eq_add_one,
      Nat.sub_add_cancel (by omega)] at hlt
    rw [pow_succ, mul_div_cancel_right₀ _ two_ne_zero]
    exact_mod_cast hlt
  have hten : (2 : ℚ) ^ (fmt.precision + 1) ≤ 10 ^ (fmt.precision - 1) := by
    exact_mod_cast two_pow_le_ten_pow hprecision
  have hspacing := fmt.spacing_pos (n + 1)
  calc (10 : ℚ) ^ firstExponent fmt (n + 1)
      ≤ fmt.significand (n + 1) * fmt.spacing (n + 1) := hlog
    _ < 2 ^ (fmt.precision + 1) / 2 * fmt.spacing (n + 1) :=
      mul_lt_mul_of_pos_right hsignificand hspacing
    _ ≤ 10 ^ (fmt.precision - 1) / 2 * fmt.spacing (n + 1) := by gcongr
    _ = 10 ^ (fmt.precision - 1) * (fmt.spacing (n + 1) / 2) := by ring

theorem value_shortest_zero (fmt : Format) (tie : Tie) :
    (shortest fmt tie 0).value = fmt.magnitude 0 := by
  rw [Format.magnitude_zero, shortest, if_pos rfl, value, Nat.cast_zero, zero_mul]

/-- The shortest decimal of a magnitude reads back. -/
theorem roundsTo_shortest (hfmt : fmt.Standard) (tie : Tie) (n : Nat) :
    RoundsTo fmt (shortest fmt tie n).value n := by
  cases n with
  | zero => exact value_shortest_zero fmt tie ▸ roundsTo_magnitude 0
  | succ n =>
    rw [value_shortest_succ]
    exact (found_spec hfmt tie n).reads

/-- The shortest decimal of an odd ordinal is a nearest one in steps of some power of ten. -/
theorem exists_grid_shortest (hfmt : fmt.Standard) (tie : Tie) (hodd : ¬ Even n) :
    ∃ c : Nat, ∃ k : ℤ, (shortest fmt tie n).value = c * 10 ^ k ∧
      2 * |(shortest fmt tie n).value - fmt.magnitude n| ≤ 10 ^ k := by
  obtain ⟨m, rfl⟩ := Nat.exists_eq_succ_of_ne_zero (fun h : n = 0 => hodd (h ▸ Even.zero))
  rw [value_shortest_succ]
  exact ⟨_, _, rfl, (found_spec hfmt tie m).near hodd⟩

end ScalarServer.Decimal
