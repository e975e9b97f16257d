import Mathlib.Data.Nat.Prime.Basic
import Mathlib.Tactic.FieldSimp
import ScalarServer.Proofs.Decimal.Fractions
import ScalarServer.Proofs.Decimal.Shortest
import ScalarServer.Proofs.Floating.Conversion

/-!
# Shortest decimals of singles, read as doubles

The shortest decimal of a single is rounded to a double, and this one to a single again. The first
rounding spoils the second one only if it leads onto the midpoint of two singles. So the decimal
has to be extremely close to a midpoint, which is an odd multiple of half of the spacing. As the
decimal is a multiple of a power of ten that is not much smaller than the spacing, the quotient of
the two multipliers is then a fraction close to the quotient of half of the spacing and the power
of ten. For each of the 254 exponents of a finite single the neighbours of this quotient show that
there is no such fraction, apart from one that belongs to a single number.

- `eq_of_close`: the only fraction that is close enough;
- `eq_of_roundsTo_midpoint`: the only single whose shortest decimal leads onto a midpoint;
- `roundsTo_single_of_shortest`: every other single comes back.
-/

namespace ScalarServer.Decimal

open Floating

variable {tie : Tie} {d j m n p q : Nat}

/-! ## The quotients -/

/-- The exponent of the smallest power of ten in which the search for the shortest decimal of a
single looks for a nearest one, by how many binades the single is above the subnormal ones. -/
def stepExponent (d : Nat) : Int :=
  -((149 - (d : Int)) * 30103 / 100000)

/-- Half of the spacing of the singles, and the power of ten, up to a common factor. -/
def halfSpacingToStep (d : Nat) : Nat × Nat :=
  let e : Int := d - 150
  let k := stepExponent d
  (twoPow e.toNat * tenPow (-k).toNat, twoPow (-e).toNat * tenPow k.toNat)

/-- The neighbours around their quotient. -/
def aroundQuotient (d : Nat) : (Nat × Nat) × (Nat × Nat) :=
  enclosing (halfSpacingToStep d).1 (halfSpacingToStep d).2 12 (0, 1) (1, 1)

/-- Whether a fraction cannot be an odd multiple of half of a spacing next to a decimal. -/
def Harmless (d : Nat) (x : Nat × Nat) : Prop :=
  Close (halfSpacingToStep d).1 (halfSpacingToStep d).2 x.1 x.2 →
    2 ∣ x.2 ∨ d = 42 ∧ x.2 = 22841339

instance (d : Nat) (x : Nat × Nat) : Decidable (Harmless d x) :=
  inferInstanceAs (Decidable (_ → _))

/-- What is checked of each exponent. -/
structure Checked (d : Nat) : Prop where
  /-- The quotient is at most one. -/
  le_one : (halfSpacingToStep d).1 ≤ (halfSpacingToStep d).2
  /-- The next smaller power of ten is smaller than the spacing. -/
  coarse : (halfSpacingToStep d).2 * 2 ^ 27 < 10 * (halfSpacingToStep d).1 * (2 ^ 28 - 1)
  /-- The neighbours are neighbours. -/
  encloses : Encloses (halfSpacingToStep d).1 (halfSpacingToStep d).2 (aroundQuotient d).1
    (aroundQuotient d).2
  /-- The one below. -/
  low : Harmless d (aroundQuotient d).1
  /-- The one above. -/
  high : Harmless d (aroundQuotient d).2

instance (d : Nat) : Decidable (Checked d) :=
  decidable_of_iff (_ ∧ _ ∧ _ ∧ _ ∧ _)
    ⟨fun ⟨h₁, h₂, h₃, h₄, h₅⟩ => ⟨h₁, h₂, h₃, h₄, h₅⟩,
      fun ⟨h₁, h₂, h₃, h₄, h₅⟩ => ⟨h₁, h₂, h₃, h₄, h₅⟩⟩

theorem checked : ∀ d < 254, Checked d := by
  decide +kernel

/-- Only one fraction with an odd denominator of few digits is close to its quotient. -/
theorem eq_of_close (hd : d < 254) (hodd : ¬ 2 ∣ q) (hq : q < 2 ^ 25)
    (hclose : Close (halfSpacingToStep d).1 (halfSpacingToStep d).2 p q) :
    d = 42 ∧ q = 22841339 := by
  have hpos : 0 < q := Nat.pos_of_ne_zero fun hzero => hodd (hzero ▸ Nat.dvd_zero 2)
  obtain ⟨hle, hcoarse, hencloses, hlow, hhigh⟩ := checked d hd
  generalize (aroundQuotient d).1 = low at hencloses hlow
  generalize (aroundQuotient d).2 = high at hencloses hhigh
  -- a harmless fraction in lowest terms that equals `p / q`
  have key : ∀ x : Nat × Nat, 0 < x.2 → Nat.Coprime x.2 x.1 → Harmless d x → p * x.2 = x.1 * q →
      d = 42 ∧ q = 22841339 := by
    intro x hx hcoprime hharmless heq
    have hdvd : x.2 ∣ q := hcoprime.dvd_of_dvd_mul_left (heq ▸ Nat.dvd_mul_left x.2 p)
    rcases hharmless (hclose.of_eq hpos hx heq) with heven | ⟨hd42, hx2⟩
    · exact absurd (heven.trans hdvd) hodd
    · obtain ⟨t, rfl⟩ := hdvd
      refine ⟨hd42, ?_⟩
      rw [hx2] at hpos hq ⊢
      omega
  have hden : 0 < (halfSpacingToStep d).2 := by omega
  obtain ⟨hlowCoprime, hhighCoprime⟩ := coprime_of_neighbours hencloses.neighbours
  have hlowPos : 0 < low.2 := Nat.pos_of_ne_zero fun hzero => by
    simpa [hzero] using hencloses.neighbours
  have hhighPos : 0 < high.2 := by
    have hlt := hencloses.low_lt
    have hle := hencloses.le_add
    omega
  rcases hencloses.eq_or_eq_of_close hle hden hclose hq with heq | heq
  · exact key low hlowPos hlowCoprime hlow heq
  · exact key high hhighPos hhighCoprime hhigh heq

/-! ## Decimals next to a midpoint -/

/-- The two integers stand for half of the spacing and for the power of ten, in some unit. -/
theorem exists_unit (d : Nat) : ∃ u : ℚ, 0 < u ∧
    (2 : ℚ) ^ ((d : ℤ) - 150) = (halfSpacingToStep d).1 * u ∧
      (10 : ℚ) ^ stepExponent d = (halfSpacingToStep d).2 * u := by
  refine ⟨1 / (2 ^ (-((d : ℤ) - 150)).toNat * 10 ^ (-stepExponent d).toNat), by positivity, ?_, ?_⟩
  · rw [zpow_eq_div]
    simp only [halfSpacingToStep, twoPow_eq, tenPow_eq]
    push_cast
    field_simp
  · rw [zpow_eq_div]
    simp only [halfSpacingToStep, twoPow_eq, tenPow_eq]
    push_cast
    field_simp

/-- Steps that are not much smaller than the spacing are multiples of the checked ones. -/
theorem stepExponent_le (hd : d < 254) {k : ℤ}
    (hk : (2 ^ 28 - 1) * (2 : ℚ) ^ ((d : ℤ) - 150) ≤ 2 ^ 27 * 10 ^ k) : stepExponent d ≤ k := by
  obtain ⟨u, hu, hhalf, hstep⟩ := exists_unit d
  have hcoarse : ((halfSpacingToStep d).2 : ℚ) * 2 ^ 27 <
      10 * (halfSpacingToStep d).1 * (2 ^ 28 - 1) := by
    have h := (checked d hd).coarse
    rw [← Nat.cast_lt (α := ℚ)] at h
    push_cast at h
    norm_num
    exact h
  have hlt : (10 : ℚ) ^ stepExponent d < 10 ^ (k + 1) := by
    rw [zpow_add_one₀ (by norm_num)]
    rw [hhalf] at hk
    rw [hstep]
    nlinarith [mul_lt_mul_of_pos_right hcoarse hu]
  exact Int.lt_add_one_iff.mp ((zpow_lt_zpow_iff_right₀ (by norm_num)).mp hlt)

/-- The steps in which something is nearest to a magnitude, if it is close to a midpoint next to the
magnitude: they are about as wide as the spacing. -/
theorem stepExponent_le_of_dist (hd : d < 254) (hq : q ≤ 2 ^ 25) {x y : ℚ} {k : ℤ}
    (hhalf : |(q : ℚ) * 2 ^ ((d : ℤ) - 150) - y| = 2 ^ ((d : ℤ) - 150))
    (hnear : 2 * |x - y| ≤ 10 ^ k)
    (hclose : 2 ^ 53 * |x - q * 2 ^ ((d : ℤ) - 150)| ≤ q * 2 ^ ((d : ℤ) - 150)) :
    stepExponent d ≤ k := by
  have hfew : (q : ℚ) * 2 ^ ((d : ℤ) - 150) ≤ 2 ^ 25 * 2 ^ ((d : ℤ) - 150) := by
    gcongr
    exact_mod_cast hq
  have htriangle := abs_sub_le ((q : ℚ) * 2 ^ ((d : ℤ) - 150)) x y
  rw [hhalf, abs_sub_comm _ x] at htriangle
  refine stepExponent_le hd ?_
  linarith

/-- A multiple of a step that is close to a multiple of half of the spacing. -/
theorem close_of_dist_le (hne : (p : ℚ) * 10 ^ stepExponent d ≠ q * 2 ^ ((d : ℤ) - 150))
    (hdist : 2 ^ 53 * |(p : ℚ) * 10 ^ stepExponent d - q * 2 ^ ((d : ℤ) - 150)| ≤
      q * 2 ^ ((d : ℤ) - 150)) :
    Close (halfSpacingToStep d).1 (halfSpacingToStep d).2 p q := by
  obtain ⟨u, hu, hhalf, hstep⟩ := exists_unit d
  rw [hhalf, hstep] at hne hdist
  generalize (halfSpacingToStep d).1 = num at *
  generalize (halfSpacingToStep d).2 = den at *
  -- the unit cancels on both sides
  have hunit : (p : ℚ) * (den * u) - q * (num * u) = (p * den - q * num) * u := by ring
  rw [hunit, abs_mul, abs_of_pos hu, ← mul_assoc, ← mul_assoc, mul_le_mul_iff_left₀ hu] at hdist
  have habs := abs_le.mp (show |(p : ℚ) * den - q * num| ≤ q * num / 2 ^ 53 by
    rw [le_div_iff₀ (by norm_num), mul_comm]
    exact hdist)
  refine ⟨fun heq => hne ?_, ?_, ?_⟩
  · have hcast : (p : ℚ) * den = q * num := by exact_mod_cast heq
    rw [← mul_assoc, ← mul_assoc, hcast]
  · have hlow : (q : ℚ) * num * (2 ^ 53 - 1) ≤ p * den * 2 ^ 53 := by linarith [habs.1]
    rw [← Nat.cast_le (α := ℚ)]
    push_cast
    norm_num at hlow
    exact hlow
  · have hhigh : (p : ℚ) * den * 2 ^ 53 ≤ q * num * (2 ^ 53 + 1) := by linarith [habs.2]
    exact_mod_cast hhigh

/-- The midpoints around an odd ordinal are odd multiples of half of the spacing. -/
theorem exists_midpoint_eq (hodd : ¬ Even n) (hm : m = n ∨ m + 1 = n) :
    ∃ q, ¬ 2 ∣ q ∧ (q = 2 * Format.binary32.significand n + 1 ∨
        q + 1 = 2 * Format.binary32.significand n) ∧
      Format.binary32.midpoint m = q * (Format.binary32.spacing n / 2) := by
  rcases hm with rfl | rfl
  · refine ⟨_, by omega, .inl rfl, ?_⟩
    rw [Format.midpoint, Format.magnitude, Format.spacing]
    push_cast
    ring
  · have hpos : 0 < Format.binary32.significand (m + 1) := by
      refine Nat.pos_of_ne_zero fun hzero => hodd ?_
      rw [← Format.even_significand_iff Format.standard_binary32, hzero]
      exact Even.zero
    refine ⟨2 * Format.binary32.significand (m + 1) - 1, by omega, .inr (by omega), ?_⟩
    have hsucc := Format.binary32.magnitude_succ m
    have hmagnitude : Format.binary32.magnitude (m + 1) =
      Format.binary32.significand (m + 1) * Format.binary32.spacing (m + 1) := rfl
    rw [Format.spacing_of_odd Format.standard_binary32 hodd] at hsucc
    rw [Format.midpoint, Format.spacing_of_odd Format.standard_binary32 hodd,
      Nat.cast_sub (by omega)]
    push_cast
    linarith

/-- Midpoints of singles are far above the subnormal doubles. -/
theorem binade_le_of_midpoint (hmid : Format.binary64.magnitude j = Format.binary32.midpoint m) :
    Format.binary64.binade ≤ j := by
  rw [← Format.magnitude_strictMono.le_iff_le (f := Format.binary64.magnitude), hmid]
  have hfirst := Format.binary64.magnitude_add_mul_binade (r := Format.binary64.binade)
    (d := 0) (by omega) (.inl rfl)
  rw [Nat.zero_mul, Nat.add_zero] at hfirst
  have hbinade : (Format.binary64.binade : ℚ) = 2 ^ (52 : ℤ) := by
    norm_num [Format.binade, Format.binary64]
  calc Format.binary64.magnitude Format.binary64.binade
      = Format.binary64.binade * 2 ^ (Format.binary64.minExponent + (0 : ℕ)) := hfirst
    _ = 2 ^ (-1022 : ℤ) := by
      rw [hbinade, ← zpow_add₀ two_ne_zero]
      congr 1
    _ ≤ 2 ^ (-150 : ℤ) := zpow_le_zpow_right₀ one_le_two (by norm_num)
    _ = Format.binary32.midpoint 0 := by
      rw [Format.midpoint, Format.magnitude_zero, zero_add, Format.spacing, div_eq_mul_inv,
        ← zpow_sub_one₀ two_ne_zero]
      congr 1
    _ ≤ Format.binary32.midpoint m := Format.midpoint_strictMono.monotone (Nat.zero_le m)

/-- A decimal that becomes a midpoint of singles, when it is rounded to a double, is close to it. -/
theorem dist_midpoint_le {x : ℚ} (hx : 0 ≤ x) (hj : RoundsTo .binary64 x j)
    (hmid : Format.binary64.magnitude j = Format.binary32.midpoint m) :
    2 ^ 53 * |x - Format.binary32.midpoint m| ≤ Format.binary32.midpoint m := by
  have hdist := hj.dist_le hx
  have hspacing := Format.binade_mul_spacing_le (binade_le_of_midpoint hmid)
  have hbinade : (Format.binary64.binade : ℚ) = 2 ^ 52 := by
    norm_num [Format.binade, Format.binary64]
  rw [hmid] at hdist hspacing
  rw [hbinade] at hspacing
  linarith

/-- Half of the spacing of the singles, by the binade. -/
theorem half_spacing_eq (n : Nat) : Format.binary32.spacing n / 2 =
    2 ^ (((n / Format.binary32.binade - 1 : ℕ) : ℤ) - 150) := by
  have hexponent : Format.binary32.minExponent = -149 := by decide
  rw [Format.spacing, Format.exponent, hexponent, div_eq_mul_inv, ← zpow_sub_one₀ two_ne_zero]
  congr 1
  omega

/-- The only single whose shortest decimal, as a double, is the midpoint of two singles. -/
theorem eq_of_roundsTo_midpoint (hn : n < Format.binary32.infinity) (hodd : ¬ Even n)
    (hj : RoundsTo .binary64 (shortest .binary32 tie n).value j)
    (hm : m = n ∨ m + 1 = n)
    (hmid : Format.binary64.magnitude j = Format.binary32.midpoint m) : n = 363742205 := by
  obtain ⟨c, k, hgrid, hnear⟩ := exists_grid_shortest Format.standard_binary32 tie hodd
  have hround := roundsTo_shortest Format.standard_binary32 tie n
  have hclose := dist_midpoint_le (value_nonneg _) hj hmid
  generalize (shortest .binary32 tie n).value = x at *
  obtain ⟨q, hq, hsignificand, hmidpoint⟩ := exists_midpoint_eq hodd hm
  have hlt := Format.binary32.significand_lt n
  have hsum := Format.binary32.significand_add_mul_binade n
  have hnormal := Format.binary32.binade_le_significand n
  have hinfinity : Format.binary32.infinity = 255 * 2 ^ 23 := by decide
  have hhalf := Format.abs_midpoint_sub_magnitude Format.standard_binary32 hodd hm
  have hspacing := half_spacing_eq n
  rw [show Format.binary32.binade = 2 ^ 23 by decide] at hlt hsum hnormal hspacing
  generalize n / 2 ^ 23 - 1 = d at hsum hnormal hspacing
  have hd : d < 254 := by omega
  rw [hspacing] at hmidpoint hhalf
  rw [hmidpoint] at hclose hhalf
  -- the steps are not much smaller than the spacing, so the decimal is a multiple of checked ones
  have hle : stepExponent d ≤ k := stepExponent_le_of_dist hd (by omega) hhalf hnear hclose
  obtain ⟨t, rfl⟩ := Int.le.dest hle
  have hx : x = ((c * 10 ^ t : ℕ) : ℚ) * 10 ^ stepExponent d := by
    rw [hgrid, zpow_add₀ (by norm_num), zpow_natCast]
    push_cast
    ring
  have hne : x ≠ Format.binary32.midpoint m := by
    obtain ⟨habove, hbelow⟩ := hround.lt_of_odd hodd
    rcases hm with rfl | hm
    · exact hbelow.ne
    · exact (habove m hm).ne'
  -- both are multiples now, and close: there is one such fraction, and one number it belongs to
  rw [hx] at hclose
  rw [hmidpoint, hx] at hne
  obtain ⟨rfl, rfl⟩ := eq_of_close hd hq (by omega) (close_of_dist_le hne hclose)
  rw [Nat.even_iff] at hodd
  omega

/-- The shortest decimal of every other single comes back, when it is rounded to a double first. -/
theorem roundsTo_single_of_shortest (hn : n < Format.binary32.infinity) (hne : n ≠ 363742205)
    (hj : RoundsTo .binary64 (shortest .binary32 tie n).value j) :
    RoundsTo .binary32 (Format.binary64.magnitude j) n := by
  have hround := roundsTo_shortest Format.standard_binary32 tie n
  by_cases heven : Even n
  · exact hj.of_even refines_binary hround heven
  -- both roundings come to the same as one, which leads back, unless they pass a midpoint
  obtain ⟨k, hk⟩ := exists_roundsTo Format.standard_binary32
    (Format.binary64.magnitude_nonneg j)
  have htwice : RoundsTo .binary32 (shortest .binary32 tie n).value k := by
    refine hj.of_twice refines_binary hk fun m hmid => ?_
    refine absurd (eq_of_roundsTo_midpoint hn heven hj ?_ hmid) hne
    obtain ⟨habove, hbelow⟩ := hj.magnitude_mem refines_binary hround
    rw [hmid, Format.midpoint_strictMono.le_iff_le] at hbelow
    rcases Nat.eq_zero_or_pos n with rfl | hpos
    · exact .inl (Nat.le_zero.mp hbelow)
    · have hpred := habove (n - 1) (Nat.sub_add_cancel hpos)
      rw [hmid, Format.midpoint_strictMono.le_iff_le] at hpred
      omega
  exact htwice.unique hround ▸ hk

end ScalarServer.Decimal
