import ScalarServer.Proofs.Floating.Magnitude

/-!
# Rounding to nearest

`RoundsTo fmt x n` says that the magnitude with ordinal `n` is the nearest one to `x`, with the
even one of two that are equally near: `x` lies between the midpoints around the magnitude, and on
one of them only if `n` is even. The main facts are:

- `RoundsTo.monotone`, `RoundsTo.unique`: rounding keeps the order, and there is one result;
- `RoundsTo.between`: the numbers that are rounded to an ordinal lie together;
- `roundsTo_magnitude`: a magnitude is rounded to itself;
- `nearest_spec`, `nearest_eq`: `Format.nearest` computes the result, up to infinity;
- `RoundsTo.dist_le`: the error is at most half of the spacing.
-/

namespace ScalarServer.Floating

/-- The ordinal of the magnitude that is nearest to a rational, the even one of two. -/
structure RoundsTo (fmt : Format) (x : ℚ) (n : Nat) : Prop where
  /-- It is not nearer to the magnitude below. -/
  above : ∀ m, m + 1 = n → fmt.midpoint m < x ∨ fmt.midpoint m = x ∧ Even n
  /-- It is not nearer to the magnitude above. -/
  below : x < fmt.midpoint n ∨ x = fmt.midpoint n ∧ Even n

variable {fmt : Format} {x y z : ℚ} {m n : Nat}

/-! ## The result of rounding -/

namespace RoundsTo

theorem midpoint_le (h : RoundsTo fmt x (m + 1)) : fmt.midpoint m ≤ x := by
  rcases h.above m rfl with hlt | ⟨heq, -⟩
  · exact hlt.le
  · exact heq.le

theorem le_midpoint (h : RoundsTo fmt x n) : x ≤ fmt.midpoint n := by
  rcases h.below with hlt | ⟨heq, -⟩
  · exact hlt.le
  · exact heq.le

/-- Rounding keeps the order. -/
theorem monotone (hx : RoundsTo fmt x m) (hy : RoundsTo fmt y n) (hxy : x ≤ y) : m ≤ n := by
  by_contra hlt
  obtain ⟨k, rfl⟩ := Nat.exists_eq_succ_of_ne_zero (Nat.ne_zero_of_lt (Nat.lt_of_not_le hlt))
  -- everything between the midpoint above `n` and the one below `k + 1` is in one place
  have hnk : fmt.midpoint n ≤ fmt.midpoint k :=
    Format.midpoint_strictMono.monotone (by omega)
  have hkx := hx.midpoint_le
  have hyn := hy.le_midpoint
  have hsame : fmt.midpoint n = fmt.midpoint k := by linarith
  obtain rfl := Format.midpoint_strictMono.injective hsame
  -- it would have to be rounded to two neighbours that are both even
  have hsucc : Even (n + 1) := by
    rcases hx.above n rfl with h | h
    · linarith
    · exact h.2
  have heven : Even n := by
    rcases hy.below with h | h
    · linarith
    · exact h.2
  exact Nat.even_add_one.mp hsucc heven

theorem unique (hm : RoundsTo fmt x m) (hn : RoundsTo fmt x n) : m = n :=
  Nat.le_antisymm (hm.monotone hn le_rfl) (hn.monotone hm le_rfl)

/-- The numbers that are rounded to an ordinal lie together. -/
theorem between (hx : RoundsTo fmt x n) (hz : RoundsTo fmt z n) (hxy : x ≤ y) (hyz : y ≤ z) :
    RoundsTo fmt y n where
  above m hm := by
    rcases hxy.lt_or_eq with hlt | rfl
    · subst hm
      exact .inl (hx.midpoint_le.trans_lt hlt)
    · exact hx.above m hm
  below := by
    rcases hyz.lt_or_eq with hlt | rfl
    · exact .inl (hlt.trans_le hz.le_midpoint)
    · exact hz.below

/-- What lies strictly between the midpoints around a magnitude is rounded to it. -/
theorem of_lt_of_lt (hlow : ∀ m, m + 1 = n → fmt.midpoint m < x) (hhigh : x < fmt.midpoint n) :
    RoundsTo fmt x n :=
  ⟨fun m hm => .inl (hlow m hm), .inl hhigh⟩

/-- Midpoints are rounded to the even side. -/
theorem of_le_of_le (heven : Even n) (hlow : ∀ m, m + 1 = n → fmt.midpoint m ≤ x)
    (hhigh : x ≤ fmt.midpoint n) : RoundsTo fmt x n :=
  ⟨fun m hm => (hlow m hm).lt_or_eq.imp_right fun heq => ⟨heq, heven⟩,
    hhigh.lt_or_eq.imp_right fun heq => ⟨heq, heven⟩⟩

/-- Only what is rounded to an even ordinal can be a midpoint. -/
theorem lt_of_odd (h : RoundsTo fmt x n) (hodd : ¬ Even n) :
    (∀ m, m + 1 = n → fmt.midpoint m < x) ∧ x < fmt.midpoint n :=
  ⟨fun m hm => (h.above m hm).resolve_right fun heven => hodd heven.2,
    h.below.resolve_right fun heven => hodd heven.2⟩

end RoundsTo

/-- A magnitude is rounded to itself. -/
theorem roundsTo_magnitude (n : Nat) : RoundsTo fmt (fmt.magnitude n) n :=
  .of_lt_of_lt (fun m hm => hm ▸ Format.midpoint_lt_magnitude_succ _ m)
    (Format.magnitude_lt_midpoint _ n)

namespace RoundsTo

theorem le_of_magnitude_le (h : RoundsTo fmt x n) (hm : fmt.magnitude m ≤ x) : m ≤ n :=
  (roundsTo_magnitude m).monotone h hm

theorem le_of_le_magnitude (h : RoundsTo fmt x n) (hm : x ≤ fmt.magnitude m) : n ≤ m :=
  h.monotone (roundsTo_magnitude m) hm

/-- Only zero has the magnitude zero. -/
theorem eq_zero (h : RoundsTo fmt 0 n) : n = 0 :=
  h.unique (fmt.magnitude_zero ▸ roundsTo_magnitude 0)

/-- The error of rounding is at most half of the spacing. -/
theorem dist_le (h : RoundsTo fmt x n) (hx : 0 ≤ x) :
    |x - fmt.magnitude n| ≤ fmt.spacing n / 2 := by
  have hhigh : x ≤ fmt.magnitude n + fmt.spacing n / 2 := h.le_midpoint
  have hlow : fmt.magnitude n - fmt.spacing n / 2 ≤ x := by
    cases n with
    | zero =>
      rw [Format.magnitude_zero]
      linarith [fmt.spacing_pos 0]
    | succ m =>
      -- the magnitude below is at most as far away as the one above
      have hmid : fmt.magnitude m + fmt.spacing m / 2 ≤ x := h.midpoint_le
      have hspacing : fmt.spacing m ≤ fmt.spacing (m + 1) := Format.spacing_mono (Nat.le_succ m)
      have hsucc := fmt.magnitude_succ m
      linarith
  rw [abs_le]
  constructor <;> linarith

/-- What lies between a magnitude and the next one is rounded to the nearer of them. -/
theorem of_between (hlow : fmt.magnitude n ≤ x) (hhigh : x < fmt.magnitude (n + 1)) :
    (x < fmt.midpoint n → RoundsTo fmt x n) ∧
      (fmt.midpoint n < x → RoundsTo fmt x (n + 1)) ∧
      (x = fmt.midpoint n → RoundsTo fmt x (if Even n then n else n + 1)) := by
  have hbelow : ∀ m, m + 1 = n → fmt.midpoint m < x := fun m hm =>
    (hm ▸ Format.midpoint_lt_magnitude_succ _ m).trans_le hlow
  have habove : x < fmt.midpoint (n + 1) := hhigh.trans (Format.magnitude_lt_midpoint _ _)
  refine ⟨fun h => .of_lt_of_lt hbelow h, fun h => .of_lt_of_lt ?_ habove, fun h => ?_⟩
  · rintro m ⟨⟩
    exact h
  · split
    · rename_i heven
      exact .of_le_of_le heven (fun m hm => (hbelow m hm).le) h.le
    · rename_i hodd
      refine .of_le_of_le (Nat.even_add_one.mpr hodd) ?_ habove.le
      rintro m ⟨⟩
      exact h.ge

end RoundsTo

/-! ## Division and logarithms -/

/-- Division of naturals rounds down. -/
theorem natDiv_bounds (num : Nat) {den : Nat} (hden : 0 < den) :
    ((num / den : Nat) : ℚ) ≤ num / den ∧ (num : ℚ) / den < (num / den : Nat) + 1 := by
  have hden' : (0 : ℚ) < den := by exact_mod_cast hden
  rw [le_div_iff₀ hden', div_lt_iff₀ hden']
  constructor
  · exact_mod_cast Nat.div_mul_le_self num den
  · exact_mod_cast Nat.lt_mul_of_div_lt (Nat.lt_succ_self _) hden

/-- The rounded quotient, by where the exact one lies between two integers. -/
theorem roundDiv_cases (num : Nat) {den : Nat} (hden : 0 < den) :
    ((num : ℚ) / den < (num / den : Nat) + 1 / 2 ∧ roundDiv num den = num / den) ∨
      (((num / den : Nat) : ℚ) + 1 / 2 < num / den ∧ roundDiv num den = num / den + 1) ∨
      ((num : ℚ) / den = (num / den : Nat) + 1 / 2 ∧
        roundDiv num den = if Even (num / den) then num / den else num / den + 1) := by
  have hden' : (0 : ℚ) < den := by exact_mod_cast hden
  have hnum : (num : ℚ) = (num / den : Nat) * den + (num % den : Nat) := by
    exact_mod_cast (Nat.div_add_mod' num den).symm
  simp only [roundDiv, Nat.even_iff, div_lt_iff₀ hden', lt_div_iff₀ hden', div_eq_iff hden'.ne']
  rcases lt_trichotomy (2 * (num % den)) den with h | h | h
  · have h' : (2 : ℚ) * (num % den : Nat) < den := by exact_mod_cast h
    exact .inl ⟨by linarith, if_pos h⟩
  · have h' : (2 : ℚ) * (num % den : Nat) = den := by exact_mod_cast h
    refine .inr (.inr ⟨by linarith, ?_⟩)
    rw [if_neg (by omega), if_neg (by omega)]
  · have h' : (den : ℚ) < 2 * (num % den : Nat) := by exact_mod_cast h
    refine .inr (.inl ⟨by linarith, ?_⟩)
    rw [if_neg (by omega), if_pos h]

/-- The greatest power of two that is at most a quotient. -/
theorem log2Quotient_spec {num den : Nat} (hnum : num ≠ 0) (hden : den ≠ 0) :
    (2 : ℚ) ^ log2Quotient num den ≤ num / den ∧
      (num : ℚ) / den < 2 ^ (log2Quotient num den + 1) := by
  have hnum' : (0 : ℚ) < num := by exact_mod_cast Nat.pos_of_ne_zero hnum
  have hden' : (0 : ℚ) < den := by exact_mod_cast Nat.pos_of_ne_zero hden
  have hnlow : (2 : ℚ) ^ (num.log2 : ℤ) ≤ num := by
    rw [zpow_natCast]
    exact_mod_cast Nat.log2_self_le hnum
  have hnhigh : (num : ℚ) < 2 ^ (num.log2 + 1 : ℤ) := by
    exact_mod_cast Nat.lt_log2_self (n := num)
  have hdlow : (2 : ℚ) ^ (den.log2 : ℤ) ≤ den := by
    rw [zpow_natCast]
    exact_mod_cast Nat.log2_self_le hden
  have hdhigh : (den : ℚ) < 2 ^ (den.log2 + 1 : ℤ) := by
    exact_mod_cast Nat.lt_log2_self (n := den)
  -- the difference of the logarithms is right or one too large
  have hhigh : (num : ℚ) / den < 2 ^ ((num.log2 : ℤ) - den.log2 + 1) := by
    rw [div_lt_iff₀ hden']
    calc (num : ℚ) < 2 ^ (num.log2 + 1 : ℤ) := hnhigh
      _ = 2 ^ ((num.log2 : ℤ) - den.log2 + 1) * 2 ^ (den.log2 : ℤ) := by
        rw [← zpow_add₀ two_ne_zero]
        ring_nf
      _ ≤ 2 ^ ((num.log2 : ℤ) - den.log2 + 1) * den :=
        mul_le_mul_of_nonneg_left hdlow (zpow_pos two_pos _).le
  have hlow : (2 : ℚ) ^ ((num.log2 : ℤ) - den.log2 - 1) ≤ num / den := by
    rw [le_div_iff₀ hden']
    calc (2 : ℚ) ^ ((num.log2 : ℤ) - den.log2 - 1) * den
        ≤ 2 ^ ((num.log2 : ℤ) - den.log2 - 1) * 2 ^ (den.log2 + 1 : ℤ) :=
          mul_le_mul_of_nonneg_left hdhigh.le (zpow_pos two_pos _).le
      _ = 2 ^ (num.log2 : ℤ) := by
        rw [← zpow_add₀ two_ne_zero]
        ring_nf
      _ ≤ num := hnlow
  have hcompare : den * twoPow ((num.log2 : ℤ) - den.log2).toNat ≤
        num * twoPow (-((num.log2 : ℤ) - den.log2)).toNat ↔
      (2 : ℚ) ^ ((num.log2 : ℤ) - den.log2) ≤ num / den := by
    rw [zpow_eq_div, div_le_div_iff₀ (pow_pos two_pos _) hden', mul_comm]
    simp only [twoPow_eq]
    exact_mod_cast Iff.rfl
  simp only [log2Quotient]
  split
  · rename_i h
    exact ⟨hcompare.mp h, hhigh⟩
  · rename_i h
    rw [hcompare, not_le] at h
    exact ⟨hlow, by rwa [sub_add_cancel]⟩

/-! ## The nearest magnitude -/

/-- A quotient scaled by a power of two. -/
theorem scaled_div (num den : Nat) (e : ℤ) :
    ((num * twoPow (-e).toNat : Nat) : ℚ) / (den * twoPow e.toNat : Nat) = num / den / 2 ^ e := by
  simp only [zpow_eq_div 2 e, twoPow_eq]
  push_cast
  rw [div_div_div_eq]

/-- A quotient that is rounded to a significand in units of `2 ^ e`, where `d` binades lie below
the one with these units. -/
theorem roundsTo_scaled (hfmt : fmt.Standard) {num den d : Nat} {e : ℤ} (hden : den ≠ 0)
    (hd : fmt.minExponent + d = e) (hhigh : (num : ℚ) / den / 2 ^ e < 2 * fmt.binade)
    (hlow : d = 0 ∨ (fmt.binade : ℚ) ≤ num / den / 2 ^ e) :
    RoundsTo fmt (num / den)
      (roundDiv (num * twoPow (-e).toNat) (den * twoPow e.toNat) + d * fmt.binade) := by
  have hscale : (0 : ℚ) < 2 ^ e := zpow_pos two_pos _
  have hden' : 0 < den * twoPow e.toNat :=
    Nat.mul_pos (Nat.pos_of_ne_zero hden) (Nat.pow_pos (by decide))
  obtain ⟨hfloor, hceil⟩ := natDiv_bounds (num * twoPow (-e).toNat) hden'
  have hcases := roundDiv_cases (num * twoPow (-e).toNat) hden'
  generalize (num * twoPow (-e).toNat) / (den * twoPow e.toNat) = f at hfloor hceil hcases
  rw [scaled_div] at hfloor hceil hcases
  -- the significand `f` and the next one, which may be the first one of the next binade
  have hf : f + 1 ≤ 2 * fmt.binade := by
    have hlt : (f : ℚ) < 2 * fmt.binade := hfloor.trans_lt hhigh
    exact_mod_cast hlt
  have hf' : d = 0 ∨ fmt.binade ≤ f := by
    refine hlow.imp_right fun h => ?_
    have hlt : (fmt.binade : ℚ) < f + 1 := h.trans_lt hceil
    exact Nat.lt_succ_iff.mp (by exact_mod_cast hlt)
  have hmag : fmt.magnitude (f + d * fmt.binade) = f * 2 ^ e := by
    rw [Format.magnitude_add_mul_binade _ (by omega) hf', hd]
  have hmag' : fmt.magnitude (f + d * fmt.binade + 1) = (f + 1) * 2 ^ e := by
    rw [Nat.add_right_comm, Format.magnitude_add_mul_binade _ hf
      (hf'.imp_right Nat.le_succ_of_le), hd, Nat.cast_succ]
  have hmid : fmt.midpoint (f + d * fmt.binade) = (f + 1 / 2) * 2 ^ e := by
    have hsucc := fmt.magnitude_succ (f + d * fmt.binade)
    rw [Format.midpoint]
    linarith
  have heven : Even (f + d * fmt.binade) ↔ Even f := by
    simp [Nat.even_add, Format.even_binade hfmt]
  have hlow : fmt.magnitude (f + d * fmt.binade) ≤ num / den := by
    rwa [hmag, ← le_div_iff₀ hscale]
  have hhigh : num / den < fmt.magnitude (f + d * fmt.binade + 1) := by
    rwa [hmag', ← div_lt_iff₀ hscale]
  obtain ⟨hbelow, habove, htie⟩ := RoundsTo.of_between hlow hhigh
  rcases hcases with ⟨hlt, hround⟩ | ⟨hlt, hround⟩ | ⟨heq, hround⟩
  · rw [hround]
    exact hbelow (by rwa [hmid, ← div_lt_iff₀ hscale])
  · rw [hround, Nat.add_right_comm]
    exact habove (by rwa [hmid, ← lt_div_iff₀ hscale])
  · have h := htie (by rwa [hmid, ← div_eq_iff hscale.ne'])
    rw [hround]
    simp only [heven] at h
    split at h
    · rename_i hf
      rwa [if_pos hf]
    · rename_i hf
      rwa [if_neg hf, Nat.add_right_comm]

/-- `Format.nearest` computes the ordinal that a quotient is rounded to, or infinity if that comes
first. -/
theorem nearest_spec (hfmt : fmt.Standard) (num : Nat) {den : Nat} (hden : den ≠ 0) :
    ∃ n, RoundsTo fmt (num / den) n ∧ fmt.nearest num den = min fmt.infinity n := by
  by_cases hnum : num = 0
  · refine ⟨0, ?_, by rw [Format.nearest, if_pos hnum, Nat.min_zero]⟩
    have hzero : RoundsTo fmt (fmt.magnitude 0) 0 := roundsTo_magnitude 0
    simpa [hnum, Format.magnitude_zero] using hzero
  obtain ⟨hloglow, hloghigh⟩ := log2Quotient_spec hnum hden
  generalize hk : log2Quotient num den = k at hloglow hloghigh
  obtain ⟨d, hd⟩ := Int.le.dest (le_max_left fmt.minExponent (k - (fmt.precision - 1 : Nat)))
  generalize he : max fmt.minExponent (k - (fmt.precision - 1 : Nat)) = e at hd
  have hscale : (0 : ℚ) < 2 ^ e := zpow_pos two_pos _
  have hbinade : (fmt.binade : ℚ) = 2 ^ ((fmt.precision - 1 : Nat) : ℤ) := by
    simp [Format.binade]
  refine ⟨_, roundsTo_scaled hfmt hden hd ?_ ?_, ?_⟩
  · rw [div_lt_iff₀ hscale, hbinade, ← zpow_one_add₀ two_ne_zero, ← zpow_add₀ two_ne_zero]
    exact hloghigh.trans_le (zpow_le_zpow_right₀ one_le_two (by omega))
  · rcases Nat.eq_zero_or_pos d with h | h
    · exact .inl h
    · right
      rw [le_div_iff₀ hscale, hbinade, ← zpow_add₀ two_ne_zero]
      exact (zpow_le_zpow_right₀ one_le_two (by omega)).trans hloglow
  · simp only [Format.nearest, if_neg hnum, hk, he]
    rw [← hd, add_sub_cancel_left, Int.toNat_natCast]

theorem nearest_eq (hfmt : fmt.Standard) {num den : Nat} (hden : den ≠ 0)
    (h : RoundsTo fmt (num / den) n) : fmt.nearest num den = min fmt.infinity n := by
  obtain ⟨k, hk, hnearest⟩ := nearest_spec hfmt num hden
  rw [hnearest, hk.unique h]

/-- Every quotient is rounded to something. -/
theorem exists_roundsTo (hfmt : fmt.Standard) (hx : 0 ≤ x) : ∃ n, RoundsTo fmt x n := by
  obtain ⟨n, hn, -⟩ := nearest_spec hfmt x.num.toNat x.den_ne_zero
  refine ⟨n, ?_⟩
  have hnum : ((x.num.toNat : Nat) : ℚ) = x.num := by
    exact_mod_cast Int.toNat_of_nonneg (Rat.num_nonneg.mpr hx)
  rwa [hnum, Rat.num_div_den] at hn

end ScalarServer.Floating
