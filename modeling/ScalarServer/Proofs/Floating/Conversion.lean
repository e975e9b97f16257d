import ScalarServer.Proofs.Floating.Nearest

/-!
# From one format to another

What happens to a number that is rounded to a format, and to one that is rounded twice, to a finer
format first. A format is finer if it has the magnitudes of the other one and the midpoints
between them. Two roundings then come to the same as one, but for one case: the first rounding
takes a number onto a midpoint, where the second one cannot tell any more on which side it was.

- `ofRatio_eq`, `convert_eq`: rounding and conversion, from `RoundsTo`;
- `Refines`, `refines_binary`: double precision is finer than single precision;
- `RoundsTo.of_twice`, `RoundsTo.of_midpoint`: two roundings, apart from midpoints and on them;
- `RoundsTo.of_even`: two roundings of what belongs to an even ordinal;
- `LosesSide`, `twice_eq_iff`: the one case in which two roundings differ from one;
- `exists_midpoint_of_losesSide`: where the two roundings end then, and where the one does;
- `narrow?_eq`: a double in single precision, or none above the greatest finite single.
-/

namespace ScalarServer.Floating

variable {fmt coarse fine : Format} {x c : ℚ} {j k n : Nat} {negative : Bool}

/-! ## Rounding numbers -/

theorem ofOrdinal_min (fmt : Format) (negative : Bool) (n : Nat) :
    ofOrdinal fmt negative (min fmt.infinity n) = ofOrdinal fmt negative n := by
  unfold ofOrdinal
  congr 1
  omega

theorem number_eq_ofOrdinal (h : n ≤ fmt.infinity) :
    Floating.number negative n h = ofOrdinal fmt negative n := by
  unfold ofOrdinal
  congr 1
  exact (Nat.min_eq_left h).symm

theorem ofOrdinal_injective {m n : Nat} (hm : m ≤ fmt.infinity) (hn : n ≤ fmt.infinity)
    (h : ofOrdinal fmt negative m = ofOrdinal fmt negative n) : m = n := by
  rw [← number_eq_ofOrdinal hm, ← number_eq_ofOrdinal hn] at h
  injection h

theorem ofRatio_eq (hfmt : fmt.Standard) {num den : Nat} (hden : den ≠ 0)
    (h : RoundsTo fmt (num / den) n) : ofRatio fmt negative num den = ofOrdinal fmt negative n := by
  rw [ofRatio, nearest_eq hfmt hden h, ofOrdinal_min]

theorem ofInt_eq (hfmt : fmt.Standard) {i : Int} (h : RoundsTo fmt i.natAbs n) :
    ofInt fmt i = ofOrdinal fmt (decide (i < 0)) n :=
  ofRatio_eq hfmt one_ne_zero (by simpa using h)

/-- A finite number of one format, rounded to another. -/
theorem convert_eq (htarget : coarse.Standard) (hj : j < fine.infinity)
    (h : RoundsTo coarse (fine.magnitude j) n) :
    convert coarse (ofOrdinal fine negative j) = ofOrdinal coarse negative n := by
  rw [← number_eq_ofOrdinal hj.le, convert, if_neg hj.ne]
  change ofRatio coarse negative (fine.ratio j).1 (fine.ratio j).2 = _
  exact ofRatio_eq htarget (Format.ratio_snd_pos _ j).ne' (by rwa [Format.ratio_div])

/-! ## Two roundings -/

/-- Whether a format has the magnitudes of another one, and the midpoints between them. -/
structure Refines (fine coarse : Format) : Prop where
  /-- The magnitudes. -/
  exists_magnitude : ∀ n, ∃ k, fine.magnitude k = coarse.magnitude n
  /-- The midpoints. -/
  exists_midpoint : ∀ n, ∃ k, fine.magnitude k = coarse.midpoint n

/-- One more digit and one more binade at the lower end are enough. -/
theorem refines_of_lt (hbinade : 2 * coarse.binade ≤ fine.binade)
    (hexponent : fine.minExponent < coarse.minExponent) : Refines fine coarse where
  exists_magnitude n := by
    have hsignificand := coarse.significand_lt n
    exact Format.exists_magnitude _ (by omega) (by unfold Format.exponent; omega)
  exists_midpoint n := by
    have hsignificand := coarse.significand_lt n
    obtain ⟨k, hk⟩ := fine.exists_magnitude (r := 2 * coarse.significand n + 1)
      (e := coarse.exponent n - 1) (by omega) (by unfold Format.exponent; omega)
    refine ⟨k, ?_⟩
    rw [hk, Format.midpoint, Format.magnitude, Format.spacing, zpow_sub_one₀ two_ne_zero]
    push_cast
    ring

/-- Double precision is finer than single precision. -/
theorem refines_binary : Refines .binary64 .binary32 :=
  refines_of_lt (by decide) (by decide)

namespace RoundsTo

/-- Rounding does not lead past a magnitude. -/
theorem magnitude_le (h : RoundsTo fine x j) (hx : x ≤ fine.magnitude k) :
    fine.magnitude j ≤ fine.magnitude k :=
  Format.magnitude_strictMono.monotone (h.le_of_le_magnitude hx)

theorem le_magnitude (h : RoundsTo fine x j) (hx : fine.magnitude k ≤ x) :
    fine.magnitude k ≤ fine.magnitude j :=
  Format.magnitude_strictMono.monotone (h.le_of_magnitude_le hx)

/-- What is rounded onto a midpoint of a coarser format lies next to it. -/
theorem of_midpoint (hrefines : Refines fine coarse) (hj : RoundsTo fine x j)
    (hmid : fine.magnitude j = coarse.midpoint n) :
    (x < coarse.midpoint n → RoundsTo coarse x n) ∧
      (coarse.midpoint n < x → RoundsTo coarse x (n + 1)) := by
  constructor
  · intro hx
    refine .of_lt_of_lt (fun m hm => ?_) hx
    obtain ⟨k, hk⟩ := hrefines.exists_midpoint m
    -- otherwise rounding would lead past the midpoint below
    by_contra hle
    have hpast := hj.magnitude_le (k := k) (by rw [hk]; exact not_lt.mp hle)
    rw [hmid, hk, Format.midpoint_strictMono.le_iff_le] at hpast
    omega
  · intro hx
    refine .of_lt_of_lt (fun m hm => ?_) ?_
    · obtain rfl : m = n := by omega
      exact hx
    · obtain ⟨k, hk⟩ := hrefines.exists_midpoint (n + 1)
      by_contra hle
      have hpast := hj.le_magnitude (k := k) (by rw [hk]; exact not_lt.mp hle)
      rw [hmid, hk, Format.midpoint_strictMono.le_iff_le] at hpast
      omega

/-- Two roundings come to the same as one, if the first one does not lead onto a midpoint. -/
theorem of_twice (hrefines : Refines fine coarse) (hj : RoundsTo fine x j)
    (hn : RoundsTo coarse (fine.magnitude j) n)
    (hmid : ∀ m, fine.magnitude j = coarse.midpoint m → x = coarse.midpoint m) :
    RoundsTo coarse x n := by
  by_cases h : ∃ m, fine.magnitude j = coarse.midpoint m
  · obtain ⟨m, hm⟩ := h
    rwa [hmid m hm, ← hm]
  · refine .of_lt_of_lt (fun m hm => ?_) ?_
    · obtain ⟨k, hk⟩ := hrefines.exists_midpoint m
      have hlt : coarse.midpoint m < fine.magnitude j :=
        (hn.above m hm).resolve_right fun heq => h ⟨m, heq.1.symm⟩
      by_contra hle
      have hpast := hj.magnitude_le (k := k) (by rw [hk]; exact not_lt.mp hle)
      rw [hk] at hpast
      exact absurd hlt (not_lt.mpr hpast)
    · obtain ⟨k, hk⟩ := hrefines.exists_midpoint n
      have hlt : fine.magnitude j < coarse.midpoint n :=
        hn.below.resolve_right fun heq => h ⟨n, heq.1⟩
      by_contra hle
      have hpast := hj.le_magnitude (k := k) (by rw [hk]; exact not_lt.mp hle)
      rw [hk] at hpast
      exact absurd hlt (not_lt.mpr hpast)

/-- An earlier rounding does not lead past the midpoints around the result. -/
theorem magnitude_mem (hrefines : Refines fine coarse) (hj : RoundsTo fine x j)
    (hn : RoundsTo coarse x n) :
    (∀ m, m + 1 = n → coarse.midpoint m ≤ fine.magnitude j) ∧
      fine.magnitude j ≤ coarse.midpoint n := by
  constructor
  · rintro m rfl
    obtain ⟨k, hk⟩ := hrefines.exists_midpoint m
    exact hk ▸ hj.le_magnitude (hk ▸ hn.midpoint_le)
  · obtain ⟨k, hk⟩ := hrefines.exists_midpoint n
    exact hk ▸ hj.magnitude_le (hk ▸ hn.le_midpoint)

/-- Rounding to an even ordinal is not spoiled by an earlier rounding, as the midpoints around it
are rounded to it too. -/
theorem of_even (hrefines : Refines fine coarse) (hj : RoundsTo fine x j) (hn : RoundsTo coarse x n)
    (heven : Even n) : RoundsTo coarse (fine.magnitude j) n :=
  .of_le_of_le heven (hj.magnitude_mem hrefines hn).1 (hj.magnitude_mem hrefines hn).2

/-- A midpoint is rounded to the even one of its neighbours. -/
theorem midpoint (m : Nat) : RoundsTo coarse (coarse.midpoint m) (if Even m then m else m + 1) :=
  (of_between (Format.magnitude_lt_midpoint _ m).le (Format.midpoint_lt_magnitude_succ _ m)).2.2 rfl

end RoundsTo

/-- The first of two roundings leads onto a midpoint, from the side of the odd ordinal. -/
def LosesSide (fine coarse : Format) (x : ℚ) : Prop :=
  ∃ j m, RoundsTo fine x j ∧ fine.magnitude j = coarse.midpoint m ∧
    if Even m then coarse.midpoint m < x else x < coarse.midpoint m

/-- The neighbours of a midpoint that the first rounding leads onto from the side of the odd one:
the second rounding ends at the even one, a single rounding at the odd one. -/
theorem exists_midpoint_of_losesSide (hrefines : Refines fine coarse) (hj : RoundsTo fine x j)
    (hk : RoundsTo coarse (fine.magnitude j) k) (hn : RoundsTo coarse x n)
    (h : LosesSide fine coarse x) :
    ∃ m, fine.magnitude j = coarse.midpoint m ∧
      (if Even m then coarse.midpoint m < x else x < coarse.midpoint m) ∧
      k = (if Even m then m else m + 1) ∧ n = if Even m then m + 1 else m := by
  obtain ⟨j', m, hj', hmid, hside⟩ := h
  obtain rfl := hj'.unique hj
  obtain ⟨hbelow, habove⟩ := hj.of_midpoint hrefines hmid
  refine ⟨m, hmid, hside, ?_, ?_⟩
  · rw [hmid] at hk
    exact hk.unique (RoundsTo.midpoint m)
  · by_cases heven : Even m
    · rw [if_pos heven] at hside ⊢
      exact hn.unique (habove hside)
    · rw [if_neg heven] at hside ⊢
      exact hn.unique (hbelow hside)

/-- When two roundings come to the same as one. -/
theorem twice_eq_iff (hrefines : Refines fine coarse) (hj : RoundsTo fine x j)
    (hk : RoundsTo coarse (fine.magnitude j) k) (hn : RoundsTo coarse x n) :
    n = k ↔ ¬ LosesSide fine coarse x := by
  constructor
  · rintro rfl hloses
    obtain ⟨m, -, -, heven, hodd⟩ := exists_midpoint_of_losesSide hrefines hj hk hn hloses
    -- the two neighbours of a midpoint are not the same
    by_cases hm : Even m
    · rw [if_pos hm] at heven hodd
      omega
    · rw [if_neg hm] at heven hodd
      omega
  · intro hkeeps
    refine hn.unique ?_
    by_cases h : ∃ m, fine.magnitude j = coarse.midpoint m
    · obtain ⟨m, hmid⟩ := h
      obtain ⟨hbelow, habove⟩ := hj.of_midpoint hrefines hmid
      have hside : ¬ if Even m then coarse.midpoint m < x else x < coarse.midpoint m :=
        fun h => hkeeps ⟨j, m, hj, hmid, h⟩
      have hmidpoint : RoundsTo coarse (coarse.midpoint m) (if Even m then m else m + 1) :=
        .midpoint m
      rw [hmid] at hk
      rw [hk.unique hmidpoint]
      by_cases heven : Even m
      · rw [if_pos heven] at hside hmidpoint ⊢
        rcases (not_lt.mp hside).lt_or_eq with hlt | heq
        · exact hbelow hlt
        · rwa [heq]
      · rw [if_neg heven] at hside hmidpoint ⊢
        rcases (not_lt.mp hside).lt_or_eq with hlt | heq
        · exact habove hlt
        · rwa [← heq]
    · exact hj.of_twice hrefines hk fun m hmid => absurd ⟨m, hmid⟩ h

/-! ## Doubles in single precision -/

/-- Every finite single has the magnitude of a finite double. -/
theorem exists_double (hn : n ≤ Format.binary32.infinity) :
    ∃ k < Format.binary64.infinity, Format.binary64.magnitude k = Format.binary32.magnitude n := by
  obtain ⟨k, hk⟩ := refines_binary.exists_magnitude n
  refine ⟨k, ?_, hk⟩
  have hlt : Format.binary32.magnitude n < Format.binary64.magnitude Format.binary64.infinity :=
    calc Format.binary32.magnitude n
        ≤ Format.binary32.magnitude Format.binary32.infinity :=
          Format.magnitude_strictMono.monotone hn
      _ < Format.binary64.magnitude Format.binary64.infinity := by
        rw [Format.magnitude_infinity Format.standard_binary32,
          Format.magnitude_infinity Format.standard_binary64]
        exact pow_lt_pow_right₀ one_lt_two (by decide)
  rwa [← hk, Format.magnitude_strictMono.lt_iff_lt] at hlt

/-- The magnitude of the greatest finite single. -/
def greatestSingle : ℚ :=
  Format.binary32.magnitude (Format.binary32.infinity - 1)

theorem exceedsSingle_iff (hj : j < Format.binary64.infinity) :
    (ofOrdinal .binary64 negative j).exceedsSingle = true ↔
      greatestSingle < Format.binary64.magnitude j := by
  obtain ⟨k, hk, hmag⟩ := exists_double (Nat.sub_le Format.binary32.infinity 1)
  have hround : RoundsTo .binary64
      (Format.binary32.magnitude (Format.binary32.infinity - 1)) k :=
    hmag ▸ roundsTo_magnitude k
  have hwiden : widen largest = ofOrdinal .binary64 false k :=
    convert_eq Format.standard_binary64 (by decide) hround
  rw [greatestSingle, ← hmag, Format.magnitude_strictMono.lt_iff_lt]
  unfold exceedsSingle
  rw [hwiden, ← number_eq_ofOrdinal hj.le, ← number_eq_ofOrdinal hk.le]
  simp [hj]

/-- A finite double in single precision: rounded, unless it is beyond the greatest single. -/
theorem narrow?_eq (hj : j < Format.binary64.infinity)
    (h : RoundsTo .binary32 (Format.binary64.magnitude j) n) :
    narrow? (ofOrdinal .binary64 negative j) =
      if greatestSingle < Format.binary64.magnitude j then none
      else some (ofOrdinal .binary32 negative n) := by
  simp only [narrow?, exceedsSingle_iff hj, convert_eq Format.standard_binary32 hj h]

end ScalarServer.Floating
