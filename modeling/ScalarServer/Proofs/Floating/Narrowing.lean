import ScalarServer.Proofs.Floating.Range
import ScalarServer.Proofs.Floating.Truncation

/-!
# From double to single precision

A double in single precision, in terms of exact values alone: it is refused exactly if it is finite
and beyond the greatest single, and otherwise it becomes the nearest single, which is finite as
well. NaN and the infinities stay what they are.

- `Exact.AtMost`: the order of exact values;
- `Exact.BeyondSingle`, `narrow?_eq_none_iff`: which doubles are refused;
- `Narrowed`, `narrowed_of_narrow?`: what becomes of the others;
- `Narrowed.atMost`: their order is kept;
- `Narrowed.finite_iff`: what is finite stays so, and what is not as well;
- `Narrowed.eq_of_exact_eq`: what is a single already is left as it is;
- `narrow?_widen`: the way from a single to a double leads back.
-/

namespace ScalarServer.Floating

variable {fmt : Format} {a a' b b' e e' : Exact} {x : Binary64} {y : Binary32} {p q : ℚ} {m n : Nat}

/-! ## Finite and other numbers -/

/-- A number is NaN, an infinity, or has the ordinal of a finite magnitude. -/
theorem eq_ofOrdinal_cases (x : Floating fmt) :
    x = .nan ∨ (∃ negative, x = ofOrdinal fmt negative fmt.infinity) ∨
      ∃ negative n, n < fmt.infinity ∧ x = ofOrdinal fmt negative n := by
  cases x with
  | nan => exact .inl rfl
  | number negative n hn =>
    rw [number_eq_ofOrdinal hn]
    rcases hn.lt_or_eq with hlt | rfl
    · exact .inr (.inr ⟨negative, n, hlt, rfl⟩)
    · exact .inr (.inl ⟨negative, rfl⟩)

/-- The finite numbers are those that stand for a rational number. -/
theorem isFinite_iff (x : Floating fmt) : x.isFinite = true ↔ ∃ q, x.exact = .finite q := by
  rcases eq_ofOrdinal_cases x with rfl | ⟨negative, rfl⟩ | ⟨negative, n, hn, rfl⟩
  · exact iff_of_false Bool.false_ne_true (by simp [exact])
  · rw [exact_ofOrdinal_of_le le_rfl]
    exact iff_of_false (by simp [isFinite, ofOrdinal]) (by simp)
  · rw [exact_ofOrdinal_of_lt hn]
    exact iff_of_true (isFinite_ofOrdinal hn) ⟨_, rfl⟩

/-! ## The order of exact values -/

namespace Exact

/-- The order of exact values. What is undefined has no place in it. -/
inductive AtMost : Exact → Exact → Prop where
  /-- Minus infinity comes before everything, -/
  | least {e : Exact} (defined : e ≠ .undefined) : AtMost (.infinite true) e
  /-- infinity comes behind everything, -/
  | greatest {e : Exact} (defined : e ≠ .undefined) : AtMost e (.infinite false)
  /-- and rational numbers are in their own order. -/
  | finite {p q : ℚ} (le : p ≤ q) : AtMost (.finite p) (.finite q)

/-- A rational number that is farther from zero than the greatest single. -/
def BeyondSingle : Exact → Prop
  | .finite q => greatestSingle < |q|
  | .undefined | .infinite _ => False

end Exact

/-! ## Nearest singles -/

/-- An exact value becomes another one in single precision. -/
inductive Narrowed : Exact → Exact → Prop where
  /-- What is undefined stays undefined, -/
  | undefined : Narrowed .undefined .undefined
  /-- and an infinity stays this infinity. -/
  | infinite (negative : Bool) : Narrowed (.infinite negative) (.infinite negative)
  /-- A rational number becomes the nearest single of its sign, which is finite. -/
  | finite {q : ℚ} {n : Nat} (nearest : RoundsTo .binary32 |q| n)
      (finite : n < Format.binary32.infinity) :
      Narrowed (.finite q)
        (.finite (if q < 0 then -Format.binary32.magnitude n else Format.binary32.magnitude n))

theorem abs_signed (negative : Bool) (hq : 0 ≤ q) : |if negative then -q else q| = q := by
  cases negative with
  | true => rw [if_pos rfl, abs_neg, abs_of_nonneg hq]
  | false => exact abs_of_nonneg hq

/-- The sign of a number is that of what it is rounded from, as far as zero has one. -/
theorem RoundsTo.signed_eq (h : RoundsTo fmt q n) (negative : Bool) (hq : 0 ≤ q) :
    (if (if negative then -q else q) < 0 then -fmt.magnitude n else fmt.magnitude n) =
      if negative then -fmt.magnitude n else fmt.magnitude n := by
  cases negative with
  | true =>
    rcases hq.eq_or_lt with rfl | hpos
    · obtain rfl := h.eq_zero
      simp [Format.magnitude_zero]
    · exact if_pos (neg_neg_of_pos hpos)
  | false => exact if_neg (not_lt.mpr hq)

/-- Rounding magnitudes and keeping the signs keeps the order. -/
theorem signed_le (hp : RoundsTo fmt |p| m) (hq : RoundsTo fmt |q| n) (h : p ≤ q) :
    (if p < 0 then -fmt.magnitude m else fmt.magnitude m) ≤
      if q < 0 then -fmt.magnitude n else fmt.magnitude n := by
  have hm := fmt.magnitude_nonneg m
  have hn := fmt.magnitude_nonneg n
  split <;> split
  · -- of two negative numbers, the smaller one has the larger magnitude
    rename_i hpneg hqneg
    rw [abs_of_neg hpneg] at hp
    rw [abs_of_neg hqneg] at hq
    exact neg_le_neg (Format.magnitude_strictMono.monotone (hq.monotone hp (neg_le_neg h)))
  · linarith
  · rename_i hpneg hqneg
    exact absurd (h.trans_lt hqneg) hpneg
  · rename_i hpneg hqneg
    rw [abs_of_nonneg (not_lt.mp hpneg)] at hp
    rw [abs_of_nonneg (not_lt.mp hqneg)] at hq
    exact Format.magnitude_strictMono.monotone (hp.monotone hq h)

/-- A finite double beyond the greatest single has none. -/
theorem narrow?_eq_none_iff : narrow? x = none ↔ x.exact.BeyondSingle := by
  rcases eq_ofOrdinal_cases x with rfl | ⟨negative, rfl⟩ | ⟨negative, j, hj, rfl⟩
  · exact iff_of_false (Option.some_ne_none _) id
  · rw [narrow?_infinity le_rfl, exact_ofOrdinal_of_le le_rfl]
    exact iff_of_false (Option.some_ne_none _) id
  · have hnonneg := Format.binary64.magnitude_nonneg j
    obtain ⟨n, hn⟩ := exists_roundsTo Format.standard_binary32 hnonneg
    -- on both sides the magnitude is compared with the greatest single
    rw [narrow?_eq hj hn, exact_ofOrdinal_of_lt hj, Exact.BeyondSingle, abs_signed _ hnonneg]
    simp

/-- Every other double becomes the nearest single. -/
theorem narrowed_of_narrow? (h : narrow? x = some y) : Narrowed x.exact y.exact := by
  rcases eq_ofOrdinal_cases x with rfl | ⟨negative, rfl⟩ | ⟨negative, j, hj, rfl⟩
  · cases h
    exact .undefined
  · rw [narrow?_infinity le_rfl] at h
    cases h
    rw [exact_ofOrdinal_of_le le_rfl, exact_ofOrdinal_of_le le_rfl]
    exact .infinite negative
  · have hnonneg := Format.binary64.magnitude_nonneg j
    obtain ⟨n, hn⟩ := exists_roundsTo Format.standard_binary32 hnonneg
    rw [narrow?_eq hj hn] at h
    split at h
    · cases h
    · rename_i hle
      cases h
      have hfinite : n < Format.binary32.infinity := hn.lt_infinity (not_lt.mp hle)
      -- the sign is taken from the number, but can be read off its value
      rw [exact_ofOrdinal_of_lt hj, exact_ofOrdinal_of_lt hfinite, ← hn.signed_eq negative hnonneg]
      exact .finite ((abs_signed negative hnonneg).symm ▸ hn) hfinite

namespace Narrowed

/-- Rounding keeps the order. -/
theorem atMost (ha : Narrowed a a') (hb : Narrowed b b') (h : a.AtMost b) : a'.AtMost b' := by
  cases h with
  | least hdefined =>
    cases ha
    refine .least ?_
    cases hb with
    | undefined => exact absurd rfl hdefined
    | infinite negative => simp
    | finite nearest finite => simp
  | greatest hdefined =>
    cases hb
    refine .greatest ?_
    cases ha with
    | undefined => exact absurd rfl hdefined
    | infinite negative => simp
    | finite nearest finite => simp
  | finite hle =>
    rcases ha with _ | _ | ⟨hm, -⟩
    rcases hb with _ | _ | ⟨hn, -⟩
    exact .finite (signed_le hm hn hle)

/-- Rational numbers stay rational numbers, and nothing else becomes one. -/
theorem finite_iff (h : Narrowed e e') : (∃ q, e' = .finite q) ↔ ∃ q, e = .finite q := by
  cases h <;> simp

/-- What is the exact value of a single is not changed. -/
theorem eq_of_exact_eq (h : Narrowed e e') (hy : y.exact = e) : e' = e := by
  cases h with
  | undefined => rfl
  | infinite negative => rfl
  | finite hn hfinite =>
    rcases eq_ofOrdinal_cases y with rfl | ⟨negative, rfl⟩ | ⟨negative, k, hk, rfl⟩
    · cases hy
    · rw [exact_ofOrdinal_of_le le_rfl] at hy
      cases hy
    · have hnonneg := Format.binary32.magnitude_nonneg k
      rw [exact_ofOrdinal_of_lt hk] at hy
      cases hy
      -- its magnitude is one of the format, and is rounded to itself
      rw [abs_signed negative hnonneg] at hn
      obtain rfl := hn.unique (roundsTo_magnitude k)
      rw [hn.signed_eq negative hnonneg]

end Narrowed

/-- A single is found again in single precision, with its sign. -/
theorem narrow?_widen (y : Binary32) : narrow? y.widen = some y := by
  rcases eq_ofOrdinal_cases y with rfl | ⟨negative, rfl⟩ | ⟨negative, n, hn, rfl⟩
  · rfl
  · cases negative <;> rfl
  · -- there is a double of the same magnitude, so that nothing is rounded on either way
    obtain ⟨k, hk, hmagnitude⟩ := exists_double hn.le
    have hwiden : RoundsTo .binary64 (Format.binary32.magnitude n) k :=
      hmagnitude ▸ roundsTo_magnitude k
    have hround : RoundsTo .binary32 (Format.binary64.magnitude k) n :=
      hmagnitude ▸ roundsTo_magnitude n
    have hle : Format.binary32.magnitude n ≤ greatestSingle :=
      Format.magnitude_strictMono.monotone (Nat.le_pred_of_lt hn)
    rw [widen, convert_eq Format.standard_binary64 hn hwiden, narrow?_eq hk hround, hmagnitude,
      if_neg (not_lt.mpr hle)]

end ScalarServer.Floating
