import Mathlib.Data.Nat.Basic
import Mathlib.Tactic.Linarith
import Mathlib.Tactic.Ring
import ScalarServer.Power

/-!
# Fractions close to a quotient

Which fractions with a numerator and a denominator of few digits are so close to a given quotient
that rounding to double precision cannot tell them apart. Two fractions `a / b < c / d` are
neighbours if `b * c = a * d + 1`; between neighbours there is no fraction with a denominator below
`b + d`. It is therefore enough to find the neighbours around the quotient, and only they can be
close to it.

- `le_or_le_of_neighbours`: nothing lies between neighbours;
- `Close`: what cannot be told apart from a quotient, but is not equal to it;
- `Encloses.eq_or_eq_of_close`: what is close to a quotient is one of the neighbours around it;
- `enclosing`: how the neighbours are found.
-/

namespace ScalarServer.Decimal

variable {num den a b c d p q : Nat}

/-- Between neighbours there are no fractions with small denominators. -/
theorem le_or_le_of_neighbours (h : b * c = a * d + 1) (hq : q < b + d) :
    p * b ≤ a * q ∨ c * q ≤ p * d := by
  by_contra hinside
  simp only [not_or, Nat.not_le] at hinside
  obtain ⟨hlow, hhigh⟩ := hinside
  -- the cross differences with both neighbours are positive and add up to the denominator
  have hsum : b * (c * q) + d * (p * b) = b * (p * d) + d * (a * q) + q := by
    calc b * (c * q) + d * (p * b) = (b * c) * q + b * (p * d) := by ring
      _ = (a * d + 1) * q + b * (p * d) := by rw [h]
      _ = b * (p * d) + d * (a * q) + q := by ring
  have hlow' : d * (a * q) + d ≤ d * (p * b) := Nat.mul_le_mul_left d hlow
  have hhigh' : b * (p * d) + b ≤ b * (c * q) := Nat.mul_le_mul_left b hhigh
  omega

/-- Neighbours are in lowest terms. -/
theorem coprime_of_neighbours (h : b * c = a * d + 1) :
    Nat.Coprime b a ∧ Nat.Coprime d c := by
  constructor
  · refine Nat.dvd_one.mp ((Nat.dvd_add_right ((Nat.gcd_dvd_right b a).mul_right d)).mp ?_)
    exact h ▸ (Nat.gcd_dvd_left b a).mul_right c
  · refine Nat.dvd_one.mp ((Nat.dvd_add_right ((Nat.gcd_dvd_left d c).mul_left a)).mp ?_)
    exact h ▸ (Nat.gcd_dvd_right d c).mul_left b

/-! ## Closeness -/

/-- A fraction `p / q` that differs from `num / den`, but by no more than half of the last digit of
a double. -/
structure Close (num den p q : Nat) : Prop where
  /-- It differs. -/
  ne : p * den ≠ q * num
  /-- It is not much smaller. -/
  low : q * num * (2 ^ 53 - 1) ≤ p * den * 2 ^ 53
  /-- It is not much larger. -/
  high : p * den * 2 ^ 53 ≤ q * num * (2 ^ 53 + 1)

instance (num den p q : Nat) : Decidable (Close num den p q) :=
  decidable_of_iff (_ ∧ _ ∧ _) ⟨fun h => ⟨h.1, h.2.1, h.2.2⟩, fun h => ⟨h.1, h.2, h.3⟩⟩

namespace Close

/-- Closeness does not depend on how a fraction is written. -/
theorem of_eq (h : Close num den p q) (hq : 0 < q) (hb : 0 < b) (heq : p * b = a * q) :
    Close num den a b := by
  have hscale : a * den * q = p * den * b := by
    rw [Nat.mul_right_comm, ← heq, Nat.mul_right_comm]
  refine ⟨fun hab => h.ne (Nat.eq_of_mul_eq_mul_right hb ?_), ?_, ?_⟩
  · rw [← hscale, hab]
    ring
  · refine Nat.le_of_mul_le_mul_right ?_ hq
    calc b * num * (2 ^ 53 - 1) * q = q * num * (2 ^ 53 - 1) * b := by ring
      _ ≤ p * den * 2 ^ 53 * b := Nat.mul_le_mul_right b h.low
      _ = a * den * 2 ^ 53 * q := by rw [Nat.mul_right_comm, ← hscale]; ring
  · refine Nat.le_of_mul_le_mul_right ?_ hq
    calc a * den * 2 ^ 53 * q = p * den * 2 ^ 53 * b := by
          rw [Nat.mul_right_comm, hscale]; ring
      _ ≤ q * num * (2 ^ 53 + 1) * b := Nat.mul_le_mul_right b h.high
      _ = b * num * (2 ^ 53 + 1) * q := by ring

/-- Two fractions with few digits are too far apart for the smaller one to be close to anything
above the larger one. -/
theorem not_lt (h : Close num den p q) (hle : num ≤ den) (hden : 0 < den) (hq : q < 2 ^ 25)
    (hb : b < 2 ^ 25) (habove : a * den ≤ num * b) : ¬ p * b < a * q := by
  intro hlt
  -- the distance allowed is below one unit of the cross differences, which are integers
  have hsmall : q * num * b ≤ 2 ^ 25 * den * 2 ^ 25 :=
    Nat.mul_le_mul (Nat.mul_le_mul hq.le hle) hb.le
  have hlow : q * num * b * (2 ^ 53 - 1) ≤ p * b * den * 2 ^ 53 := by
    calc q * num * b * (2 ^ 53 - 1) = q * num * (2 ^ 53 - 1) * b := by ring
      _ ≤ p * den * 2 ^ 53 * b := Nat.mul_le_mul_right b h.low
      _ = p * b * den * 2 ^ 53 := by ring
  have hstep : p * b * den + den ≤ q * num * b := by
    calc p * b * den + den = (p * b + 1) * den := by ring
      _ ≤ a * q * den := Nat.mul_le_mul_right den hlt
      _ = a * den * q := by ring
      _ ≤ num * b * q := Nat.mul_le_mul_right q habove
      _ = q * num * b := by ring
  omega

/-- Nor is the larger one close to anything below the smaller one. -/
theorem not_gt (h : Close num den p q) (hle : num ≤ den) (hden : 0 < den) (hq : q < 2 ^ 25)
    (hd : d < 2 ^ 25) (hbelow : num * d ≤ c * den) : ¬ c * q < p * d := by
  intro hlt
  have hsmall : q * num * d ≤ 2 ^ 25 * den * 2 ^ 25 :=
    Nat.mul_le_mul (Nat.mul_le_mul hq.le hle) hd.le
  have hhigh : p * d * den * 2 ^ 53 ≤ q * num * d * (2 ^ 53 + 1) := by
    calc p * d * den * 2 ^ 53 = p * den * 2 ^ 53 * d := by ring
      _ ≤ q * num * (2 ^ 53 + 1) * d := Nat.mul_le_mul_right d h.high
      _ = q * num * d * (2 ^ 53 + 1) := by ring
  have hstep : q * num * d + den ≤ p * d * den := by
    calc q * num * d + den = num * d * q + den := by ring
      _ ≤ c * den * q + den := Nat.add_le_add_right (Nat.mul_le_mul_right q hbelow) den
      _ = (c * q + 1) * den := by ring
      _ ≤ p * d * den := Nat.mul_le_mul_right den hlt
  omega

end Close

/-! ## Neighbours around a quotient -/

/-- Two neighbours with a quotient between them, and no fraction of few digits between them. -/
structure Encloses (num den : Nat) (low high : Nat × Nat) : Prop where
  /-- They are neighbours. -/
  neighbours : low.2 * high.1 = low.1 * high.2 + 1
  /-- The first one is not above the quotient. -/
  low_le : low.1 * den ≤ num * low.2
  /-- The second one is not below the quotient. -/
  le_high : num * high.2 ≤ high.1 * den
  /-- The denominator of the first one has few digits. -/
  low_lt : low.2 < 2 ^ 25
  /-- The denominator of the second one has few digits. -/
  high_lt : high.2 < 2 ^ 25
  /-- Their sum has more digits. -/
  le_add : 2 ^ 25 ≤ low.2 + high.2

instance (num den : Nat) (low high : Nat × Nat) : Decidable (Encloses num den low high) :=
  decidable_of_iff (_ ∧ _ ∧ _ ∧ _ ∧ _ ∧ _)
    ⟨fun ⟨h₁, h₂, h₃, h₄, h₅, h₆⟩ => ⟨h₁, h₂, h₃, h₄, h₅, h₆⟩,
      fun ⟨h₁, h₂, h₃, h₄, h₅, h₆⟩ => ⟨h₁, h₂, h₃, h₄, h₅, h₆⟩⟩

/-- A fraction of few digits that is close to the quotient is one of the neighbours. -/
theorem Encloses.eq_or_eq_of_close {low high : Nat × Nat} (h : Encloses num den low high)
    (hle : num ≤ den) (hden : 0 < den) (hclose : Close num den p q) (hq : q < 2 ^ 25) :
    p * low.2 = low.1 * q ∨ p * high.2 = high.1 * q := by
  refine (le_or_le_of_neighbours (p := p) h.neighbours (hq.trans_le h.le_add)).imp ?_ ?_
  · intro hp
    exact hp.antisymm (Nat.not_lt.mp (hclose.not_lt hle hden hq h.low_lt h.low_le))
  · intro hp
    exact (hp.antisymm (Nat.not_lt.mp (hclose.not_gt hle hden hq h.high_lt h.le_high))).symm

/-- Moves the two neighbours towards a quotient below one, as long as their denominators have few
digits. Nothing depends on how they are found, as `Encloses` can be checked. -/
def enclosing (num den : Nat) : Nat → Nat × Nat → Nat × Nat → (Nat × Nat) × (Nat × Nat)
  | 0, low, high => (low, high)
  | fuel + 1, (a, b), (c, d) =>
    let up := min ((num * b - a * den) / (c * den - num * d)) ((2 ^ 25 - 1 - b) / d)
    let (a, b) := (a + up * c, b + up * d)
    -- a lower neighbour that is already equal to the quotient does not stop the other one
    let down :=
      if num * b = a * den then (2 ^ 25 - 1 - d) / b
      else min ((c * den - num * d - 1) / (num * b - a * den)) ((2 ^ 25 - 1 - d) / b)
    enclosing num den fuel (a, b) (c + down * a, d + down * b)

end ScalarServer.Decimal
