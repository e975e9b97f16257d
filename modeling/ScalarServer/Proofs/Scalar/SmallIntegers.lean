import ScalarServer.Proofs.Scalar.IntegerPart

/-!
# Small integers in floating point

A floating-point format has every integer that needs no more digits than a significand: up to
`2 ^ 53` in double precision, and up to `2 ^ 24` in single precision. On the way into the format
such an integer is not rounded, and on the way back it has no fraction to lose and is not clamped.

- `Counts.convert_float`, `Counts.convert_double`: an integer is rounded to the nearest number;
- `Measures.convert_type`: a number that is an integer is converted to this integer;
- `convert_smallInteger`: both together, also for singles that are converted to doubles first.
-/

namespace ScalarServer.Value

open Floating

variable {u v : Value} {n : Int}

/-! ## There and back -/

/-- Integers are rounded once, whatever type they have. -/
theorem Counts.convert_float (h : Counts v n) :
    v.convert .float = .ok (.float (ofInt .binary32 n)) := by
  cases h <;> rfl

theorem Counts.convert_double (h : Counts v n) :
    v.convert .double = .ok (.double (ofInt .binary64 n)) := by
  cases h <;> rfl

/-- A number that is an integer of 64 bits with a sign is converted to the value that is this
integer. -/
theorem Measures.convert_type (hu : Measures u (.finite n)) (hv : Counts v n)
    (hlow : -2 ^ 63 ≤ n) (hhigh : n < 2 ^ 63) : u.convert v.type = .ok v := by
  have hconverts := hu.convertsAs
  rw [Exact.whole_intCast hlow hhigh] at hconverts
  exact hv.convert_type hconverts

/-- A floating-point value is exactly the integer `n`, and is converted back to the value that `n`
comes from. -/
structure Returns (u v : Value) (n : Int) : Prop where
  /-- Nothing is rounded. -/
  measures : Measures u (.finite n)
  /-- Nothing is lost. -/
  back : u.convert v.type = .ok v

/-! ## Small integers -/

/-- An integer up to `2 ^ 53` from zero is converted to the double that is exactly this integer, and
comes back from there. One up to `2 ^ 24` from zero is also converted to such a single, and comes
back from this single as well as from the double that the single is converted to. -/
theorem convert_smallInteger (h : Counts v n) :
    (|n| ≤ 2 ^ 53 → ∃ x, v.convert .double = .ok (.double x) ∧ Returns (.double x) v n) ∧
      (|n| ≤ 2 ^ 24 → ∃ y, v.convert .float = .ok (.float y) ∧ Returns (.float y) v n ∧
        ∃ x, (float y).convert .double = .ok (.double x) ∧ Returns (.double x) v n) := by
  have hback : ∀ {u}, |n| ≤ 2 ^ 53 → Measures u (.finite n) → Returns u v n := by
    intro u hn hu
    obtain ⟨hlow, hhigh⟩ := abs_le.mp hn
    exact ⟨hu, hu.convert_type h (by omega) (by omega)⟩
  constructor
  · intro hn
    have hexact : (ofInt .binary64 n).exact = .finite n :=
      exact_ofInt Format.standard_binary64 (by decide) hn
    exact ⟨_, h.convert_double, hback hn (hexact ▸ .double _)⟩
  · intro hn
    have hexact : (ofInt .binary32 n).exact = .finite n :=
      exact_ofInt Format.standard_binary32 (by decide) hn
    have hwiden : (widen (ofInt .binary32 n)).exact = .finite n := (exact_widen _).trans hexact
    have hsmall : |n| ≤ 2 ^ 53 := hn.trans (by norm_num)
    exact ⟨_, h.convert_float, hback hsmall (hexact ▸ .float _), _, rfl,
      hback hsmall (hwiden ▸ .double _)⟩

/-- The bounds themselves, for a type without a sign and for one with it. -/
theorem convert_smallInteger_bounds :
    Counts (.integer .uint64 9007199254740992 (by decide)) 9007199254740992 ∧
      |(9007199254740992 : Int)| ≤ 2 ^ 53 ∧
      (∃ x, (integer .uint64 9007199254740992 (by decide)).convert .double = .ok (.double x) ∧
        Returns (.double x) (.integer .uint64 9007199254740992 (by decide)) 9007199254740992) ∧
      Counts (.integer .int32 (-16777216) (by decide)) (-16777216) ∧
      |(-16777216 : Int)| ≤ 2 ^ 24 ∧
      ∃ y, (integer .int32 (-16777216) (by decide)).convert .float = .ok (.float y) ∧
        Returns (.float y) (.integer .int32 (-16777216) (by decide)) (-16777216) ∧
        ∃ x, (float y).convert .double = .ok (.double x) ∧
          Returns (.double x) (.integer .int32 (-16777216) (by decide)) (-16777216) := by
  have hlarge : Counts (.integer .uint64 9007199254740992 (by decide)) 9007199254740992 :=
    .integer _ _ _
  have hsmall : Counts (.integer .int32 (-16777216) (by decide)) (-16777216) := .integer _ _ _
  have hdouble : |(9007199254740992 : Int)| ≤ 2 ^ 53 := by norm_num
  have hsingle : |(-16777216 : Int)| ≤ 2 ^ 24 := by norm_num
  exact ⟨hlarge, hdouble, (convert_smallInteger hlarge).1 hdouble, hsmall, hsingle,
    (convert_smallInteger hsmall).2 hsingle⟩

-- one farther the bounds do not hold: the integer becomes its even neighbour
example : (integer .int64 9007199254740993 (by decide)).convertVia .double (.integer .int64) =
    .ok (integer .int64 9007199254740992 (by decide)) := by decide +kernel

example : (integer .uint32 16777217 (by decide)).convertVia .float (.integer .uint32) =
    .ok (integer .uint32 16777216 (by decide)) := by decide +kernel

end ScalarServer.Value
