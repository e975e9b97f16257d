import ScalarServer.Proofs.Floating.Truncation
import ScalarServer.Proofs.Scalar.Modular

/-!
# Conversion of floating-point numbers to integers

A number loses its fraction, is brought into the range of 64 bits with a sign, and is then converted
like an integer. Only its exact value matters, so a single and the double that stands for the same
are converted to the same.

- `Measures`: the exact value of a floating-point value;
- `Measures.convertsAs`: it is treated as the integer part of its exact value;
- `convert_integerPart`: all of this for every floating-point value.
-/

namespace ScalarServer

open Floating

namespace Quantity

/-- A quantity in the range of 64 bits with a sign is true unless its integer part is zero. -/
theorem toValue_boolean {q : Quantity} (h : IntegerType.int64.Holds q.whole) :
    q.toValue .boolean = .ok (.boolean (decide (q.whole ≠ 0))) := by
  show Except.ok (Value.boolean (IntegerType.int64.wrap q.whole != 0)) = _
  rw [IntegerType.wrap_of_holds h, bne, beq_eq_decide, decide_not]

end Quantity

namespace Value

variable {v : Value} {e : Exact}

/-- The exact value of a single or a double. -/
inductive Measures : Value → Exact → Prop where
  /-- Singles, -/
  | float (x : Binary32) : Measures (.float x) x.exact
  /-- and doubles. -/
  | double (x : Binary64) : Measures (.double x) x.exact

/-- In lenient conversion a floating-point value is a double of its exact value. -/
theorem Measures.exists_quantity (h : Measures v e) :
    ∃ x : Binary64, Quantity.ofValue? v = some (.real x) ∧ x.exact = e := by
  cases h with
  | float x => exact ⟨x.widen, rfl, exact_widen x⟩
  | double x => exact ⟨x, rfl, rfl⟩

/-- A floating-point value is treated as the integer part of its exact value. -/
theorem Measures.convertsAs (h : Measures v e) : ConvertsAs v e.whole := by
  obtain ⟨x, hquantity, hexact⟩ := h.exists_quantity
  have hwhole : (Quantity.real x).whole = e.whole := by
    rw [← hexact]
    exact truncate_eq x
  have hholds : IntegerType.int64.Holds (Quantity.real x).whole := by
    rw [hwhole]
    exact e.whole_bounds
  -- no floating-point value has the type of the result already
  have hinteger : ∀ kind,
      v.convert (.integer kind) = (Quantity.real x).toValue (.integer kind) := by
    intro kind
    cases h <;> cases hquantity <;> rfl
  have hboolean : v.convert .boolean = (Quantity.real x).toValue .boolean := by
    cases h <;> cases hquantity <;> rfl
  rw [← hwhole]
  exact ⟨fun kind => hinteger kind, hboolean.trans (Quantity.toValue_boolean hholds)⟩

/-- A floating-point value is converted to the one value of an integer type that is congruent to its
integer part in 64 bits with a sign, and to the truth value that says whether it is at least as far
from zero as one. Nothing matters but the exact value, which double precision always has. -/
theorem convert_integerPart (h : Measures v e) :
    (∀ kind, GivesResidue (v.convert (.integer kind)) kind e.whole) ∧
      (∃ b, v.convert .boolean = .ok (.boolean b) ∧ (b = true ↔ e.AtLeastOne)) ∧
      (∃ x : Binary64, Measures (.double x) e) ∧
      ∀ u, Measures u e → ∀ target, target = .boolean ∨ target.isInteger = true →
        u.convert target = v.convert target := by
  refine ⟨fun kind => givesResidue_iff.mpr (h.convertsAs.integer kind),
    ⟨_, h.convertsAs.boolean, by rw [decide_eq_true_eq, e.whole_ne_zero_iff]⟩, ?_,
    fun _ hu _ htarget => hu.convertsAs.congr h.convertsAs htarget⟩
  obtain ⟨x, -, rfl⟩ := h.exists_quantity
  exact ⟨x, .double x⟩

/-- A number below minus one: its fraction goes first, and its integer part wraps. -/
theorem convert_integerPart_below :
    Measures (.double (ofBits .binary64 0xc072cb3333333333))
        (ofBits .binary64 0xc072cb3333333333).exact ∧
      (ofBits .binary64 0xc072cb3333333333).exact.whole = -300 ∧
      GivesResidue ((double (ofBits .binary64 0xc072cb3333333333)).convert (.integer .byte))
        .byte (-300) ∧
      ∃ b, (double (ofBits .binary64 0xc072cb3333333333)).convert .boolean = .ok (.boolean b) ∧
        (b = true ↔ (ofBits .binary64 0xc072cb3333333333).exact.AtLeastOne) := by
  have hmeasures := Measures.double (ofBits .binary64 0xc072cb3333333333)
  have hwhole : (ofBits .binary64 0xc072cb3333333333).exact.whole = -300 :=
    (truncate_eq _).symm.trans (by decide)
  obtain ⟨hresidue, hboolean, -, -⟩ := convert_integerPart hmeasures
  exact ⟨hmeasures, hwhole, hwhole ▸ hresidue .byte, hboolean⟩

end Value

end ScalarServer
