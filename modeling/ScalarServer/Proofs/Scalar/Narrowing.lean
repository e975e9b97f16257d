import ScalarServer.Proofs.Floating.Narrowing
import ScalarServer.Proofs.Scalar.Modular

/-!
# Doubles as singles

A double is converted to a single, and a JSON number is decoded as one, in the same way: what is
beyond the greatest single is refused, and the rest is rounded, which keeps the order and leaves
alone what is a single already.

- `Narrows`, `narrows_iff`: a double becomes a single on both ways;
- `Refused`, `refused_iff`: a double becomes none on either;
- `convertVia_double`: singles come back from double precision;
- `narrowing_exact`: all of this for every double.
-/

namespace ScalarServer.Value

open Floating

variable {x : Binary64} {y : Binary32}

/-- A double becomes a single when it is converted, and also when a JSON number of its value is
decoded. -/
structure Narrows (x : Binary64) (y : Binary32) : Prop where
  /-- The conversion of the double. -/
  convert : (double x).convert .float = .ok (.float y)
  /-- The decoding of a JSON number. -/
  decode : ∀ n : Json.Number, n.toReal = x → ofJson (.number n) .float = .ok (.float y)

/-- A double is neither converted to a single nor decoded as one. The first failure shows its plain
text, the second one the JSON number. -/
structure Refused (x : Binary64) : Prop where
  /-- The conversion of the double. -/
  convert : (double x).convert .float = .error (.conversion (.ofList x.text) .float)
  /-- The decoding of a JSON number. -/
  decode : ∀ n : Json.Number, n.toReal = x →
    ofJson (.number n) .float = .error (.typeMismatch .float (Json.number n).render)

theorem convert_double_float (x : Binary64) : (double x).convert .float =
    match narrow? x with
    | some y => .ok (.float y)
    | none => .error (.conversion (.ofList x.text) .float) := rfl

theorem narrows_iff : Narrows x y ↔ narrow? x = some y := by
  constructor
  · intro h
    have hconvert := h.convert
    rw [convert_double_float] at hconvert
    split at hconvert <;> cases hconvert
    assumption
  · intro h
    refine ⟨by rw [convert_double_float, h], ?_⟩
    rintro n rfl
    simp only [ofJson, ofJson?, h, Option.map_some]

theorem refused_iff : Refused x ↔ narrow? x = none := by
  constructor
  · intro h
    have hconvert := h.convert
    rw [convert_double_float] at hconvert
    split at hconvert <;> cases hconvert
    assumption
  · intro h
    refine ⟨by rw [convert_double_float, h], ?_⟩
    rintro n rfl
    simp only [ofJson, ofJson?, h, Option.map_none]

/-- Singles come back from double precision, zeros with their sign. -/
theorem convertVia_double (y : Binary32) :
    (float y).convertVia .double .float = .ok (.float y) := by
  rw [convertVia_of_ok (u := .double y.widen) rfl]
  exact (narrows_iff.mpr (narrow?_widen y)).convert

/-- A double is refused exactly if it is finite and beyond the greatest single. Every other double
becomes a single, which is finite exactly if the double is, and has its exact value if that is the
value of some single. The order of doubles is kept. So singles come back from double precision. -/
theorem narrowing_exact :
    (∀ x : Binary64, Refused x ↔ x.exact.BeyondSingle) ∧
      (∀ x : Binary64, ¬ x.exact.BeyondSingle → ∃ y, Narrows x y ∧
        (y.isFinite = true ↔ x.isFinite = true) ∧
        ((∃ z : Binary32, z.exact = x.exact) → y.exact = x.exact)) ∧
      (∀ x x' y y', Narrows x y → Narrows x' y' → x.exact.AtMost x'.exact →
        y.exact.AtMost y'.exact) ∧
      ∀ y : Binary32, y ≠ .nan → (float y).convertVia .double .float = .ok (.float y) := by
  refine ⟨fun x => refused_iff.trans narrow?_eq_none_iff, fun x hx => ?_,
    fun x x' y y' hy hy' => ?_, fun y _ => convertVia_double y⟩
  · obtain ⟨y, hy⟩ := Option.ne_none_iff_exists'.mp (mt narrow?_eq_none_iff.mp hx)
    have hnarrowed := narrowed_of_narrow? hy
    refine ⟨y, narrows_iff.mpr hy, ?_, fun ⟨z, hz⟩ => hnarrowed.eq_of_exact_eq hz⟩
    rw [isFinite_iff, isFinite_iff, hnarrowed.finite_iff]
  · exact (narrowed_of_narrow? (narrows_iff.mp hy)).atMost
      (narrowed_of_narrow? (narrows_iff.mp hy'))

/-- The double behind the greatest single is refused, although it would be rounded to it, and the
greatest single itself is kept. The double behind one becomes one, which is not above that. Minus
zero comes back. -/
theorem narrowing_exact_greatest :
    Refused (ofOrdinal .binary64 false 0x47efffffe0000001) ∧
      (∃ y, Narrows (widen largest) y ∧
        (y.isFinite = true ↔ (widen largest).isFinite = true) ∧ y.exact = (widen largest).exact) ∧
      (ofOrdinal .binary32 false 0x3f800000).exact.AtMost (largest : Binary32).exact ∧
      (float zero.neg).convertVia .double .float = .ok (.float zero.neg) := by
  obtain ⟨hrefused, hnarrows, hmono, hback⟩ := narrowing_exact
  have hkept : narrow? (widen largest) = some largest := by rfl
  have hone : narrow? (ofOrdinal .binary64 false 0x3ff0000000000001) =
      some (ofOrdinal .binary32 false 0x3f800000) := by rfl
  have hbehind : narrow? (ofOrdinal .binary64 false 0x47efffffe0000001) = none := by rfl
  refine ⟨(hrefused _).mpr (narrow?_eq_none_iff.mp hbehind), ?_, ?_, hback _ (by decide)⟩
  · obtain ⟨y, hy, hfinite, hexact⟩ := hnarrows (widen largest) fun hbeyond =>
      absurd (narrow?_eq_none_iff.mpr hbeyond) (by simp [hkept])
    exact ⟨y, hy, hfinite, hexact ⟨largest, (exact_widen largest).symm⟩⟩
  · refine hmono _ _ _ _ (narrows_iff.mpr hone) (narrows_iff.mpr hkept) ?_
    have hlarge : widen largest = ofOrdinal .binary64 false 0x47efffffe0000000 := by rfl
    rw [hlarge, exact_ofOrdinal_of_lt (by decide), exact_ofOrdinal_of_lt (by decide)]
    exact .finite (Format.magnitude_strictMono.monotone (by decide))

end ScalarServer.Value
