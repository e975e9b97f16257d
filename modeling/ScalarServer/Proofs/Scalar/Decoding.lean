import ScalarServer.Scalar.Conversion

/-!
# What decoding gives

Strict and lenient decoding of a JSON value for a type give a value of this type, or an error that
names it.

- `type_of_ofJson`, `error_of_ofJson`: strict decoding, which complains about the type;
- `converts_convert`, `converts_coerceJson`: lenient decoding, which complains about the
  conversion.
-/

namespace ScalarServer

variable {value : Value} {target : ScalarType} {json : Json} {e : Error}

/-- What a conversion to a type can come to. -/
def Converts (target : ScalarType) : Except Error Value → Prop
  | .ok value => value.type = target
  | .error e => ∃ text, e = .conversion text target

namespace Value

/-! ## Strict decoding -/

theorem type_of_ofInt? {kind : IntegerType} {n : Int} (h : ofInt? kind n = some value) :
    value.type = .integer kind := by
  unfold ofInt? at h
  split at h <;> cases h
  rfl

theorem type_of_ofJson? (h : ofJson? target json = some value) : value.type = target := by
  unfold ofJson? at h
  split at h
  · cases h; rfl
  · exact type_of_ofInt? h
  · obtain ⟨x, -, rfl⟩ := Option.map_eq_some_iff.mp h
    rfl
  · cases h; rfl
  · cases h; rfl
  · cases h

/-- Strict decoding gives a value of the type. -/
theorem type_of_ofJson (h : ofJson json target = .ok value) : value.type = target := by
  unfold ofJson at h
  split at h
  · rename_i hsome
    cases h
    exact type_of_ofJson? hsome
  · cases h

/-- The only reason for which strict decoding fails. -/
theorem error_of_ofJson (h : ofJson json target = .error e) :
    ∃ found, e = .typeMismatch target found := by
  unfold ofJson at h
  split at h <;> cases h
  exact ⟨_, rfl⟩

end Value

/-! ## Lenient decoding -/

theorem Quantity.converts_toValue (q : Quantity) (target : ScalarType) :
    Converts target (q.toValue target) := by
  cases target with
  | boolean => rfl
  | integer kind => rfl
  | float =>
    cases q with
    | integer n => rfl
    | real x =>
      simp only [toValue]
      split
      · rfl
      · exact ⟨_, rfl⟩
  | double => cases q <;> rfl
  | string => rfl

namespace Value

/-- Conversion gives a value of the type, or an error that names it. -/
theorem converts_convert (v : Value) (target : ScalarType) :
    Converts target (v.convert target) := by
  unfold convert
  split
  · assumption
  · split
    · rfl
    · rfl
    · split
      · exact Quantity.converts_toValue _ _
      · exact ⟨_, rfl⟩
    · split
      · exact Quantity.converts_toValue _ _
      · exact ⟨_, rfl⟩

/-- Lenient decoding gives a value of the type, or an error that names it. -/
theorem converts_coerceJson (json : Json) (target : ScalarType) :
    Converts target (coerceJson json target) := by
  unfold coerceJson
  split
  · rename_i hsome
    exact type_of_ofJson? hsome
  · split
    · exact converts_convert _ _
    · exact ⟨_, rfl⟩

end Value

end ScalarServer
