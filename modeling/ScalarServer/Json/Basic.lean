import ScalarServer.Floating.Round

/-!
# JSON values

A JSON number is an integer of 64 bits, signed or unsigned, or a finite double. A number written
with a fraction or an exponent is never an integer here, and neither is minus zero. An object
keeps one value for each key, in the order of the keys.
-/

namespace ScalarServer

/-- The integers of 64 bits, with or without a sign. -/
def Json.Number.Fits (n : Int) : Prop :=
  -9223372036854775808 ≤ n ∧ n ≤ 18446744073709551615

instance (n : Int) : Decidable (Json.Number.Fits n) :=
  inferInstanceAs (Decidable (_ ∧ _))

/-- A number as a JSON text can hold it. -/
inductive Json.Number where
  /-- An integer that fits 64 bits, with or without a sign. -/
  | integer (n : Int) (fits : Json.Number.Fits n)
  /-- A finite double. -/
  | real (x : Binary64) (finite : x.isFinite = true)
deriving DecidableEq

/-- A JSON value. -/
inductive Json where
  /-- `null`. -/
  | null
  /-- `true` or `false`. -/
  | bool (b : Bool)
  /-- A number. -/
  | number (n : Json.Number)
  /-- A string. -/
  | string (s : String)
  /-- A list of values. -/
  | array (items : List Json)
  /-- Values under distinct keys, sorted by key. -/
  | object (fields : List (String × Json))

namespace Json

/-- The number for an integer: itself if it fits, otherwise none. -/
def Number.ofInt? (n : Int) : Option Number :=
  if h : Fits n then some (.integer n h) else none

/-- The number for a double; none for NaN and the infinities. -/
def Number.ofReal? (x : Binary64) : Option Number :=
  if h : x.isFinite = true then some (.real x h) else none

/-- A number as a double: a real as it is, an integer rounded to the nearest. -/
def Number.toReal : Number → Binary64
  | .integer n _ => .ofInt .binary64 n
  | .real x _ => x

/-- Puts a value under a key into sorted fields, in place of one that is there already. -/
def insertField (key : String) (value : Json) : List (String × Json) → List (String × Json)
  | [] => [(key, value)]
  | (k, v) :: rest =>
    if key < k then (key, value) :: (k, v) :: rest
    else if key = k then (key, value) :: rest
    else (k, v) :: insertField key value rest

/-- The object with some fields; of several values for one key the last one counts. -/
def ofFields (fields : List (String × Json)) : Json :=
  .object (fields.foldl (fun acc (k, v) => insertField k v acc) [])

/-- The value under a key of an object. -/
def field? (key : String) : Json → Option Json
  | .object fields => (fields.find? (·.1 == key)).map (·.2)
  | _ => none

/-- A value is found under the key that it has been put under, and nothing else has changed. -/
theorem find?_insertField (key other : String) (value : Json) (fields : List (String × Json)) :
    (insertField key value fields).find? (·.1 == other) =
      if key = other then some (key, value) else fields.find? (·.1 == other) := by
  induction fields with
  | nil => by_cases h : key = other <;> simp [insertField, h]
  | cons field fields ih =>
    obtain ⟨k, v⟩ := field
    rw [insertField]
    split
    · by_cases h : key = other <;> simp [h]
    · split
      · -- the value takes the place of one under the same key
        rename_i heq
        by_cases h : key = other <;> simp [← heq, h]
      · rename_i hne
        by_cases h : k = other
        · subst h
          simp [hne]
        · simp [h, ih]

/-- Under a key of an object stands the last one of the values that were given for it. -/
theorem field?_ofFields (key : String) (fields : List (String × Json)) :
    (ofFields fields).field? key = (fields.reverse.find? (·.1 == key)).map (·.2) := by
  -- what has been put in before counts only if nothing comes for the key
  have hfold : ∀ acc, (fields.foldl (fun acc (k, v) => insertField k v acc) acc).find?
      (·.1 == key) = (fields.reverse.find? (·.1 == key)).or (acc.find? (·.1 == key)) := by
    induction fields with
    | nil => simp
    | cons field fields ih =>
      obtain ⟨k, v⟩ := field
      intro acc
      rw [List.foldl_cons, ih, find?_insertField, List.reverse_cons, List.find?_append,
        Option.or_assoc]
      by_cases h : k = key <;> simp [h]
  rw [ofFields, field?, hfold]
  simp

end Json

end ScalarServer
