import Mathlib.Data.List.Forall2
import ScalarServer.Json.Decode

/-!
# Reading lists and records

What the readers of lists and records come to, by the readers of their parts.

- `toList_document`, `mapM_eq_ok_iff`: a list is read item by item;
- `readMembers_cons`, `toRecord_object`: a record is read member by member from an object that has
  all that is needed;
- `RecordField.Keeps`, `readMembers_invariant`, `readItems_invariant`, `toRecord_invariant`: what
  every field keeps holds of a record that has been read, from an object or from an array.
-/

namespace ScalarServer.Json

variable {ρ α β : Type} {fields : List (RecordField ρ)} {collected read : ρ}

/-! ## Readers one after the other -/

/-- Two readers succeed together exactly if both succeed. -/
theorem bind_eq_ok_iff {x : Except Problem α} {f : α → Except Problem β} {b : β} :
    x >>= f = .ok b ↔ ∃ a, x = .ok a ∧ f a = .ok b := by
  cases x <;> simp [bind, Except.bind]

/-- Nothing is read of a document of the wrong type. -/
theorem wrongType_ne_ok (d : Document) (expected : String) (a : α) :
    d.wrongType expected ≠ .ok a := by
  intro h
  obtain ⟨found, -, hfound⟩ := bind_eq_ok_iff.mp h
  cases hfound

/-! ## Lists -/

theorem documents_eq_map (items : List Json) : documents items = items.map document := by
  induction items with
  | nil => rfl
  | cons item items ih => rw [documents, ih, List.map_cons]

/-- A list is read item by item. -/
theorem toList_document (write : α → Json) (reader : Document → Except Problem β)
    (as : List α) : (Json.array (as.map write)).document.toList reader =
      as.mapM fun a => reader (write a).document := by
  rw [document, documents_eq_map, Document.toList, List.map_map, List.mapM_map]
  show (as.mapM fun a => reader (write a).document) >>= pure = _
  rw [bind_pure]

/-- Each item of a list is read, or the list is not. -/
theorem mapM_eq_ok_iff {f : α → Except Problem β} {as : List α} {bs : List β} :
    as.mapM f = .ok bs ↔ List.Forall₂ (fun a b => f a = .ok b) as bs := by
  induction as generalizing bs with
  | nil => simp [pure, Except.pure, eq_comm]
  | cons a as ih =>
    rw [List.mapM_cons, List.forall₂_cons_left_iff, bind_eq_ok_iff]
    simp only [bind_eq_ok_iff, ih, pure, Except.pure, Except.ok.injEq]
    constructor
    · rintro ⟨b, hb, bs', hbs, rfl⟩
      exact ⟨b, bs', hb, hbs, rfl⟩
    · rintro ⟨b, bs', hb, hbs, rfl⟩
      exact ⟨b, hb, bs', hbs, rfl⟩

/-- A list comes back exactly if every item does. -/
theorem mapM_eq_ok_self_iff {f : α → Except Problem α} {as : List α} :
    as.mapM f = .ok as ↔ ∀ a ∈ as, f a = .ok a := by
  rw [mapM_eq_ok_iff, List.forall₂_same]

/-- What is in a list that has been read has been read of one of the items. -/
theorem exists_of_mem_of_toList {reader : Document → Except Problem α} {d : Document}
    {as : List α} (h : d.toList reader = .ok as) {a : α} (ha : a ∈ as) :
    ∃ item, reader item = .ok a := by
  unfold Document.toList at h
  split at h
  · obtain ⟨values, hvalues, hclosed⟩ := bind_eq_ok_iff.mp h
    split at hclosed
    · cases hclosed
      have hitems := mapM_eq_ok_iff.mp hvalues
      obtain ⟨i, hi, rfl⟩ := List.getElem_of_mem ha
      exact ⟨_, hitems.get (hitems.length_eq ▸ hi) hi⟩
    · cases hclosed
  · exact absurd h (wrongType_ne_ok _ _ _)

/-! ## Records -/

/-- A member with a known name is read, unless it has been read before, and the others after it. -/
theorem readMembers_cons {key : String} {field : RecordField ρ} {d : Document}
    {members : List (Option String × Document)}
    (hknown : fields.find? (·.name == key) = some field)
    (hnew : field.present collected = false) :
    readMembers fields ((some key, d) :: members) collected =
      field.read d collected >>= readMembers fields members := by
  rw [readMembers, hknown]
  simp only [hnew]
  rfl

/-- When a member has been read, the others are left. -/
theorem readMembers_step {key : String} {field : RecordField ρ} {d : Document}
    {members : List (Option String × Document)} (next : ρ)
    (hknown : fields.find? (·.name == key) = some field)
    (hnew : field.present collected = false) (hread : field.read d collected = .ok next) :
    readMembers fields ((some key, d) :: members) collected =
      readMembers fields members next := by
  rw [readMembers_cons hknown hnew, hread]
  rfl

section Field

variable {name : String} {get : ρ → Option α} {reader : Document → Except Problem α}
  {put : α → ρ → ρ} {d : Document} {a : α}

/-- What is read of a field is put into the record. -/
theorem RecordField.read_optional (h : reader d = .ok a) :
    (RecordField.optional name get reader put).read d collected = .ok (put a collected) := by
  show (reader d).map (fun a => put a collected) = _
  rw [h]
  rfl

/-- It is the same if the field must be there. -/
theorem RecordField.read_required (h : reader d = .ok a) :
    (RecordField.required name get reader put).read d collected = .ok (put a collected) := by
  rw [RecordField.required]
  exact @RecordField.read_optional ρ α collected name get reader put d a h

end Field

/-- A record has been read when all members have been read and nothing is missing. -/
theorem toRecord_object {name : String} {empty : ρ} {members : List (Option String × Document)}
    (hread : readMembers fields members empty = .ok read)
    (hcomplete : ∀ field ∈ fields, field.hasDefault = false → field.present read = true) :
    Document.toRecord name fields empty (.object members true) = .ok read := by
  have hmissing :
      fields.find? (fun field => !field.hasDefault && !field.present read) = none := by
    rw [List.find?_eq_none]
    intro field hfield
    simpa using hcomplete field hfield
  rw [Document.toRecord]
  refine bind_eq_ok_iff.mpr ⟨read, hread, ?_⟩
  simp [hmissing]

/-- Of a record with a default for every field, nothing can be missing. -/
theorem toRecord_of_defaults {name : String} {empty : ρ}
    {members : List (Option String × Document)}
    (hdefaults : ∀ field ∈ fields, field.hasDefault = true) :
    Document.toRecord name fields empty (.object members true) =
      readMembers fields members empty := by
  cases hread : readMembers fields members empty with
  | error problem =>
    rw [Document.toRecord, hread]
    rfl
  | ok read =>
    apply toRecord_object hread
    intro field hfield hdefault
    rw [hdefaults field hfield] at hdefault
    cases hdefault

/-! ## What reading a record keeps -/

/-- Reading a field keeps what holds of the record. -/
def RecordField.Keeps (P : ρ → Prop) (field : RecordField ρ) : Prop :=
  ∀ d r r', P r → field.read d r = .ok r' → P r'

section Invariant

variable {P : ρ → Prop}

/-- A field keeps what is kept when something that its reader reads is put into the record. -/
theorem RecordField.keeps_optional {name : String} {get : ρ → Option α}
    {reader : Document → Except Problem α} {put : α → ρ → ρ}
    (hput : ∀ d a r, reader d = .ok a → P r → P (put a r)) :
    (RecordField.optional name get reader put).Keeps P := by
  intro d r r' h hread
  rw [RecordField.optional] at hread
  cases hd : reader d with
  | error problem => simp [hd, Except.map] at hread
  | ok a =>
    simp only [hd, Except.map, Except.ok.injEq] at hread
    exact hread ▸ hput d a r hd h

/-- What every field keeps is kept when one field after the other is read from an object. -/
theorem readMembers_invariant (hfields : ∀ field ∈ fields, field.Keeps P)
    {members : List (Option String × Document)} (h : P collected)
    (hread : readMembers fields members collected = .ok read) : P read := by
  induction members generalizing collected with
  | nil =>
    cases hread
    exact h
  | cons member members ih =>
    obtain ⟨_ | key, d⟩ := member
    · cases hread
    · rw [readMembers] at hread
      split at hread
      · -- a member that no field has the name of is passed over
        obtain ⟨_, -, hread⟩ := bind_eq_ok_iff.mp hread
        exact ih h hread
      · rename_i field hknown
        split at hread
        · cases hread
        · obtain ⟨next, hnext, hread⟩ := bind_eq_ok_iff.mp hread
          exact ih (hfields field (List.mem_of_find?_eq_some hknown) d _ _ h hnext) hread

/-- It is kept as well when they are read from an array. -/
theorem readItems_invariant (hfields : ∀ field ∈ fields, field.Keeps P)
    {items rest : List Document} {found : Nat} (h : P collected)
    (hread : readItems fields items collected = .ok (read, found, rest)) : P read := by
  induction fields generalizing collected items found with
  | nil =>
    cases hread
    exact h
  | cons field fields ih =>
    rw [List.forall_mem_cons] at hfields
    cases items with
    | nil =>
      cases hread
      exact h
    | cons item items =>
      obtain ⟨next, hnext, hread⟩ := bind_eq_ok_iff.mp hread
      obtain ⟨⟨_, _, _⟩, hothers, heq⟩ := bind_eq_ok_iff.mp hread
      cases heq
      exact ih hfields.2 (hfields.1 item _ _ h hnext) hothers

/-- What holds at the beginning, and what every field keeps, holds of a record that has been read. -/
theorem toRecord_invariant {name : String} {empty : ρ} {d : Document}
    (hfields : ∀ field ∈ fields, field.Keeps P) (hempty : P empty)
    (hread : d.toRecord name fields empty = .ok read) : P read := by
  unfold Document.toRecord at hread
  split at hread
  · -- an object: if it is not closed or if a field is missing, nothing is read
    obtain ⟨final, hfinal, hread⟩ := bind_eq_ok_iff.mp hread
    split at hread
    · cases hread
    · split at hread
      · cases hread
      · cases hread
        exact readMembers_invariant hfields hempty hfinal
  · cases hread
  · -- an array, with the fields in their order
    obtain ⟨⟨final, found, rest⟩, hfinal, hread⟩ := bind_eq_ok_iff.mp hread
    dsimp only at hread
    split at hread
    · cases hread
    · split at hread
      · cases hread
      · cases hread
        exact readItems_invariant hfields hempty hfinal
  · exact absurd hread (wrongType_ne_ok _ _ _)

end Invariant

end ScalarServer.Json
