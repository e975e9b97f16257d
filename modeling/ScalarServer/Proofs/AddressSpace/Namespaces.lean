import ScalarServer.Proofs.AddressSpace.Store

/-!
# The namespace table

The table starts with the namespace of the Objects folder, and registration is the only call that
changes it: a URI that is not in the table is put at its end. So an index that has once been given
out stays that of its URI, and as there are no more entries than numbers of sixteen bits, no two
entries share one.

- `Effect.namespaces_cases`: all that a call can do to the table;
- `Table`, `Table.after`: the invariant of the table, kept by every call;
- `prefix_after`: the table only grows at its end;
- `Table.resolves_iff`: an index leads to a URI, and a URI to its index, without loss of bits;
- `entry_of_event`: an index that was once answered is still the place of its URI;
- `addFolder_eq_unknownNamespace_iff`, `addVariable_eq_unknownNamespace_iff`: which indices are
  refused;
- `isNamespaceTable_after`: all of this after every sequence of calls.
-/

namespace ScalarServer.AddressSpace

variable {s t : AddressSpace} {uri : String} {index i : UInt16} {c : Call}
  {answer : Except Error Answer}

/-! ## What one call does to the table -/

/-- Only the registration of a new URI changes the table, and it answers with the place where the
URI is put, the end of the table. -/
theorem Effect.namespaces_cases (h : Effect s c answer t) :
    t.namespaces = s.namespaces ∨
      ∃ uri, c = .registerNamespace uri ∧ uri ∉ s.namespaces ∧ s.namespaces.length < 65536 ∧
        answer = .ok (.index (.ofNat s.namespaces.length)) ∧
        t.namespaces = s.namespaces ++ [uri] := by
  cases h with
  | registered hnew hroom => exact .inr ⟨_, rfl, hnew, hroom, rfl, rfl⟩
  | refused | known | folder | scalar | access | value => exact .inl rfl

/-- What holds of the table of every address space. -/
structure Table (s : AddressSpace) : Prop where
  /-- The namespace of the Objects folder is the first one. -/
  head : s.namespaces.head? = some baseNamespace
  /-- No URI stands twice. -/
  nodup : s.namespaces.Nodup
  /-- There are no more entries than indices. -/
  length_le : s.namespaces.length ≤ 65536

theorem table_empty : empty.Table :=
  ⟨rfl, List.nodup_singleton _, by decide⟩

theorem Table.effect (h : s.Table) (heffect : Effect s c answer t) : t.Table := by
  rcases heffect.namespaces_cases with hsame | ⟨uri, -, hnew, hroom, -, hnext⟩
  · exact ⟨hsame ▸ h.head, hsame ▸ h.nodup, hsame ▸ h.length_le⟩
  · constructor
    · rw [hnext, List.head?_append, h.head, Option.some_or]
    · rw [hnext, ← List.concat_eq_append, List.nodup_concat]
      exact ⟨hnew, h.nodup⟩
    · rw [hnext, List.length_append, List.length_singleton]
      exact hroom

theorem prefix_of_effect (heffect : Effect s c answer t) : s.namespaces <+: t.namespaces := by
  rcases heffect.namespaces_cases with hsame | ⟨uri, -, -, -, -, hnext⟩
  · exact hsame ▸ List.prefix_rfl
  · exact hnext ▸ List.prefix_append _ _

/-! ## Sequences of calls -/

theorem Table.after (h : s.Table) (calls : List Call) : (s.after calls).Table := by
  induction calls generalizing s with
  | nil => exact h
  | cons c calls ih => exact ih (h.effect (perform_effect c s))

/-- The table only grows at its end. -/
theorem prefix_after (s : AddressSpace) (calls : List Call) :
    s.namespaces <+: (s.after calls).namespaces := by
  induction calls generalizing s with
  | nil => exact List.prefix_rfl
  | cons c calls ih => exact (prefix_of_effect (perform_effect c s)).trans (ih _)

/-- An entry stays where it is. -/
theorem entry_after (calls : List Call) (h : s.namespaces[i.toNat]? = some uri) :
    (s.after calls).namespaces[i.toNat]? = some uri := by
  obtain ⟨rest, hrest⟩ := prefix_after s calls
  rw [← hrest, List.getElem?_append_left (List.getElem?_eq_some_iff.mp h).1, h]

/-! ## URIs and their indices -/

namespace Table

/-- Every place in the table is a number of sixteen bits. -/
theorem toNat_ofNat (h : s.Table) {n : Nat} (hn : n < s.namespaces.length) :
    (UInt16.ofNat n).toNat = n :=
  UInt16.toNat_ofNat_of_lt' (Nat.lt_of_lt_of_le hn h.length_le)

/-- The index of a URI is its place in the table. -/
theorem map_toNat_namespaceIndex? (h : s.Table) (uri : String) :
    (s.namespaceIndex? uri).map UInt16.toNat = s.namespaces.idxOf? uri := by
  rw [namespaceIndex?, Option.map_map]
  cases hplace : s.namespaces.idxOf? uri with
  | none => rfl
  | some n =>
    obtain ⟨hn, -⟩ := List.findIdx?_eq_some_iff_findIdx_eq.mp hplace
    exact congrArg some (h.toNat_ofNat hn)

/-- A URI has an index exactly if it stands in this place. -/
theorem namespaceIndex?_eq_some_iff (h : s.Table) :
    s.namespaceIndex? uri = some i ↔ s.namespaces[i.toNat]? = some uri := by
  have hplace : s.namespaceIndex? uri = some i ↔ s.namespaces.idxOf? uri = some i.toNat := by
    rw [← h.map_toNat_namespaceIndex?, ← Option.map_some,
      (Option.map_injective fun _ _ => UInt16.toNat_inj.mp).eq_iff]
  rw [hplace, List.idxOf?_eq_some_iff, List.getElem?_eq_some_iff]
  constructor
  · rintro ⟨hlt, heq, -⟩
    exact ⟨hlt, heq⟩
  · rintro ⟨hlt, heq⟩
    -- it stands in no other place
    refine ⟨hlt, heq, fun j hj hother => ?_⟩
    exact absurd (h.nodup.getElem_inj_iff.mp (hother.trans heq.symm)) (Nat.ne_of_lt hj)

end Table

/-- A URI and its index. -/
structure Resolves (s : AddressSpace) (uri : String) (i : UInt16) : Prop where
  /-- The URI stands in the place of the index. -/
  entry : s.namespaces[i.toNat]? = some uri
  /-- The index can be looked up. -/
  lookup : s.namespaceIndex? uri = some i
  /-- Registration answers with it, -/
  register : ((registerNamespace uri).run s).result = .ok i
  /-- and changes nothing. -/
  unchanged : ((registerNamespace uri).run s).state = s

theorem Table.resolves_iff (h : s.Table) :
    s.Resolves uri i ↔ s.namespaces[i.toNat]? = some uri := by
  refine ⟨Resolves.entry, fun hentry => ?_⟩
  have hlookup := h.namespaceIndex?_eq_some_iff.mpr hentry
  have hmem : uri ∈ s.namespaces := List.mem_of_getElem? hentry
  obtain ⟨hresult, hstate⟩ := registerNamespace_of_mem hmem
  rw [namespaceIndex?_of_mem hmem, Option.some.injEq] at hlookup
  exact ⟨hentry, hlookup ▸ namespaceIndex?_of_mem hmem, hlookup ▸ hresult, hstate⟩

theorem Table.exists_resolves (h : s.Table) (hmem : uri ∈ s.namespaces) :
    ∃ i, s.Resolves uri i :=
  ⟨_, h.resolves_iff.mpr (h.namespaceIndex?_eq_some_iff.mp (namespaceIndex?_of_mem hmem))⟩

/-- The answer to a registration is the place of the URI from then on. -/
theorem entry_of_effect (h : s.Table)
    (heffect : Effect s (.registerNamespace uri) (.ok (.index i)) t) :
    t.namespaces[i.toNat]? = some uri := by
  cases heffect with
  | known hmem => exact h.namespaceIndex?_eq_some_iff.mp (namespaceIndex?_of_mem hmem)
  | registered hnew hroom =>
    rw [UInt16.toNat_ofNat_of_lt' hroom]
    exact List.getElem?_concat_length

/-- An index that was answered at some time is still the place of its URI. -/
theorem entry_of_event (h : s.Table) {calls : List Call}
    (hevent : ⟨.registerNamespace uri, .ok (.index i)⟩ ∈ s.events calls) :
    (s.after calls).namespaces[i.toNat]? = some uri := by
  induction calls generalizing s with
  | nil => cases hevent
  | cons c calls ih =>
    have heffect := perform_effect c s
    rcases List.mem_cons.mp hevent with hfirst | hlater
    · rw [Event.mk.injEq] at hfirst
      obtain ⟨rfl, hresult⟩ := hfirst
      rw [← hresult] at heffect
      exact entry_after calls (entry_of_effect h heffect)
    · exact ih (h.effect heffect) hlater

/-! ## Refusals -/

/-- Where nodes are created, no other check gives an unknown namespace as the reason. -/
theorem insertChild_ne_unknownNamespace (parent id : NodeId) (kind : NodeKind) (i : UInt16) :
    ((insertChild parent id kind).run s).result ≠ .error (.unknownNamespace i) := by
  intro h
  simp only [insertChild, Action.bind_result, Action.run_state] at h
  split at h
  · cases h
  · split at h <;> cases h

theorem validate_ne_unknownNamespace (d : VariableDefinition) (i : UInt16) :
    d.validate ≠ .error (.unknownNamespace i) := by
  intro h
  unfold VariableDefinition.validate at h
  split at h
  · cases h
  · split at h <;> cases h

/-- What begins with the check of a namespace, and has no other reason to call it unknown, does so
exactly for the indices without an entry. -/
theorem checkNamespace_bind_eq_unknownNamespace_iff {α : Type} {rest : Action AddressSpace α}
    (hrest : (rest.run s).result ≠ .error (.unknownNamespace i)) :
    ((checkNamespace index >>= fun _ => rest).run s).result = .error (.unknownNamespace i) ↔
      i = index ∧ s.namespaces[i.toNat]? = none := by
  rw [List.getElem?_eq_none_iff, Action.bind_result]
  by_cases hknown : s.Knows index
  · rw [checkNamespace_of_knows hknown, checkNamespace_state]
    refine iff_of_false hrest ?_
    rintro ⟨rfl, hnone⟩
    exact absurd hknown (Nat.not_lt.mpr hnone)
  · rw [checkNamespace_of_not_knows hknown]
    constructor
    · intro h
      cases h
      exact ⟨rfl, Nat.not_lt.mp hknown⟩
    · rintro ⟨rfl, -⟩
      rfl

theorem addFolder_eq_unknownNamespace_iff (parent : Folder) (index : UInt16) (name : String)
    (i : UInt16) :
    ((addFolder parent index name).run s).result = .error (.unknownNamespace i) ↔
      i = index ∧ s.namespaces[i.toNat]? = none := by
  refine checkNamespace_bind_eq_unknownNamespace_iff fun h => ?_
  split at h
  · cases h
  · rcases Action.bind_result_eq_error_iff.mp h with hinsert | ⟨_, -, hlog⟩
    · exact insertChild_ne_unknownNamespace _ _ _ i hinsert
    · cases hlog

theorem addVariable_eq_unknownNamespace_iff (parent id : NodeId) (d : VariableDefinition)
    (i : UInt16) :
    ((addVariable parent id d).run s).result = .error (.unknownNamespace i) ↔
      i = id.namespaceIndex ∧ s.namespaces[i.toNat]? = none := by
  refine checkNamespace_bind_eq_unknownNamespace_iff fun h => ?_
  rcases Action.bind_result_eq_error_iff.mp h with hvalid | ⟨_, -, h⟩
  · rw [Action.ofExcept_result] at hvalid
    exact validate_ne_unknownNamespace d i hvalid
  · rcases Action.bind_result_eq_error_iff.mp h with hstate | ⟨_, -, h⟩
    · cases hstate
    · rcases Action.bind_result_eq_error_iff.mp h with hinsert | ⟨_, -, htick⟩
      · exact insertChild_ne_unknownNamespace _ _ _ i hinsert
      · cases htick

/-! ## The table -/

/-- A URI has once been registered, and an index answered to that. -/
def Answered (history : List Event) (uri : String) (i : UInt16) : Prop :=
  ⟨.registerNamespace uri, .ok (.index i)⟩ ∈ history

/-- How the namespace table of an address space with some history stands, and what becomes of it
and of the indices that have been answered. -/
structure IsNamespaceTable (s : AddressSpace) (history : List Event) : Prop where
  /-- The namespace of the Objects folder is the first one. -/
  head : s.namespaces.head? = some baseNamespace
  /-- No URI stands twice. -/
  nodup : s.namespaces.Nodup
  /-- There are no more entries than indices. -/
  length_le : s.namespaces.length ≤ 65536
  /-- Entries stay in their places, and further ones come behind them. -/
  grows : ∀ more, s.namespaces <+: (s.after more).namespaces
  /-- Sixteen bits are enough for the place of a URI. -/
  place : ∀ uri, (s.namespaceIndex? uri).map UInt16.toNat = s.namespaces.idxOf? uri
  /-- An index that was answered belongs to its URI from then on. -/
  answered : ∀ uri i, Answered history uri i → ∀ more, (s.after more).Resolves uri i
  /-- Different URIs were answered with different indices. -/
  distinct : ∀ uri uri' i, Answered history uri i → Answered history uri' i → uri = uri'
  /-- All URIs of the table resolve, also when it is full. -/
  resolves : ∀ uri ∈ s.namespaces, ∃ i, s.Resolves uri i
  /-- A new URI is put at the end of the table and gets that place as its index, -/
  register : ∀ uri ∉ s.namespaces, s.namespaces.length < 65536 →
    ∃ i, ((registerNamespace uri).run s).result = .ok i ∧ i.toNat = s.namespaces.length ∧
      ((registerNamespace uri).run s).state = { s with namespaces := s.namespaces ++ [uri] }
  /-- unless the table is full. -/
  full : ∀ uri ∉ s.namespaces, s.namespaces.length = 65536 →
    ((registerNamespace uri).run s).result = .error (.backend "namespace table is full") ∧
      ((registerNamespace uri).run s).state = s
  /-- The indices that a folder cannot be created with are those without an entry. -/
  addFolder : ∀ parent index name i,
    ((addFolder parent index name).run s).result = .error (.unknownNamespace i) ↔
      i = index ∧ s.namespaces[i.toNat]? = none
  /-- It is the same for variables. -/
  addVariable : ∀ parent id d i,
    ((addVariable parent id d).run s).result = .error (.unknownNamespace i) ↔
      i = id.namespaceIndex ∧ s.namespaces[i.toNat]? = none

/-- Whatever is called, namespaces keep their indices. -/
theorem isNamespaceTable_after (calls : List Call) :
    IsNamespaceTable (empty.after calls) (empty.events calls) := by
  have htable : (empty.after calls).Table := table_empty.after calls
  have hentry : ∀ uri i, Answered (empty.events calls) uri i →
      (empty.after calls).namespaces[i.toNat]? = some uri :=
    fun uri i => entry_of_event table_empty
  exact {
    head := htable.head
    nodup := htable.nodup
    length_le := htable.length_le
    grows := prefix_after _
    place := htable.map_toNat_namespaceIndex?
    answered := fun uri i h more =>
      (htable.after more).resolves_iff.mpr (entry_after more (hentry uri i h))
    distinct := fun uri uri' i h h' =>
      Option.some.inj ((hentry uri i h).symm.trans (hentry uri' i h'))
    resolves := fun uri => htable.exists_resolves
    register := fun uri hnew hroom =>
      ⟨_, (registerNamespace_of_room hnew hroom).1, UInt16.toNat_ofNat_of_lt' hroom,
        (registerNamespace_of_room hnew hroom).2⟩
    full := fun uri hnew hfull => registerNamespace_of_full hnew (by omega)
    addFolder := addFolder_eq_unknownNamespace_iff
    addVariable := addVariable_eq_unknownNamespace_iff }

-- a URI that is registered again, with other calls in between, is found where it was put
example : empty.events [
      .registerNamespace "urn:plant",
      .addFolder objects 2 "Tank",
      .registerNamespace "urn:tank",
      .addFolder objects 2 "Tank",
      .registerNamespace "urn:plant"] = [
      ⟨.registerNamespace "urn:plant", .ok (.index 1)⟩,
      ⟨.addFolder objects 2 "Tank", .error (.unknownNamespace 2)⟩,
      ⟨.registerNamespace "urn:tank", .ok (.index 2)⟩,
      ⟨.addFolder objects 2 "Tank", .ok (.folder ⟨⟨2, "Tank"⟩, "Tank"⟩)⟩,
      ⟨.registerNamespace "urn:plant", .ok (.index 1)⟩] := by
  rfl

end ScalarServer.AddressSpace
