import ScalarServer.Config.Basic
import ScalarServer.NodeId
import ScalarServer.Proofs.Text.Split

/-!
# Paths

The path of a folder is the names of the folders down to it, with slashes between them. Names have
no slashes themselves, so nothing about the names is lost in the path.

- `inFolder_intercalate`: the identifier of a node is the path of its folder with one more name;
- `name_intercalate`: the last name can be read off the identifier;
- `inFolder_injective`: in one folder, names and identifiers correspond;
- `isName_of_mem_segmentsOf`: what a configured path is cut into are names.
-/

namespace ScalarServer

open Text

/-- Whether a text is not empty and has no slashes. -/
def IsName (name : String) : Prop :=
  name.toList ≠ [] ∧ '/' ∉ name.toList

theorem isPathSegment_iff {name : String} :
    isPathSegment name = true ↔ IsName name ∧ ';' ∉ name.toList := by
  simp [isPathSegment, IsName]

/-- A path with one more name. -/
theorem intercalate_concat {path : List String} (h : path ≠ []) (name : String) :
    "/".intercalate (path ++ [name]) = "/".intercalate path ++ "/" ++ name := by
  rw [String.intercalate_append_of_ne_nil h (List.cons_ne_nil _ _), String.intercalate_singleton]

theorem toList_intercalate_concat {path : List String} (h : path ≠ []) (name : String) :
    ("/".intercalate (path ++ [name])).toList =
      ("/".intercalate path).toList ++ '/' :: name.toList := by
  rw [intercalate_concat h, String.toList_append, String.toList_append]
  simp

/-- A path begins as its first name does. -/
theorem head?_intercalate {first : String} (others : List String) (h : IsName first) :
    ("/".intercalate (first :: others)).toList.head? = first.toList.head? := by
  cases others with
  | nil => rw [String.intercalate_singleton]
  | cons second others =>
    rw [String.intercalate_cons_cons, String.append_assoc, String.toList_append]
    cases hfirst : first.toList with
    | nil => exact absurd hfirst h.1
    | cons c cs => rfl

/-- What a path of names begins with, up to the first slash, its first name begins with. -/
theorem prefix_intercalate_iff {start : List Char} (h : '/' ∉ start) (first : String)
    (others : List String) :
    start <+: ("/".intercalate (first :: others)).toList ↔ start <+: first.toList := by
  cases others with
  | nil => rw [String.intercalate_singleton]
  | cons second others =>
    rw [String.intercalate_cons_cons, String.append_assoc, String.toList_append,
      String.toList_append]
    exact prefix_append_cons_iff h

/-- What stands in a path is a slash or stands in one of the names. -/
theorem mem_intercalate {path : List String} {ch : Char}
    (h : ch ∈ ("/".intercalate path).toList) : ch = '/' ∨ ∃ name ∈ path, ch ∈ name.toList := by
  induction path with
  | nil => simp at h
  | cons first others ih =>
    cases others with
    | nil =>
      rw [String.intercalate_singleton] at h
      exact .inr ⟨first, List.mem_cons_self, h⟩
    | cons second others =>
      rw [String.intercalate_cons_cons, String.append_assoc, String.toList_append,
        String.toList_append, List.mem_append, List.mem_append] at h
      rcases h with h | h | h
      · exact .inr ⟨first, List.mem_cons_self, h⟩
      · exact .inl (List.mem_singleton.mp h)
      · rcases ih h with hslash | ⟨name, hname, hmem⟩
        · exact .inl hslash
        · exact .inr ⟨name, List.mem_cons_of_mem _ hname, hmem⟩

/-- What none of the names has, apart from slashes, the path does not have. -/
theorem not_mem_intercalate {path : List String} {ch : Char} (hch : ch ≠ '/')
    (h : ∀ name ∈ path, ch ∉ name.toList) : ch ∉ ("/".intercalate path).toList := by
  intro hmem
  rcases mem_intercalate hmem with hslash | ⟨name, hname, hin⟩
  · exact hch hslash
  · exact h name hname hin

/-- A path of names has no slash at either end. -/
theorem strip_intercalate {path : List String} (h : ∀ name ∈ path, IsName name) :
    strip (· == '/') ("/".intercalate path).toList = ("/".intercalate path).toList := by
  have hno : ∀ name ∈ path, ∀ c ∈ name.toList, (c == '/') = false := by
    intro name hname c hc
    rw [beq_eq_false_iff_ne]
    rintro rfl
    exact (h name hname).2 hc
  apply strip_eq_self
  · intro c hc
    cases path with
    | nil => simp at hc
    | cons first others =>
      rw [head?_intercalate others (h first List.mem_cons_self)] at hc
      exact hno first List.mem_cons_self c (List.mem_of_mem_head? hc)
  · intro c hc
    rcases List.eq_nil_or_concat path with rfl | ⟨upper, last, rfl⟩
    · simp at hc
    · have hlast : last ∈ upper.concat last := by simp
      have hend : last.toList.getLast? = some c := by
        rw [List.concat_eq_append] at hc
        by_cases hupper : upper = []
        · simpa [hupper] using hc
        · rw [toList_intercalate_concat hupper, List.getLast?_append] at hc
          cases hcs : last.toList with
          | nil => exact absurd hcs (h last hlast).1
          | cons d ds => simpa [hcs] using hc
      exact hno last hlast c (List.mem_of_getLast? hend)

theorem intercalate_ne_nil {path : List String} (h : ∀ name ∈ path, IsName name)
    (hne : path ≠ []) : ("/".intercalate path).toList ≠ [] := by
  cases path with
  | nil => exact absurd rfl hne
  | cons first others =>
    have hfirst := h first List.mem_cons_self
    intro hnil
    have hhead := head?_intercalate others hfirst
    rw [hnil, List.head?_nil] at hhead
    exact hfirst.1 (List.head?_eq_none_iff.mp hhead.symm)

/-- In a folder that lies under names, something with a name lies under one name more. -/
theorem inFolder_intercalate (index : UInt16) {path : List String}
    (h : ∀ name ∈ path, IsName name) (name : String) :
    NodeId.inFolder index ("/".intercalate path) name =
      ⟨index, "/".intercalate (path ++ [name])⟩ := by
  unfold NodeId.inFolder
  simp only [strip_intercalate h]
  by_cases hpath : path = []
  · simp [hpath]
  · rw [if_neg (intercalate_ne_nil h hpath), ← toList_intercalate_concat hpath,
      String.ofList_toList]

/-- What stands after the last slash is the last name. -/
theorem name_intercalate (index : UInt16) (path : List String) {name : String}
    (h : '/' ∉ name.toList) : NodeId.name ⟨index, "/".intercalate (path ++ [name])⟩ = name := by
  unfold NodeId.name
  by_cases hpath : path = []
  · rw [hpath, List.nil_append, String.intercalate_singleton, afterLast_of_not_mem h,
      String.ofList_toList]
  · rw [toList_intercalate_concat hpath, afterLast_append h, String.ofList_toList]

@[simp]
theorem inFolder_namespaceIndex (index : UInt16) (folderPath name : String) :
    (NodeId.inFolder index folderPath name).namespaceIndex = index := by
  unfold NodeId.inFolder
  dsimp only
  split <;> rfl

/-- In one folder, different names make different identifiers. -/
theorem inFolder_injective {index : UInt16} {folderPath a b : String}
    (h : NodeId.inFolder index folderPath a = NodeId.inFolder index folderPath b) : a = b := by
  simp only [NodeId.inFolder] at h
  split at h
  · exact congrArg NodeId.identifier h
  · have hlists := String.ofList_inj.mp (congrArg NodeId.identifier h)
    have htails := List.append_cancel_left hlists
    rw [List.cons.injEq] at htails
    exact String.toList_inj.mp htails.2

/-! ## Configured paths -/

theorem isName_of_mem_segmentsOf {folderPath name : String}
    (h : name ∈ ServerConfig.segmentsOf folderPath) : IsName name := by
  unfold ServerConfig.segmentsOf at h
  simp only [List.mem_map, List.mem_filter, decide_eq_true_eq] at h
  obtain ⟨cs, ⟨⟨part, hpart, rfl⟩, hne⟩, rfl⟩ := h
  unfold IsName
  rw [String.toList_ofList]
  exact ⟨hne, fun hslash => not_mem_of_mem_splitAll part hpart (mem_of_mem_strip hslash)⟩

/-- Of a name, only the semicolon can be wrong. -/
theorem isPathSegment_of_isName {name : String} (h : IsName name) :
    isPathSegment name = true ↔ ';' ∉ name.toList := by
  rw [isPathSegment_iff]
  exact and_iff_right h

/-- A definition is valid if its name can stand in a path and its value has its type. -/
theorem validate_eq_ok_iff {d : VariableDefinition} :
    d.validate = .ok () ↔ isPathSegment d.name = true ∧ d.value.type = d.type := by
  unfold VariableDefinition.validate
  cases isPathSegment d.name with
  | false => simp
  | true =>
    by_cases htype : d.value.type = d.type
    · simp [htype]
    · simp [htype]

end ScalarServer
