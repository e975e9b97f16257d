import ScalarServer.Proofs.Path
import ScalarServer.Startup

/-!
# Configured folder paths

A configured path stands for the names that it is cut into, and these names, with slashes between
them, are its normal form: cutting them again changes nothing, paths that are put together have the
names of both, and a server starts from the names alone.

- `isSegment_of_mem_segmentsOf`: what a path is cut into;
- `segmentsOf_append`: a slash separates the names before it from those behind it;
- `segmentsOf_intercalate`: names with slashes between them are cut into these names;
- `bootstrap_congr`: how a server starts does not depend on the way in which a path is written;
- `segmentsOf_exact`: all of these.
-/

namespace ScalarServer.ServerConfig

open Text

variable {a b name : String}

/-- Whether a text is a name that is not changed when blanks around it are left out. -/
structure IsSegment (name : String) : Prop where
  /-- It is not empty and has no slashes. -/
  isName : IsName name
  /-- There are no blanks around it. -/
  trimmed_eq : trimmed name = name

theorem isSegment_of_mem_segmentsOf (h : name ∈ segmentsOf a) : IsSegment name := by
  refine ⟨isName_of_mem_segmentsOf h, ?_⟩
  obtain ⟨cs, hcs, rfl⟩ := List.mem_map.mp h
  obtain ⟨part, -, rfl⟩ := List.mem_map.mp (List.mem_filter.mp hcs).1
  rw [trimmed, String.toList_ofList, trim, trim, strip_strip]

/-- A slash between two paths keeps their names apart. -/
theorem segmentsOf_append (a b : String) :
    segmentsOf (a ++ "/" ++ b) = segmentsOf a ++ segmentsOf b := by
  have hlist : (a ++ "/" ++ b).toList = a.toList ++ '/' :: b.toList := by
    simp [String.toList_append]
  rw [segmentsOf, hlist, splitAll_append, List.map_append, List.filter_append, List.map_append]
  rfl

/-- A name is a path by itself. -/
theorem IsSegment.segmentsOf_eq (h : IsSegment name) : segmentsOf name = [name] := by
  have htrim : trim name.toList = name.toList := by
    rw [← String.toList_ofList (l := trim name.toList)]
    exact congrArg String.toList h.trimmed_eq
  rw [segmentsOf, splitAll_of_not_mem h.isName.2, List.map_singleton, htrim,
    List.filter_cons_of_pos (by simpa using h.isName.1), List.filter_nil, List.map_singleton,
    String.ofList_toList]

/-- Names with slashes between them are cut into these names again. -/
theorem segmentsOf_intercalate {names : List String} (h : ∀ name ∈ names, IsSegment name) :
    segmentsOf ("/".intercalate names) = names := by
  induction names with
  | nil => decide
  | cons first others ih =>
    rw [List.forall_mem_cons] at h
    cases others with
    | nil => rw [String.intercalate_singleton, h.1.segmentsOf_eq]
    | cons second others =>
      rw [String.intercalate_cons_cons, segmentsOf_append, h.1.segmentsOf_eq, ih h.2,
        List.singleton_append]

/-- A server starts from the names in the path. -/
theorem bootstrap_congr (h : segmentsOf a = segmentsOf b) (c : ServerConfig) :
    bootstrap { c with folderPath := a } = bootstrap { c with folderPath := b } := by
  have hsegments : folderSegments { c with folderPath := a } =
      folderSegments { c with folderPath := b } := h
  have hvalid : validate { c with folderPath := a } = validate { c with folderPath := b } := by
    simp only [validate, hsegments]
  simp only [bootstrap, hsegments, hvalid]

/-- A path is cut into names without slashes and without blanks around them; with slashes between
them these names are a path with the same names. A slash between two paths makes a path with the
names of both. Configurations that differ in the path alone, and not in its names, start a server
with the same outcome: the same refusal, or the same address space with the same answer. -/
theorem segmentsOf_exact (a b : String) :
    (∀ name ∈ segmentsOf a, name ≠ "" ∧ '/' ∉ name.toList ∧ trimmed name = name) ∧
      segmentsOf ("/".intercalate (segmentsOf a)) = segmentsOf a ∧
      segmentsOf (a ++ "/" ++ b) = segmentsOf a ++ segmentsOf b ∧
      (segmentsOf a = segmentsOf b → ∀ c : ServerConfig,
        (bootstrap { c with folderPath := a }).run .empty =
          (bootstrap { c with folderPath := b }).run .empty) := by
  refine ⟨?_, ?_, segmentsOf_append a b, ?_⟩
  · intro name hname
    have hsegment := isSegment_of_mem_segmentsOf hname
    exact ⟨mt String.toList_eq_nil_iff.mpr hsegment.isName.1, hsegment.isName.2,
      hsegment.trimmed_eq⟩
  · exact segmentsOf_intercalate fun _ => isSegment_of_mem_segmentsOf
  · intro h c
    rw [bootstrap_congr h c]

/-- Blanks and slashes around the names are of no account, blanks inside a name are. -/
theorem segmentsOf_exact_blanks :
    trimmed "Line 1" = "Line 1" ∧
      (bootstrap { ServerConfig.default with folderPath := "/Plant/ /\tLine 1 " }).run .empty =
        (bootstrap { ServerConfig.default with folderPath := "Plant/Line 1" }).run .empty := by
  obtain ⟨hnames, -, -, hboot⟩ := segmentsOf_exact "/Plant/ /\tLine 1 " "Plant/Line 1"
  exact ⟨(hnames "Line 1" (by decide)).2.2, hboot (by decide) .default⟩

end ScalarServer.ServerConfig
