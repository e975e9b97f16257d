import ScalarServer.Http.Service
import ScalarServer.Proofs.NodeId
import ScalarServer.Proofs.Path

/-!
# Which node a request is about

A path names a node by its written identifier, or by the text of the identifier alone. The two
are told apart by the beginning `ns=` of a written identifier, and it is possible that a text
begins so as well.

- `resolveNodeId_text`: the written identifier always leads to the node;
- `resolveNodeId_identifier`, `resolveNodeId_identifier_of_prefix`: the text alone does exactly if
  it does not begin like a written identifier.
-/

namespace ScalarServer.Http

open Text

variable {v : Service} {id : NodeId}

/-- The text of an identifier is one that the path of a node can be. -/
structure IsNodePath (id : NodeId) : Prop where
  /-- There is a text. -/
  ne_nil : id.identifier.toList ≠ []
  /-- It has no semicolon. -/
  no_semicolon : ';' ∉ id.identifier.toList
  /-- It does not begin with a slash. -/
  head_ne : id.identifier.toList.head? ≠ some '/'

/-- The written identifier leads to the node. -/
theorem resolveNodeId_text (h : IsNodePath id) : resolveNodeId v id.text = .ok id := by
  have hstart : "ns=".toList <+: id.text.toList := by
    rw [NodeId.toList_text, List.append_assoc, List.append_assoc, List.append_assoc]
    exact List.prefix_append _ _
  have hkeep : id.text.toList.dropWhile (· == '/') = id.text.toList := by
    obtain ⟨rest, hrest⟩ := hstart
    rw [← hrest]
    rfl
  unfold resolveNodeId
  simp only [hkeep, isSome_afterStart_iff.mpr hstart, if_true, String.ofList_toList]
  exact NodeId.parse_text h.ne_nil h.no_semicolon

theorem dropWhile_identifier (h : IsNodePath id) :
    id.identifier.toList.dropWhile (· == '/') = id.identifier.toList := by
  cases hcs : id.identifier.toList with
  | nil => rfl
  | cons c cs =>
    have hhead := h.head_ne
    rw [hcs, List.head?_cons] at hhead
    have hne : ¬ c = '/' := fun heq => hhead (congrArg some heq)
    exact List.dropWhile_cons_of_neg (by simpa using hne)

/-- The text alone leads to the node if it does not begin like a written identifier. -/
theorem resolveNodeId_identifier (h : IsNodePath id) (hindex : v.namespaceIndex = id.namespaceIndex)
    (hstart : ¬ "ns=".toList <+: id.identifier.toList) :
    resolveNodeId v id.identifier = .ok id := by
  unfold resolveNodeId
  simp only [dropWhile_identifier h, isSome_afterStart_iff, hstart, h.ne_nil, if_false,
    String.ofList_toList, hindex]

/-- Otherwise it is taken for a written identifier, and refused. -/
theorem resolveNodeId_identifier_of_prefix (h : IsNodePath id)
    (hstart : "ns=".toList <+: id.identifier.toList) :
    resolveNodeId v id.identifier = .error (.invalidNodeId id.identifier) := by
  -- there is no semicolon to cut the text at
  have hlast : id.identifier.toList.getLast? ≠ some ';' :=
    fun hlast => h.no_semicolon (List.mem_of_getLast? hlast)
  unfold resolveNodeId
  simp only [dropWhile_identifier h, isSome_afterStart_iff.mpr hstart, if_true,
    String.ofList_toList]
  simp [NodeId.parse, NodeId.ofText?, NodeId.withoutFinalSemicolon, hlast,
    splitFirst_eq_none h.no_semicolon]

/-- The only reason for which a path names no node. -/
theorem resolveNodeId_eq_error {path : String} {e : Error} (h : resolveNodeId v path = .error e) :
    ∃ text, e = .invalidNodeId text := by
  unfold resolveNodeId at h
  simp only at h
  split at h
  · unfold NodeId.parse at h
    split at h <;> cases h
    exact ⟨_, rfl⟩
  · split at h <;> cases h
    exact ⟨_, rfl⟩

/-- Names without semicolons make a text that the path of a node can be. -/
theorem isNodePath_intercalate {index : UInt16} {path : List String} (hne : path ≠ [])
    (hnames : ∀ name ∈ path, IsName name ∧ ';' ∉ name.toList) :
    IsNodePath ⟨index, "/".intercalate path⟩ where
  ne_nil := intercalate_ne_nil (fun name hname => (hnames name hname).1) hne
  no_semicolon := not_mem_intercalate (by decide) fun name hname => (hnames name hname).2
  head_ne := by
    cases path with
    | nil => exact absurd rfl hne
    | cons first others =>
      have hfirst := (hnames first List.mem_cons_self).1
      rw [head?_intercalate others hfirst]
      intro hslash
      exact hfirst.2 (List.mem_of_mem_head? hslash)

end ScalarServer.Http
