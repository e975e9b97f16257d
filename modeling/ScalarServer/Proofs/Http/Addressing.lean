import ScalarServer.Proofs.Http.Stores
import ScalarServer.Proofs.Startup

/-!
# How variables are addressed

Every variable that a server starts with can be read under its written identifier for as long as
the server runs. Under the text of the identifier alone it can be read unless the name of the
outermost folder begins like a written identifier.

- `Later s t`: calls and requests have led from one address space to the other;
- `Later.exists_variableInfo`: variables stay;
- `isNodePath_variableId`, `prefix_variableId_iff`: the texts of the identifiers;
- `addressing`: what either form leads to.
-/

namespace ScalarServer

open AddressSpace Http

/-! ## Later states -/

/-- The address spaces that calls of the operations and requests of clients lead to. -/
inductive Later (s : AddressSpace) : AddressSpace → Prop
  | now : Later s s
  | call {t : AddressSpace} (c : Call) (hlater : Later s t) : Later s (c.perform.run t).state
  | request {t : AddressSpace} (v : Service) (r : Request) (hlater : Later s t) :
      Later s ((respond v r).run t).state

/-- A request does no more than a call could do. -/
theorem exists_effect_respond (v : Service) (r : Request) (s : AddressSpace) :
    ∃ c answer, Effect s c answer ((respond v r).run s).state := by
  rcases respond_state v r s with hsame | ⟨id, value, hwrite⟩
  · -- as if a call had been refused
    rw [hsame]
    exact ⟨.registerNamespace "", _, .refused _ (.backend "")⟩
  · rw [hwrite]
    have heffect := perform_effect (.write id value) s
    rw [Call.perform, Action.map_state] at heffect
    exact ⟨_, _, heffect⟩

namespace Later

variable {s t : AddressSpace}

/-- What every effect of a call keeps is kept. -/
theorem invariant {P : AddressSpace → Prop} (hlater : Later s t) (hs : P s)
    (hstep : ∀ {u u' : AddressSpace} {c : Call} {answer : Except Error Answer},
      P u → Effect u c answer u' → P u') : P t := by
  induction hlater with
  | now => exact hs
  | @call u c _ ih => exact hstep ih (perform_effect c u)
  | @request u v r _ ih =>
    obtain ⟨c, answer, heffect⟩ := exists_effect_respond v r u
    exact hstep ih heffect

theorem wellFormed (hlater : Later s t) (h : s.WellFormed) : t.WellFormed :=
  hlater.invariant h fun hu heffect => hu.effect heffect

/-- Variables stay. -/
theorem exists_variableInfo (hlater : Later s t) {id : NodeId} {info : VariableInfo}
    (hinfo : s.variableInfo id = .ok info) : ∃ info, t.variableInfo id = .ok info := by
  apply hlater.invariant (P := fun u => ∃ info, u.variableInfo id = .ok info) ⟨info, hinfo⟩
  rintro u u' c answer ⟨info, hinfo⟩ heffect
  obtain ⟨node, hnode, -⟩ := variableInfo_eq_ok_iff.mp hinfo
  obtain ⟨node', hnode', -⟩ := exists_variableNode_effect heffect hnode
  exact ⟨node'.info id, variableInfo_eq_ok_iff.mpr ⟨node', hnode', rfl⟩⟩

end Later

/-! ## The identifiers of the variables -/

variable {c : ServerConfig} {boot : Bootstrapped}

/-- Whether the name of the outermost folder begins like a written identifier. -/
def ServerConfig.LooksLikeId (c : ServerConfig) : Prop :=
  ∃ first ∈ c.folderSegments.head?, "ns=".toList <+: first.toList

/-- The text of an identifier is the path of the folders with the name of the variable. -/
theorem variableId_eq (h : ((bootstrap c).run empty).result = .ok boot) (d : VariableDefinition) :
    boot.variableId d =
      ⟨boot.namespaceIndex, "/".intercalate (c.folderSegments ++ [d.name])⟩ := by
  rw [intercalate_concat (bootable_of_bootstrap h).folders, ← (booted_of_bootstrap h).folder_path]
  rfl

theorem isNodePath_variableId (h : ((bootstrap c).run empty).result = .ok boot)
    {d : VariableDefinition} (hd : d ∈ c.definitions) : IsNodePath (boot.variableId d) := by
  have hbootable := bootable_of_bootstrap h
  rw [variableId_eq h]
  apply isNodePath_intercalate (by simp)
  intro name hname
  rcases List.mem_append.mp hname with hname | hname
  · exact ⟨isName_of_mem_segmentsOf hname, hbootable.segments name hname⟩
  · rw [List.mem_singleton.mp hname]
    exact isPathSegment_iff.mp (validate_eq_ok_iff.mp (hbootable.definitions d hd)).1

/-- The text begins like a written identifier exactly if the outermost folder does. -/
theorem prefix_variableId_iff (h : ((bootstrap c).run empty).result = .ok boot)
    (d : VariableDefinition) :
    "ns=".toList <+: (boot.variableId d).identifier.toList ↔ c.LooksLikeId := by
  rw [variableId_eq h]
  unfold ServerConfig.LooksLikeId
  cases hsegments : c.folderSegments with
  | nil => exact absurd hsegments (bootable_of_bootstrap h).folders
  | cons first others =>
    simp only [List.cons_append, List.head?_cons, Option.mem_def, Option.some.injEq,
      exists_eq_left']
    exact prefix_intercalate_iff (by decide) _ _

/-- Every variable that a server starts with is found under its written identifier, now and later.
The text of the identifier alone leads to it as well, unless the name of the outermost folder
begins like a written identifier; then it is refused. -/
theorem addressing (h : ((bootstrap c).run empty).result = .ok boot) {v : Service}
    (hindex : v.namespaceIndex = boot.namespaceIndex) {r : RegisteredVariable}
    (hr : r ∈ boot.registered) :
    resolveNodeId v r.id.text = .ok r.id ∧
      (c.LooksLikeId →
        resolveNodeId v r.id.identifier = .error (.invalidNodeId r.id.identifier) ∧
        ∀ s, ((answer v (.read r.id.identifier)).run s).result =
          .ok (.ofError (.invalidNodeId r.id.identifier))) ∧
      (¬ c.LooksLikeId → resolveNodeId v r.id.identifier = .ok r.id) ∧
      ∀ s, Later ((bootstrap c).run empty).state s →
        ((answer v .list).run s).result = .ok (.ok (.array (s.allVariables.map (·.toJson)))) ∧
        ∃ info ∈ s.allVariables, info.id = r.id ∧
          (∀ other ∈ s.allVariables, other.id = r.id → other = info) ∧
          ∀ path, resolveNodeId v path = .ok r.id →
            ((answer v (.read path)).run s).result = .ok (.ok info.toJson) := by
  have hbooted := booted_of_bootstrap h
  rw [hbooted.registered] at hr
  obtain ⟨d, hd, rfl⟩ := List.mem_map.mp hr
  have hpath := isNodePath_variableId h hd
  refine ⟨resolveNodeId_text hpath, ?_, ?_, ?_⟩
  · intro hlooks
    have hrefused : resolveNodeId v (boot.variableId d).identifier = .error _ :=
      resolveNodeId_identifier_of_prefix hpath ((prefix_variableId_iff h d).mpr hlooks)
    refine ⟨hrefused, fun s => ?_⟩
    simp [answer, NodeRequest.handler, readNode_of_unresolved hrefused]
  · intro hlooks
    exact resolveNodeId_identifier hpath hindex (mt (prefix_variableId_iff h d).mp hlooks)
  · intro s hlater
    -- the variable was there at the start, and stays
    have hwell := hlater.wellFormed (wellFormed_of_bootstrap h)
    obtain ⟨first, hfirst, -⟩ := exists_variableInfo_of_mem (wellFormed_of_bootstrap h)
      (hbooted.listed ▸ List.mem_map_of_mem hd)
    obtain ⟨info, hinfo⟩ := hlater.exists_variableInfo hfirst
    obtain ⟨hmem, hid⟩ := (variableInfo_eq_ok_iff_mem hwell).mp hinfo
    refine ⟨by simp [answer, NodeRequest.handler, listNodes_run], info, hmem, hid, ?_, ?_⟩
    · intro other hother hid'
      have hother' := (variableInfo_eq_ok_iff_mem hwell).mpr ⟨hother, hid'⟩
      exact Except.ok.inj (hother'.symm.trans hinfo)
    · intro path hresolve
      simp [answer, NodeRequest.handler, readNode_of_variable hresolve hinfo]

/-- A configuration with a folder whose name begins like a written identifier. -/
def ServerConfig.lookalike : ServerConfig :=
  { ServerConfig.default with
    folderPath := "ns=1"
    definitions := [⟨"Speed", .boolean true, .boolean⟩] }

theorem ServerConfig.bootable_lookalike : lookalike.Bootable where
  endpoint := bootable_default.endpoint
  folders := by decide +kernel
  namespaceUri := bootable_default.namespaceUri
  segments := by decide +kernel
  notObjects := by decide +kernel
  definitions := by decide +kernel
  names_nodup := by decide +kernel

/-- The folder `ns=1` hides its variable from those who ask for the text of the identifier. -/
theorem addressing_lookalike :
    ((bootstrap .lookalike).run empty).result = .ok ServerConfig.lookalike.bootstrapped ∧
      ServerConfig.lookalike.bootstrapped.registered =
        [⟨⟨2, "ns=1/Speed"⟩, "Speed", .boolean, true⟩] ∧
      resolveNodeId ⟨.anonymous, 2, ""⟩ "ns=2;s=ns=1/Speed;" = .ok ⟨2, "ns=1/Speed"⟩ ∧
      resolveNodeId ⟨.anonymous, 2, ""⟩ "ns=1/Speed" = .error (.invalidNodeId "ns=1/Speed") := by
  have hboot := bootstrap_of_bootable ServerConfig.bootable_lookalike
  have hindex : (2 : UInt16) = ServerConfig.lookalike.bootstrapped.namespaceIndex := by
    decide +kernel
  have hregistered : ServerConfig.lookalike.bootstrapped.registered =
      [⟨⟨2, "ns=1/Speed"⟩, "Speed", .boolean, true⟩] := by decide +kernel
  have hlooks : ServerConfig.lookalike.LooksLikeId := ⟨"ns=1", by decide +kernel, by decide⟩
  obtain ⟨htext, hrefused, -⟩ := @addressing _ _ hboot ⟨.anonymous, 2, ""⟩ hindex
    ⟨⟨2, "ns=1/Speed"⟩, "Speed", .boolean, true⟩ (hregistered ▸ List.mem_singleton_self _)
  exact ⟨hboot, hregistered, htext, (hrefused hlooks).1⟩

end ScalarServer
