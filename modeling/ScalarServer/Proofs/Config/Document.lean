import ScalarServer.Config.Json
import ScalarServer.Proofs.Json.Records
import ScalarServer.Proofs.Path
import ScalarServer.Proofs.Scalar.Decoding

/-!
# Configurations as documents

What comes back when the JSON form of a configuration is read. Nothing can get lost but the value of
a variable, which is decoded by the type that stands beside it; so the values alone decide whether
the whole configuration comes back. In return, what has been read of a variable has a value of its
type, whatever the document was.

- `ofDocument_toJson`: for each part of a configuration, what its JSON form is read as;
- `VariableDefinition.reread`: a variable as it comes back;
- `VariableDefinition.type_of_ofDocument`, `ServerConfig.type_of_ofDocument`: what can be said of
  all that has been read;
- `ServerConfig.document_exact`: all of these.
-/

namespace ScalarServer

open Json (Document Problem RecordField)

/-! ## Users -/

/-- The fields of an object stand in the order of their names. -/
theorem UserCredential.toJson_eq (u : UserCredential) :
    u.toJson = .object [("password", .string u.password), ("username", .string u.username)] :=
  rfl

theorem UserCredential.ofDocument_toJson (u : UserCredential) :
    ofDocument u.toJson.document = .ok u := by
  have hread : u.toJson.document.toRecord "UserCredential" fields ⟨none, none⟩ =
      .ok ⟨some u.username, some u.password⟩ := by
    rw [toJson_eq]
    apply Json.toRecord_object
    · exact Eq.trans (Json.readMembers_step ⟨none, some u.password⟩ rfl rfl rfl)
        (Json.readMembers_step _ rfl rfl rfl)
    · simp [fields, RecordField.required, RecordField.optional]
  rw [ofDocument, hread]
  rfl

/-- A mode is written as the name that it is chosen by. -/
theorem AuthMode.toChoice_name (mode : AuthMode) :
    (Json.string mode.name).document.toChoice AuthMode.named = .ok mode := by
  cases mode <;> rfl

theorem AuthConfig.toJson_eq (auth : AuthConfig) : auth.toJson =
    .object [("mode", .string auth.mode.name),
      ("users", .array (auth.users.map UserCredential.toJson))] :=
  rfl

theorem AuthConfig.ofDocument_toJson (auth : AuthConfig) :
    ofDocument auth.toJson.document = .ok auth := by
  have husers : (Json.array (auth.users.map UserCredential.toJson)).document.toList
      UserCredential.ofDocument = .ok auth.users := by
    rw [Json.toList_document, Json.mapM_eq_ok_self_iff]
    exact fun u _ => u.ofDocument_toJson
  have hread : auth.toJson.document.toRecord "AuthConfig" fields ⟨none, none⟩ =
      .ok ⟨some auth.mode, some auth.users⟩ := by
    rw [toJson_eq, Json.document, Json.toRecord_of_defaults]
    · refine Eq.trans (Json.readMembers_step ⟨some auth.mode, none⟩ rfl rfl
        (RecordField.read_optional auth.mode.toChoice_name)) ?_
      exact Json.readMembers_step _ rfl rfl (RecordField.read_optional husers)
    · simp [fields, RecordField.optional]
  rw [ofDocument, hread]
  rfl

/-! ## The HTTP part -/

theorem BindMode.toChoice_name (mode : BindMode) :
    (Json.string mode.name).document.toChoice BindMode.named = .ok mode := by
  cases mode <;> rfl

/-- A port is written as an integer that is read as the port. -/
theorem toWord16_port (port : UInt16) :
    (Json.number (.integer port.toNat (port_fits port))).document.toWord16 = .ok port := by
  have hlt := port.toNat_lt
  rw [Json.document, Document.toWord16, if_pos (by omega), Int.toNat_natCast, UInt16.ofNat_toNat]

theorem HttpConfig.toJson_eq (http : HttpConfig) : http.toJson =
    .object [("bind", .string http.bind.name),
      ("port", .number (.integer http.port.toNat (port_fits http.port)))] :=
  rfl

theorem HttpConfig.ofDocument_toJson (http : HttpConfig) :
    ofDocument http.toJson.document = .ok http := by
  have hread : http.toJson.document.toRecord "HttpConfig" fields ⟨none, none⟩ =
      .ok ⟨some http.port, some http.bind⟩ := by
    rw [toJson_eq, Json.document, Json.toRecord_of_defaults]
    · refine Eq.trans (Json.readMembers_step ⟨none, some http.bind⟩ rfl rfl
        (RecordField.read_optional http.bind.toChoice_name)) ?_
      exact Json.readMembers_step _ rfl rfl (RecordField.read_optional (toWord16_port http.port))
    · simp [fields, RecordField.optional]
  rw [ofDocument, hread]
  rfl

/-! ## Variables -/

namespace Value

theorem toValue_realJson (x : Binary64) (room : Nat) :
    (realJson x).document.toValue room = .ok (realJson x) := by
  unfold realJson
  split <;> rfl

/-- The JSON form of a value has nothing inside it, so it is read whatever room there is. -/
theorem toValue_toJson (v : Value) (room : Nat) :
    v.toJson.document.toValue room = .ok v.toJson := by
  cases v with
  | boolean b => rfl
  | integer kind n fits => rfl
  | float x =>
    rw [toJson]
    split
    · exact toValue_realJson _ room
    · rfl
  | double x => exact toValue_realJson x room
  | string s => rfl

end Value

theorem ScalarType.ofDocument_name (t : ScalarType) :
    ofDocument (Json.string t.name).document = .ok t := by
  cases t with
  | integer kind => cases kind <;> rfl
  | _ => rfl

namespace VariableDefinition

/-- A variable as it comes back from its JSON form: the value is decoded by the type. -/
def reread (d : VariableDefinition) : Except Problem VariableDefinition :=
  match Value.ofJson d.value.toJson d.type with
  | .ok value => .ok { d with value := value }
  | .error e => .error (.content e.message)

theorem toJson_eq (d : VariableDefinition) : d.toJson =
    .object [("name", .string d.name), ("type", .string d.type.name),
      ("value", d.value.toJson)] :=
  rfl

theorem ofDocument_toJson (room : Nat) (d : VariableDefinition) :
    ofDocument room d.toJson.document = d.reread := by
  have hread : d.toJson.document.toRecord "RawDefinition" (fields (room - 1)) ⟨none, none, none⟩ =
      .ok ⟨some d.name, some d.value.toJson, some d.type⟩ := by
    rw [toJson_eq]
    apply Json.toRecord_object
    · refine Eq.trans (Json.readMembers_step ⟨some d.name, none, none⟩ rfl rfl rfl) ?_
      refine Eq.trans (Json.readMembers_step ⟨some d.name, none, some d.type⟩ rfl rfl
        (RecordField.read_required d.type.ofDocument_name)) ?_
      exact Json.readMembers_step _ rfl rfl
        (RecordField.read_required (d.value.toValue_toJson (room - 1)))
    · simp [fields, RecordField.required, RecordField.optional]
  rw [ofDocument, hread]
  rfl

/-- A variable comes back exactly if its value has its type and is decoded as itself. -/
theorem reread_eq_ok_self_iff {d : VariableDefinition} :
    d.reread = .ok d ↔
      d.value.type = d.type ∧ Value.ofJson d.value.toJson d.value.type = .ok d.value := by
  constructor
  · intro h
    unfold reread at h
    split at h
    · rename_i value hvalue
      have heq : value = d.value := congrArg VariableDefinition.value (Except.ok.inj h)
      rw [heq] at hvalue
      have htype := Value.type_of_ofJson hvalue
      exact ⟨htype, htype ▸ hvalue⟩
    · cases h
  · rintro ⟨htype, hvalue⟩
    obtain ⟨name, value, type⟩ := d
    dsimp only at htype hvalue
    subst htype
    unfold reread
    rw [hvalue]

/-- Whatever a variable has been read of, its value has its type. -/
theorem type_of_ofDocument {room : Nat} {document : Document} {d : VariableDefinition}
    (h : ofDocument room document = .ok d) : d.value.type = d.type := by
  obtain ⟨read, -, h⟩ := Json.bind_eq_ok_iff.mp h
  split at h
  · split at h
    · rename_i hvalue
      cases h
      exact Value.type_of_ofJson hvalue
    · cases h
  · cases h

/-- The values of the usual variables have their types. -/
theorem type_of_mem_defaults : ∀ d ∈ defaults, d.value.type = d.type := by
  decide

/-- If the value has the type, only the name can be wrong. -/
theorem validate_eq_error_iff {d : VariableDefinition} (htype : d.value.type = d.type)
    {e : Error} : d.validate = .error e ↔ isPathSegment d.name = false ∧
      e = .invalidDefinition ("display name " ++ Text.quote d.name ++
        " must be non-empty and free of '/' and ';'") := by
  unfold validate
  cases isPathSegment d.name with
  | false => simp [eq_comm]
  | true => simp [htype]

end VariableDefinition

/-! ## Configurations -/

namespace ServerConfig

theorem toJson_eq (c : ServerConfig) : c.toJson =
    .object [("application_uri", .string c.applicationUri), ("auth", c.auth.toJson),
      ("endpoint", .string c.endpoint), ("folder_path", .string c.folderPath),
      ("http", c.http.toJson), ("namespace_uri", .string c.namespaceUri),
      ("server_name", .string c.serverName),
      ("variables", .array (c.definitions.map VariableDefinition.toJson))] :=
  rfl

/-- A configuration comes back with the variables as they come back. -/
theorem ofDocument_toJson (c : ServerConfig) : ofDocument c.toJson.document =
    (c.definitions.mapM VariableDefinition.reread).map fun ds => { c with definitions := ds } := by
  have hdefinitions : (Json.array (c.definitions.map VariableDefinition.toJson)).document.toList
      (VariableDefinition.ofDocument (Json.nestingLimit - 2)) =
        c.definitions.mapM VariableDefinition.reread := by
    rw [Json.toList_document]
    simp only [VariableDefinition.ofDocument_toJson]
  have hread : c.toJson.document.toRecord "ServerConfig" fields Partial.empty =
      (c.definitions.mapM VariableDefinition.reread).map fun ds =>
        ⟨some c.serverName, some c.applicationUri, some c.endpoint, some c.namespaceUri,
          some c.folderPath, some c.auth, some c.http, some ds⟩ := by
    rw [toJson_eq, Json.document, Json.toRecord_of_defaults]
    · -- the members come in the order of their names, so only the last one can fail
      refine Eq.trans (Json.readMembers_step
        ⟨none, some c.applicationUri, none, none, none, none, none, none⟩ rfl rfl rfl) ?_
      refine Eq.trans (Json.readMembers_step
        ⟨none, some c.applicationUri, none, none, none, some c.auth, none, none⟩ rfl rfl
          (RecordField.read_optional c.auth.ofDocument_toJson)) ?_
      refine Eq.trans (Json.readMembers_step
        ⟨none, some c.applicationUri, some c.endpoint, none, none, some c.auth, none, none⟩
          rfl rfl rfl) ?_
      refine Eq.trans (Json.readMembers_step
        ⟨none, some c.applicationUri, some c.endpoint, none, some c.folderPath, some c.auth,
          none, none⟩ rfl rfl rfl) ?_
      refine Eq.trans (Json.readMembers_step
        ⟨none, some c.applicationUri, some c.endpoint, none, some c.folderPath, some c.auth,
          some c.http, none⟩ rfl rfl (RecordField.read_optional c.http.ofDocument_toJson)) ?_
      refine Eq.trans (Json.readMembers_step
        ⟨none, some c.applicationUri, some c.endpoint, some c.namespaceUri, some c.folderPath,
          some c.auth, some c.http, none⟩ rfl rfl rfl) ?_
      refine Eq.trans (Json.readMembers_step
        ⟨some c.serverName, some c.applicationUri, some c.endpoint, some c.namespaceUri,
          some c.folderPath, some c.auth, some c.http, none⟩ rfl rfl rfl) ?_
      refine Eq.trans (Json.readMembers_cons rfl rfl) ?_
      rw [← hdefinitions]
      show Except.map _ (Document.toList _ _) >>= pure = _
      rw [bind_pure]
    · simp [fields, RecordField.optional]
  rw [ofDocument, hread]
  cases c.definitions.mapM VariableDefinition.reread <;> rfl

/-- A configuration comes back exactly if the value of each variable does. -/
theorem ofDocument_toJson_eq_ok_iff {c : ServerConfig} :
    ofDocument c.toJson.document = .ok c ↔ ∀ d ∈ c.definitions,
      d.value.type = d.type ∧ Value.ofJson d.value.toJson d.value.type = .ok d.value := by
  simp only [← VariableDefinition.reread_eq_ok_self_iff, ← Json.mapM_eq_ok_self_iff,
    ofDocument_toJson]
  constructor
  · intro h
    cases hreread : c.definitions.mapM VariableDefinition.reread with
    | error problem =>
      rw [hreread] at h
      cases h
    | ok ds =>
      rw [hreread] at h
      exact congrArg Except.ok (congrArg ServerConfig.definitions (Except.ok.inj h))
  · intro h
    rw [h]
    rfl

/-- Of all variables of a configuration that has been read, the values have the types. -/
theorem type_of_ofDocument {document : Document} {c : ServerConfig}
    (h : ofDocument document = .ok c) : ∀ d ∈ c.definitions, d.value.type = d.type := by
  obtain ⟨read, hread, heq⟩ := Json.bind_eq_ok_iff.mp h
  cases heq
  -- the variables are read by one of the fields, and no other field touches them
  have hfields : ∀ field ∈ fields, field.Keeps fun p : Partial =>
      ∀ ds ∈ p.definitions, ∀ d ∈ ds, d.value.type = d.type := by
    simp only [fields, List.forall_mem_cons, List.not_mem_nil, false_implies, implies_true,
      and_true]
    refine ⟨?_, ?_, ?_, ?_, ?_, ?_, ?_, ?_⟩
    case refine_8 =>
      apply RecordField.keeps_optional
      intro document ds _ hds _ _ hmem d hd
      cases hmem
      obtain ⟨item, hitem⟩ := Json.exists_of_mem_of_toList hds hd
      exact VariableDefinition.type_of_ofDocument hitem
    all_goals exact RecordField.keeps_optional fun _ _ _ _ h => h
  have htyped := Json.toRecord_invariant hfields (by simp [Partial.empty]) hread
  rw [ofPartial]
  cases hdefinitions : read.definitions with
  | none => exact VariableDefinition.type_of_mem_defaults
  | some ds => exact htyped ds hdefinitions

/-- A configuration comes back from its JSON form, with all names, users, modes, the port and the
variables in order, exactly if the value of each variable has its type and is decoded as itself. A
variable that has been read has a value of its type, whatever it has been read of, so that of all
that is checked only its name can be wrong; and this goes for all variables of a configuration that
has been read. -/
theorem document_exact :
    (∀ c : ServerConfig, ofDocument c.toJson.document = .ok c ↔ ∀ d ∈ c.definitions,
        d.value.type = d.type ∧ Value.ofJson d.value.toJson d.value.type = .ok d.value) ∧
      (∀ room document d, VariableDefinition.ofDocument room document = .ok d →
        d.value.type = d.type ∧ ∀ e, d.validate = .error e ↔ isPathSegment d.name = false ∧
          e = .invalidDefinition ("display name " ++ Text.quote d.name ++
            " must be non-empty and free of '/' and ';'")) ∧
      ∀ document c, ofDocument document = .ok c → ∀ d ∈ c.definitions, d.value.type = d.type := by
  refine ⟨fun c => ofDocument_toJson_eq_ok_iff, fun room document d h => ?_,
    fun document c h => type_of_ofDocument h⟩
  have htype := VariableDefinition.type_of_ofDocument h
  exact ⟨htype, fun e => VariableDefinition.validate_eq_error_iff htype⟩

/-- The default configuration comes back; and a variable that has been read can have a name that is
refused. -/
theorem document_exact_default :
    ofDocument ServerConfig.default.toJson.document = .ok .default ∧
      (∀ d ∈ ServerConfig.default.definitions, d.value.type = d.type) ∧
      VariableDefinition.ofDocument 0 (.object [(some "name", .string (some "On/Off")),
        (some "value", .bool true), (some "type", .string (some "Boolean"))] true) =
          .ok ⟨"On/Off", .boolean true, .boolean⟩ ∧
      VariableDefinition.validate ⟨"On/Off", .boolean true, .boolean⟩ =
        .error (.invalidDefinition ("display name " ++ Text.quote "On/Off" ++
          " must be non-empty and free of '/' and ';'")) := by
  obtain ⟨hback, hread, hall⟩ := document_exact
  have hdefault := (hback .default).mpr (by decide +kernel)
  have hvariable : VariableDefinition.ofDocument 0 (.object
      [(some "name", .string (some "On/Off")), (some "value", .bool true),
        (some "type", .string (some "Boolean"))] true) =
          .ok ⟨"On/Off", .boolean true, .boolean⟩ := rfl
  exact ⟨hdefault, hall _ _ hdefault, hvariable,
    ((hread _ _ _ hvariable).2 _).mpr ⟨by decide, rfl⟩⟩

end ServerConfig

end ScalarServer
