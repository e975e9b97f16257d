import ScalarServer.Proofs.Folders

/-!
# Starting from a configuration

Which configurations a server can be started with, and the address space that it starts with.

- `ServerConfig.Bootable`: all that a configuration has to respect;
- `bootable_of_bootstrap`, `bootstrap_of_bootable`: starting, from both sides;
- `Booted`: what the address space has to do with the configuration;
- `bootstrap_exact`: a server starts exactly with the configurations that are bootable, and then
  its address space is what the configuration says.
-/

namespace ScalarServer

open AddressSpace Text

/-! ## Namespaces -/

namespace AddressSpace

variable {s : AddressSpace} {uri : String}

/-- The address space with a namespace, which may be there already. -/
def withNamespace (uri : String) (s : AddressSpace) : AddressSpace :=
  if uri ∈ s.namespaces then s else { s with namespaces := s.namespaces ++ [uri] }

@[simp]
theorem withNamespace_nodes : (s.withNamespace uri).nodes = s.nodes := by
  unfold withNamespace
  split <;> rfl

@[simp]
theorem withNamespace_nextSeq : (s.withNamespace uri).nextSeq = s.nextSeq := by
  unfold withNamespace
  split <;> rfl

theorem mem_withNamespace : uri ∈ (s.withNamespace uri).namespaces := by
  unfold withNamespace
  split
  · assumption
  · simp

theorem length_withNamespace_le (s : AddressSpace) (uri : String) :
    (s.withNamespace uri).namespaces.length ≤ s.namespaces.length + 1 := by
  unfold withNamespace
  split <;> simp

/-- As long as there is room, a namespace is registered, and its index is where it stands. -/
theorem registerNamespace_of_lt (hroom : s.namespaces.length < 65536) :
    ((registerNamespace uri).run s).result =
        .ok (.ofNat ((s.withNamespace uri).namespaces.idxOf uri)) ∧
      ((registerNamespace uri).run s).state = s.withNamespace uri := by
  unfold withNamespace
  by_cases hmem : uri ∈ s.namespaces
  · simpa only [if_pos hmem] using registerNamespace_of_mem hmem
  · have hnew := registerNamespace_of_room hmem hroom
    simpa [if_neg hmem, List.idxOf_append_of_notMem hmem] using hnew

end AddressSpace

namespace ServerConfig

/-- The namespaces of a server, in the order in which it registers them. -/
def namespaces (c : ServerConfig) : List String :=
  [baseNamespace, c.applicationUri, c.namespaceUri].eraseDups

/-- The address space when the namespaces have been registered. -/
def namespaced (c : ServerConfig) : AddressSpace :=
  (empty.withNamespace c.applicationUri).withNamespace c.namespaceUri

/-- The index of the namespace of the variables. -/
def index (c : ServerConfig) : UInt16 :=
  .ofNat (c.namespaced.namespaces.idxOf c.namespaceUri)

variable {c : ServerConfig}

theorem namespaced_namespaces : c.namespaced.namespaces = c.namespaces := by
  unfold namespaced namespaces withNamespace
  by_cases happ : c.applicationUri = baseNamespace
  · by_cases huri : c.namespaceUri = baseNamespace
    · simp [empty, happ, huri, List.eraseDups_cons]
    · simp [empty, happ, huri, List.eraseDups_cons]
  · by_cases huri : c.namespaceUri = baseNamespace
    · simp [empty, happ, huri, List.eraseDups_cons]
    · by_cases hsame : c.namespaceUri = c.applicationUri
      · simp [empty, happ, hsame, List.eraseDups_cons]
      · simp [empty, happ, huri, hsame, List.eraseDups_cons]

theorem length_namespaced_le : c.namespaced.namespaces.length ≤ 3 := by
  have hfirst := length_withNamespace_le empty c.applicationUri
  have hsecond := length_withNamespace_le (empty.withNamespace c.applicationUri) c.namespaceUri
  exact Nat.le_trans hsecond (Nat.add_le_add_right hfirst 1)

theorem idxOf_namespaced_lt :
    c.namespaced.namespaces.idxOf c.namespaceUri < c.namespaced.namespaces.length :=
  List.idxOf_lt_length_of_mem mem_withNamespace

theorem toNat_index : c.index.toNat = c.namespaced.namespaces.idxOf c.namespaceUri := by
  have hlt : c.namespaced.namespaces.idxOf c.namespaceUri < 3 :=
    Nat.lt_of_lt_of_le idxOf_namespaced_lt length_namespaced_le
  exact UInt16.toNat_ofNat_of_lt (Nat.lt_trans hlt (by decide))

/-- The variables are in the first namespace only if they are meant to be. -/
theorem index_eq_zero_iff : c.index = 0 ↔ c.namespaceUri = baseNamespace := by
  rw [← UInt16.toNat_inj, toNat_index, namespaced_namespaces, namespaces, List.eraseDups_cons,
    List.idxOf_cons]
  by_cases huri : c.namespaceUri = baseNamespace
  · simp [huri]
  · have hne : (baseNamespace == c.namespaceUri) = false :=
      beq_eq_false_iff_ne.mpr fun heq => huri heq.symm
    simp [huri, hne]

theorem knows_index : c.namespaced.Knows c.index := by
  rw [Knows, toNat_index]
  exact idxOf_namespaced_lt

theorem idxOf?_index : c.namespaces.idxOf? c.namespaceUri = some c.index.toNat := by
  rw [toNat_index, ← namespaced_namespaces]
  exact List.findIdx?_eq_some_iff_findIdx_eq.mpr ⟨idxOf_namespaced_lt, rfl⟩

/-! ## Bootable configurations -/

/-- What a configuration has to respect for a server to start with it. -/
structure Bootable (c : ServerConfig) : Prop where
  /-- The endpoint can be read. -/
  endpoint : ∃ e, Endpoint.parse c.endpoint = .ok e
  /-- There is a folder for the variables. -/
  folders : c.folderSegments ≠ []
  /-- The namespace of the variables has a URI. -/
  namespaceUri : trim c.namespaceUri.toList ≠ []
  /-- The names of folders have no semicolons. -/
  segments : ∀ name ∈ c.folderSegments, ';' ∉ name.toList
  /-- The outermost folder is not the Objects folder. -/
  notObjects : ¬ (c.namespaceUri = baseNamespace ∧ c.folderSegments.head? = some objectsName)
  /-- The definitions are in order. -/
  definitions : ∀ d ∈ c.definitions, d.validate = .ok ()
  /-- No name stands twice. -/
  names_nodup : (c.definitions.map (·.name)).Nodup

theorem validate_eq_ok_iff : c.validate = .ok () ↔
    (∃ e, Endpoint.parse c.endpoint = .ok e) ∧ c.folderSegments ≠ [] ∧
      trim c.namespaceUri.toList ≠ [] := by
  unfold validate
  cases Endpoint.parse c.endpoint with
  | error e => simp
  | ok endpoint =>
    by_cases hfolders : c.folderSegments = []
    · simp [hfolders]
    · by_cases huri : trim c.namespaceUri.toList = []
      · simp [hfolders, huri]
      · simp [hfolders, huri]

theorem hidesObjects_iff :
    (∀ name ∈ c.folderSegments.head?, ¬ HidesObjects c.index ([] ++ [name])) ↔
      ¬ (c.namespaceUri = baseNamespace ∧ c.folderSegments.head? = some objectsName) := by
  unfold HidesObjects
  rw [index_eq_zero_iff]
  constructor
  · rintro h ⟨huri, hhead⟩
    exact h objectsName hhead ⟨huri, rfl⟩
  · rintro h name hname ⟨huri, heq⟩
    rw [List.nil_append, List.singleton_inj] at heq
    subst heq
    exact h ⟨huri, hname⟩

/-- The default configuration is bootable. -/
theorem bootable_default : ServerConfig.default.Bootable where
  endpoint := ⟨⟨"localhost", 12345, "/lablink-test"⟩, by decide +kernel⟩
  folders := by decide +kernel
  namespaceUri := by decide +kernel
  segments := by decide +kernel
  notObjects := by decide +kernel
  definitions := by decide +kernel
  names_nodup := by decide +kernel

end ServerConfig

variable {c : ServerConfig} {boot : Bootstrapped}

/-- When the namespaces have been registered, there is nothing but the Objects folder. -/
theorem chain_namespaced (c : ServerConfig) : Chain c.namespaced c.index [] :=
  chain_nil (by simp [ServerConfig.namespaced]) (by simp [ServerConfig.namespaced])
    ServerConfig.knows_index

/-- What is left of starting when the namespaces have been registered. -/
def ServerConfig.furnish (c : ServerConfig) : Action AddressSpace Bootstrapped := do
  let folder ← addFolders c.index objects c.folderSegments
  let registered ← Registration.registerAll c.index folder.backend c.definitions
  return ⟨c.index, folder, registered⟩

theorem bootstrap_of_valid (hvalid : c.validate = .ok ()) :
    ((bootstrap c).run empty).result = (c.furnish.run c.namespaced).result ∧
      ((bootstrap c).run empty).state = (c.furnish.run c.namespaced).state := by
  -- there is room for two more namespaces
  have hlength : (empty.withNamespace c.applicationUri).namespaces.length < 65536 :=
    Nat.lt_of_le_of_lt (length_withNamespace_le empty c.applicationUri) (by decide)
  obtain ⟨hfirst, hfirst'⟩ := @registerNamespace_of_lt empty c.applicationUri (by decide)
  obtain ⟨hsecond, hsecond'⟩ := @registerNamespace_of_lt _ c.namespaceUri hlength
  rw [← hfirst'] at hsecond hsecond'
  unfold bootstrap ServerConfig.furnish ServerConfig.index ServerConfig.namespaced
  rw [← hfirst']
  simp [hvalid, hfirst, hsecond, hsecond']

/-- If a server has started, its configuration is bootable. -/
theorem bootable_of_bootstrap (h : ((bootstrap c).run empty).result = .ok boot) :
    c.Bootable := by
  have hvalid : c.validate = .ok () := by
    obtain ⟨_, hvalid, -⟩ := Action.bind_result_eq_ok_iff.mp h
    rwa [Action.ofExcept_result] at hvalid
  rw [(bootstrap_of_valid hvalid).1] at h
  obtain ⟨hendpoint, hfolders, huri⟩ := ServerConfig.validate_eq_ok_iff.mp hvalid
  obtain ⟨folder, hfolder, h⟩ := Action.bind_result_eq_ok_iff.mp h
  obtain ⟨registered, hregistered, -⟩ := Action.bind_result_eq_ok_iff.mp h
  have hnames : ∀ name ∈ c.folderSegments, IsName name := fun _ => isName_of_mem_segmentsOf
  -- the folders have been created, so their names are in order and lead to the variables
  have hchain := chain_namespaced c
  rw [← folderAt_nil c.index] at hfolder hregistered
  obtain ⟨hsemicolon, hhides⟩ := names_of_addFolders hchain hnames hfolder
  obtain ⟨hcreated, hchain', -⟩ := addFolders_of_names hchain hnames hsemicolon hhides
  rw [hcreated, List.nil_append, Except.ok.injEq] at hfolder
  subst hfolder
  rw [List.nil_append] at hchain'
  obtain ⟨hdefinitions, hnodup⟩ :=
    (hchain'.registrable_iff hfolders).mp (registrable_of_registerAll hregistered)
  exact ⟨hendpoint, hfolders, huri, hsemicolon, ServerConfig.hidesObjects_iff.mp hhides,
    hdefinitions, hnodup⟩

/-- What a server with a bootable configuration starts with. -/
def ServerConfig.bootstrapped (c : ServerConfig) : Bootstrapped where
  namespaceIndex := c.index
  folder := folderAt c.index c.folderSegments
  registered := c.definitions.map ((folderAt c.index c.folderSegments).registered c.index)

/-- With a bootable configuration a server starts: it creates the folders, and in the innermost
one the variables. -/
theorem exists_chain_of_bootable (h : c.Bootable) :
    ∃ s, Chain s c.index c.folderSegments ∧ s.namespaces = c.namespaces ∧
      s.Registrable c.index (folderAt c.index c.folderSegments) c.definitions ∧
      ((bootstrap c).run empty).result = .ok c.bootstrapped ∧
      ((bootstrap c).run empty).state =
        s.withVariables c.index (folderAt c.index c.folderSegments) c.definitions := by
  have hvalid := ServerConfig.validate_eq_ok_iff.mpr ⟨h.endpoint, h.folders, h.namespaceUri⟩
  have hnames : ∀ name ∈ c.folderSegments, IsName name := fun _ => isName_of_mem_segmentsOf
  obtain ⟨hfolder, hchain, hnamespaces⟩ := addFolders_of_names (chain_namespaced c) hnames
    h.segments (ServerConfig.hidesObjects_iff.mpr h.notObjects)
  rw [folderAt_nil, List.nil_append] at hfolder hchain
  have hregistrable := (hchain.registrable_iff h.folders).mpr ⟨h.definitions, h.names_nodup⟩
  obtain ⟨hregistered, hstate⟩ := registerAll_of_registrable hregistrable
  refine ⟨_, hchain, ?_, hregistrable, ?_, ?_⟩
  · rw [folderAt_nil] at hnamespaces
    rw [hnamespaces, ServerConfig.namespaced_namespaces]
  · rw [(bootstrap_of_valid hvalid).1]
    simp [ServerConfig.furnish, ServerConfig.bootstrapped, hfolder, hregistered]
  · rw [(bootstrap_of_valid hvalid).2]
    simp [ServerConfig.furnish, hfolder, hregistered, hstate]

/-! ## What a server starts with -/

/-- The identifier of a variable of a server: the path of the folder, a slash and the name. -/
def Bootstrapped.variableId (boot : Bootstrapped) (d : VariableDefinition) : NodeId :=
  ⟨boot.namespaceIndex, boot.folder.path ++ "/" ++ d.name⟩

/-- What a server that has started has to do with its configuration. -/
structure Booted (c : ServerConfig) (boot : Bootstrapped) (s : AddressSpace) : Prop where
  /-- The namespaces are the one of the Objects folder, the server's own and that of the variables,
  in this order, without repetition. -/
  namespaces : s.namespaces = [baseNamespace, c.applicationUri, c.namespaceUri].eraseDups
  /-- The namespace of the variables is where its URI stands. -/
  index : s.namespaces.idxOf? c.namespaceUri = some boot.namespaceIndex.toNat
  /-- The path of the folder is the configured names with slashes between them. -/
  folder_path : boot.folder.path = "/".intercalate c.folderSegments
  /-- There is one variable for each definition, in order, and clients can write it. -/
  registered : boot.registered = c.definitions.map fun d =>
    ⟨boot.variableId d, d.name, d.type, true⟩
  /-- These are all variables, and they have what the definitions say. -/
  listed : s.allVariables.map VariableInfo.untimed = c.definitions.map fun d =>
    ⟨boot.variableId d, d.name, d.type, d.value, true, 0⟩
  /-- Each variable can be read, and has its first value. -/
  read : ∀ d ∈ c.definitions, s.read (boot.variableId d) = .ok d.value
  /-- There are no nodes but the Objects folder, the configured folders and the variables. -/
  nodeCount : s.nodeCount = 1 + c.folderSegments.length + c.definitions.length

/-- The identifiers of the variables in the innermost folder. -/
theorem variableId_folderAt {s : AddressSpace} (h : Chain s c.index c.folderSegments)
    (hfolders : c.folderSegments ≠ []) :
    (folderAt c.index c.folderSegments).variableId c.index = c.bootstrapped.variableId := by
  funext d
  rw [Folder.variableId, h.inFolder_eq, intercalate_concat hfolders]
  rfl

theorem bootstrap_of_bootable (h : c.Bootable) :
    ((bootstrap c).run empty).result = .ok c.bootstrapped := by
  obtain ⟨_, -, -, -, hresult, -⟩ := exists_chain_of_bootable h
  exact hresult

/-- A server with a bootable configuration starts with what the configuration says. -/
theorem booted_of_bootstrap (h : ((bootstrap c).run empty).result = .ok boot) :
    Booted c boot ((bootstrap c).run empty).state := by
  have hbootable := bootable_of_bootstrap h
  obtain ⟨s, hchain, hnamespaces, hregistrable, hresult, hstate⟩ :=
    exists_chain_of_bootable hbootable
  rw [hresult, Except.ok.injEq] at h
  subst h
  rw [hstate]
  have hid := variableId_folderAt hchain hbootable.folders
  have hlisted := hregistrable.allVariables hchain.wellFormed
  have hinitial : (folderAt c.index c.folderSegments).initialInfo c.index = fun d =>
      ⟨c.bootstrapped.variableId d, d.name, d.type, d.value, true, 0⟩ := by
    funext d
    rw [Folder.initialInfo, hid]
  rw [hchain.noVariables, List.map_nil, List.nil_append, hinitial] at hlisted
  refine ⟨?_, ?_, rfl, ?_, hlisted, ?_, ?_⟩
  · rw [withVariables_namespaces, hnamespaces]
    rfl
  · rw [withVariables_namespaces, hnamespaces]
    exact ServerConfig.idxOf?_index
  · apply List.map_congr_left
    intro d _
    rw [Folder.registered, hid]
  · intro d hd
    obtain ⟨info, hinfo, huntimed⟩ := exists_variableInfo_of_mem
      (hregistrable.wellFormed hchain.wellFormed) (hlisted ▸ List.mem_map_of_mem hd)
    rw [AddressSpace.read, hinfo]
    exact congrArg Except.ok (congrArg VariableInfo.value huntimed)
  · rw [nodeCount_withVariables, hchain.count]

/-- The address space that a server starts with is in order. -/
theorem wellFormed_of_bootstrap (h : ((bootstrap c).run empty).result = .ok boot) :
    ((bootstrap c).run empty).state.WellFormed := by
  obtain ⟨s, hchain, -, hregistrable, -, hstate⟩ :=
    exists_chain_of_bootable (bootable_of_bootstrap h)
  rw [hstate]
  exact hregistrable.wellFormed hchain.wellFormed

/-- A server starts exactly with the configurations that are bootable, and then its address space
is what the configuration says. -/
theorem bootstrap_exact (c : ServerConfig) :
    ((∃ boot, ((bootstrap c).run empty).result = .ok boot) ↔ c.Bootable) ∧
      ∀ boot, ((bootstrap c).run empty).result = .ok boot →
        Booted c boot ((bootstrap c).run empty).state := by
  refine ⟨⟨?_, ?_⟩, fun boot => booted_of_bootstrap⟩
  · rintro ⟨boot, h⟩
    exact bootable_of_bootstrap h
  · intro h
    exact ⟨_, bootstrap_of_bootable h⟩

/-- The server of the default configuration. -/
theorem bootstrap_exact_default :
    ∃ boot, ((bootstrap .default).run empty).result = .ok boot ∧
      Booted .default boot ((bootstrap .default).run empty).state := by
  obtain ⟨boot, h⟩ := (bootstrap_exact .default).1.mpr ServerConfig.bootable_default
  exact ⟨boot, h, (bootstrap_exact .default).2 boot h⟩

end ScalarServer
