import OpcUaAdapter.Proofs.LoadFailures
import OpcUaAdapter.Proofs.MapReloading

/-! What is left of the generator's state when loading a map file raises an exception. The
tree is reset before the file is opened, and everything that is read takes effect at once. -/

namespace OpcUaAdapter.Generator
open Effects XMLDirectory

section

variable {α β : Type}

private theorem or_eq_self_iff {given kept : Option α} : given.or kept = kept ↔ ∀ value ∈ given, kept = some value := by
  cases given <;> simp [eq_comm]

private theorem getD_eq_self_iff {given : Option α} {kept : α} : given.getD kept = kept ↔ ∀ value ∈ given, kept = value := by
  cases given <;> simp [eq_comm]

end

namespace Config

/-- The settings before the first setup that cannot be read. -/
def settingsBefore : List SetupElement → List HistorySetting
  | [] => []
  | setup :: rest =>
    match HistorySetting.readHistory { name := [] } setup with
    | .ok h => h :: settingsBefore rest
    | .error _ => []

private theorem readSetups_state (setups : List SetupElement) (s : Config) :
    (outcome (setups.forM readSetup) s).2 = addSettings (settingsBefore setups) s := by
  induction setups generalizing s with
  | nil => rfl
  | cons setup rest ih =>
    change (outcome (readSetup setup >>= fun _ => rest.forM readSetup) s).2 = _
    unfold readSetup settingsBefore
    cases HistorySetting.readHistory { name := [] } setup with
    | error error => simp [outcome_bind, addSettings]
    | ok h =>
      simp only [outcome_bind, outcome_result, outcome_modify]
      exact ih _

private theorem readServer_failed {server : Option ServerElement} {text : Text} (port : server.bind (·.port) = some text)
    (bad : int text = none) (s : Config) :
    outcome (readServer server) s = (.error .valueError,
      { s with applicationName := (server.bind (·.applicationName)).or s.applicationName }) := by
  cases server with
  | none => cases port
  | some server =>
    rw [Option.bind_some] at port
    simp [readServer, port, outcome_bind, intAttribute, bad]

/-- The configuration where reading it ends, at an exception or after the last setup. -/
def configAt (config : ConfigElement) (s : Config) : Config :=
  if config.rootFolder.isSome ∧ config.description = none then { s with rootFolder := config.rootFolder }
  else if (config.server.bind (·.port)).any fun text => (int text).isNone then
    { afterRootFolder config s with
      applicationName := (config.server.bind (·.applicationName)).or s.applicationName }
  else afterConfig config (settingsBefore (config.historizing.getD [])) s

private theorem readConfig_state (config : ConfigElement) (s : Config) :
    (outcome (readConfig (some config)) s).2 = configAt config s := by
  unfold readConfig configAt
  dsimp only
  by_cases undescribed : config.rootFolder.isSome ∧ config.description = none
  · rw [if_pos undescribed]
    obtain ⟨given, none⟩ := undescribed
    obtain ⟨text, root⟩ := Option.isSome_iff_exists.mp given
    simp [readRootFolder, root, none, outcome_bind]
  · have root := readRootFolder_ok.mpr ⟨fun given => Option.isSome_iff_ne_none.mpr fun none => undescribed ⟨given, none⟩,
      (rfl : afterRootFolder config s = _)⟩
    have server (fine : ∀ text ∈ config.server.bind (·.port), (int text).isSome) :=
      readServer_ok.mpr ⟨fine, (rfl : afterServer config.server (afterRootFolder config s) = _)⟩
    have rest (fine : ∀ text ∈ config.server.bind (·.port), (int text).isSome) :
        (outcome (readRootFolder config >>= fun _ => readServer config.server >>= fun _ =>
          modify (readLds config.lds) >>= fun _ => modify (readVoidHandling config.voidHandling) >>= fun _ =>
          modify (readLogin config.login) >>= fun _ => modify (readSecurity config.security) >>= fun _ =>
          (config.historizing.getD []).forM readSetup) s).2 =
        afterConfig config (settingsBefore (config.historizing.getD [])) s := by
      rw [outcome_bind_ok root, outcome_bind_ok (server fine)]
      simp only [outcome_bind, outcome_modify]
      exact readSetups_state _ _
    rw [if_neg undescribed]
    cases port : config.server.bind (·.port) with
    | none => exact rest (by simp [port])
    | some text =>
      cases parsed : int text with
      | some value => simpa [parsed] using rest (by simp [port, parsed])
      | none =>
        rw [outcome_bind_ok root, outcome_bind_failed (readServer_failed port parsed _), if_pos (by simp [parsed])]
        rfl

/-- What the login element gives is what the configuration has. -/
def LoginAgrees (s : Config) : Option LoginElement → Prop
  | none => s.enableLogin = false ∧ s.username = none ∧ s.password = none
  | some login => s.enableLogin = true ∧ (∀ text ∈ login.username, s.username = some text) ∧
      ∀ text ∈ login.password, s.password = some text

def SecurityAgrees (s : Config) : Option SecurityElement → Prop
  | none => s.toEncryptionSettings = {}
  | some security => s.encryptionEnabled = true ∧
      (security.unsecure = some ("True" : Text) → s.addUnsecureEndpoint = true) ∧
      (security.allowAnyCertificate = some ("True" : Text) → s.allowAnyCertificate = true) ∧
      (∀ text ∈ security.privatekey, s.key = some text) ∧ (∀ text ∈ security.certificate, s.certificate = some text) ∧
      (∀ text ∈ security.trustlist, s.trustList = some text) ∧ (∀ text ∈ security.issuerlist, s.issuerList = some text) ∧
      ∀ text ∈ security.blocklist, s.blockList = some text

/-- What the element gives is what the configuration has, as far as it is read after the port. -/
structure RestAgrees (config : ConfigElement) (s : Config) : Prop where
  port : ∀ value ∈ (config.server.bind (·.port)).bind int, s.port = some value
  logLevel : ∀ level ∈ (config.server.bind (·.logLevel)).bind levelOf, s.logLevel = level
  register : ∀ text ∈ config.lds.bind (·.register), s.registerLDS = decide (upper text = "TRUE")
  address : ∀ text ∈ config.lds.bind (·.address), s.ldsAddress = some text
  registryName : ∀ text ∈ config.lds.bind (·.registryName), s.ldsRegistryName = some text
  registerPeriod : ∀ period ∈ (config.lds.bind (·.registerPeriod)).bind int, s.ldsRegisterPeriod = period
  useBool : ∀ text ∈ config.voidHandling.bind (·.useBool), upper text = "TRUE" → s.useBoolAsVoid = true
  login : LoginAgrees s config.login
  security : SecurityAgrees s config.security
  settings : ∀ h ∈ settingsBefore (config.historizing.getD []), ∃ known ∈ s.historySettings, known.name = h.name

/-- As far as the element is read, what it gives is what the configuration has. -/
structure Agrees (config : ConfigElement) (s : Config) : Prop where
  rootFolder : ∀ text ∈ config.rootFolder, s.rootFolder = some text
  description : ∀ text ∈ config.rootFolder.bind fun _ => config.description, s.applicationDescription = text
  applicationName : (config.rootFolder.isSome → config.description.isSome) →
    ∀ text ∈ config.server.bind (·.applicationName), s.applicationName = some text
  rest : (config.rootFolder.isSome → config.description.isSome) →
    (∀ text ∈ config.server.bind (·.port), (int text).isSome) → RestAgrees config s

private theorem login_agrees_iff (login : Option LoginElement) (s : Config) :
    (login.isSome = s.enableLogin ∧ (login.bind fun login => login.username.or s.username) = s.username ∧
      (login.bind fun login => login.password.or s.password) = s.password) ↔ LoginAgrees s login := by
  unfold LoginAgrees
  cases login with
  | none =>
    rw [eq_comm, @eq_comm _ _ s.username, @eq_comm _ _ s.password]
    rfl
  | some login =>
    rw [eq_comm]
    simp only [Option.bind_some, or_eq_self_iff, Option.isSome_some]

private theorem security_agrees_iff (security : Option SecurityElement) (s : Config) :
    ((security.elim false fun security =>
        s.allowAnyCertificate || security.allowAnyCertificate = some ("True" : Text)) = s.allowAnyCertificate ∧
      security.isSome = s.encryptionEnabled ∧
      (security.elim false fun security =>
        s.addUnsecureEndpoint || security.unsecure = some ("True" : Text)) = s.addUnsecureEndpoint ∧
      (security.bind fun security => security.certificate.or s.certificate) = s.certificate ∧
      (security.bind fun security => security.privatekey.or s.key) = s.key ∧
      (security.bind fun security => security.blocklist.or s.blockList) = s.blockList ∧
      (security.bind fun security => security.trustlist.or s.trustList) = s.trustList ∧
      (security.bind fun security => security.issuerlist.or s.issuerList) = s.issuerList) ↔
    SecurityAgrees s security := by
  unfold SecurityAgrees
  cases security with
  | none =>
    obtain ⟨⟨allowAnyCertificate, encryptionEnabled, addUnsecureEndpoint, certificate, key, blockList, trustList,
      issuerList⟩⟩ := s
    simp only [EncryptionSettings.mk.injEq, Option.elim_none, Option.bind_none, Option.isSome_none]
    constructor
    · rintro ⟨rfl, rfl, rfl, rfl, rfl, rfl, rfl, rfl⟩
      exact ⟨rfl, rfl, rfl, rfl, rfl, rfl, rfl, rfl⟩
    · rintro ⟨rfl, rfl, rfl, rfl, rfl, rfl, rfl, rfl⟩
      exact ⟨rfl, rfl, rfl, rfl, rfl, rfl, rfl, rfl⟩
  | some security =>
    simp only [Option.bind_some, or_eq_self_iff, Option.isSome_some, Option.elim_some, Bool.or_eq_left_iff_imp,
      decide_eq_true_eq]
    constructor
    · rintro ⟨allowAnyCertificate, encryption, unsecure, certificate, privatekey, blocklist, trustlist, issuerlist⟩
      exact ⟨encryption.symm, unsecure, allowAnyCertificate, privatekey, certificate, trustlist, issuerlist, blocklist⟩
    · rintro ⟨encryption, unsecure, allowAnyCertificate, privatekey, certificate, trustlist, issuerlist, blocklist⟩
      exact ⟨allowAnyCertificate, encryption.symm, unsecure, certificate, privatekey, blocklist, trustlist, issuerlist⟩

private theorem register_agrees_iff (register : Option Text) (s : Config) :
    ((register.map fun register => decide (upper register = "TRUE")).getD s.registerLDS) = s.registerLDS ↔
      ∀ text ∈ register, s.registerLDS = decide (upper text = "TRUE") := by
  rw [getD_eq_self_iff]
  cases register <;> simp

private theorem useBool_agrees_iff (useBool : Option Text) (s : Config) :
    (s.useBoolAsVoid || (useBool.map fun useBool => decide (upper useBool = "TRUE")).getD false) = s.useBoolAsVoid ↔
      ∀ text ∈ useBool, upper text = "TRUE" → s.useBoolAsVoid = true := by
  generalize ("TRUE" : Text) = yes
  cases useBool <;> simp

private theorem afterConfig_eq_self_iff (config : ConfigElement) (settings : List HistorySetting) (s : Config) :
    afterConfig config settings s = s ↔
      (∀ text ∈ config.rootFolder, s.rootFolder = some text) ∧
      (∀ text ∈ config.rootFolder.bind fun _ => config.description, s.applicationDescription = text) ∧
      (∀ text ∈ config.server.bind (·.applicationName), s.applicationName = some text) ∧
      (∀ value ∈ (config.server.bind (·.port)).bind int, s.port = some value) ∧
      (∀ level ∈ (config.server.bind (·.logLevel)).bind levelOf, s.logLevel = level) ∧
      (∀ text ∈ config.lds.bind (·.register), s.registerLDS = decide (upper text = "TRUE")) ∧
      (∀ text ∈ config.lds.bind (·.address), s.ldsAddress = some text) ∧
      (∀ text ∈ config.lds.bind (·.registryName), s.ldsRegistryName = some text) ∧
      (∀ period ∈ (config.lds.bind (·.registerPeriod)).bind int, s.ldsRegisterPeriod = period) ∧
      (∀ text ∈ config.voidHandling.bind (·.useBool), upper text = "TRUE" → s.useBoolAsVoid = true) ∧
      LoginAgrees s config.login ∧ SecurityAgrees s config.security ∧
      ∀ h ∈ settings, ∃ known ∈ s.historySettings, known.name = h.name := by
  rw [← login_agrees_iff, ← security_agrees_iff, ← register_agrees_iff, ← useBool_agrees_iff]
  simp only [← or_eq_self_iff, ← getD_eq_self_iff, ← foldl_insertNew_eq_self_iff]
  rw [afterConfig_eq]
  rcases s with ⟨⟨allowAnyCertificate, encryptionEnabled, addUnsecureEndpoint, certificate, key, blockList, trustList,
    issuerList⟩⟩
  simp only [Config.mk.injEq, EncryptionSettings.mk.injEq]
  constructor
  · rintro ⟨security, username, password, applicationName, rootFolder, description, enableLogin, port, settings,
      logLevel, useBool, register, address, registryName, registerPeriod⟩
    exact ⟨rootFolder, description, applicationName, port, logLevel, register, address, registryName, registerPeriod,
      useBool, ⟨enableLogin, username, password⟩, security, settings⟩
  · rintro ⟨rootFolder, description, applicationName, port, logLevel, register, address, registryName, registerPeriod,
      useBool, ⟨enableLogin, username, password⟩, security, settings⟩
    exact ⟨security, username, password, applicationName, rootFolder, description, enableLogin, port, settings,
      logLevel, useBool, register, address, registryName, registerPeriod⟩

private theorem configAt_eq_self_iff (config : ConfigElement) (s : Config) : configAt config s = s ↔ Agrees config s := by
  unfold configAt
  by_cases undescribed : config.rootFolder.isSome ∧ config.description = none
  · rw [if_pos undescribed]
    obtain ⟨given, none⟩ := undescribed
    obtain ⟨text, root⟩ := Option.isSome_iff_exists.mp given
    constructor
    · intro same
      have kept := congrArg Config.rootFolder same
      refine ⟨?_, by simp [none], ?_, ?_⟩
      · rw [root] at kept ⊢
        rintro _ ⟨⟩
        exact kept.symm
      all_goals intro described; exact absurd (described given) (by simp [none])
    · rintro ⟨kept, _⟩
      have same := kept text root
      rw [root, ← same]
  · have described (given : config.rootFolder.isSome) : config.description.isSome :=
      Option.isSome_iff_ne_none.mpr fun none => undescribed ⟨given, none⟩
    rw [if_neg undescribed]
    by_cases bad : ((config.server.bind (·.port)).any fun text => (int text).isNone) = true
    · have unreadable : ¬ ∀ text ∈ config.server.bind (·.port), (int text).isSome := by
        cases port : config.server.bind (·.port) with
        | none => simp [port] at bad
        | some text => simpa [port] using bad
      rw [if_pos bad]
      rcases s with ⟨encryption⟩
      simp only [afterRootFolder, Config.mk.injEq, true_and, and_true, or_eq_self_iff, getD_eq_self_iff]
      constructor
      · rintro ⟨applicationName, rootFolder, description⟩
        exact ⟨rootFolder, description, fun _ => applicationName, fun _ fine => absurd fine unreadable⟩
      · rintro ⟨rootFolder, description, applicationName, _⟩
        exact ⟨applicationName described, rootFolder, description⟩
    · have readable : ∀ text ∈ config.server.bind (·.port), (int text).isSome := by
        cases port : config.server.bind (·.port) with
        | none => simp
        | some text => cases parsed : int text <;> simp [port, parsed] at bad ⊢
      rw [if_neg bad, afterConfig_eq_self_iff]
      constructor
      · rintro ⟨rootFolder, description, applicationName, port, logLevel, register, address, registryName,
          registerPeriod, useBool, login, security, settings⟩
        exact ⟨rootFolder, description, fun _ => applicationName, fun _ _ =>
          ⟨port, logLevel, register, address, registryName, registerPeriod, useBool, login, security, settings⟩⟩
      · rintro ⟨rootFolder, description, applicationName, rest⟩
        obtain ⟨port, logLevel, register, address, registryName, registerPeriod, useBool, login, security, settings⟩ :=
          rest described readable
        exact ⟨rootFolder, description, applicationName described, port, logLevel, register, address, registryName,
          registerPeriod, useBool, login, security, settings⟩

end Config

section Folders

/-- The directory after a folder entry whose name element has no text. -/
def brokenFolder (name path : Text) (folder : FolderEntry) (d : DirectoryOptions) : DirectoryOptions := { d with
  historizing := folder.history.or d.historizing
  newDescription := (given folder.description).or d.newDescription
  newDestination := (((given folder.destination).filter (tmpDestination name path ≠ ·)).map ("/root/".toList ++ ·)).or
    d.newDestination
  newName := none }

private theorem readFolder_failed {folder : FolderEntry} (unnamed : folder.name = some []) (name path : Text)
    (d : DirectoryOptions) :
    outcome (readFolder name path folder) d = (.error .typeError, brokenFolder name path folder d) := by
  unfold readFolder brokenFolder
  simp [unnamed, outcome_bind]

variable (dir : XMLDirectory)

/-- What an entry changes in the directory it finds, up to an exception. -/
def attemptedStep (folder : FolderEntry) (d : DirectoryOptions) : DirectoryOptions :=
  if ReadableFolder dir folder then folderStep dir folder d
  else (folderTarget dir folder).elim d fun found => brokenFolder found.name found.path folder d

private theorem readFolderEntry_failed {folder : FolderEntry} (unreadable : ¬ ReadableFolder dir folder) (s : MapGenerator) :
    outcome (MapGenerator.readFolderEntry dir folder) s = (.error .typeError, { s with
      options := { s.options with dir := KeyedUpdates.update (folderPlace dir) (attemptedStep dir) s.options.dir folder } }) := by
  have step : KeyedUpdates.update (folderPlace dir) (attemptedStep dir) s.options.dir folder =
      fun place => if folderPlace dir folder = some place then
        (folderTarget dir folder).elim (s.options.dir place) fun found =>
          brokenFolder found.name found.path folder (s.options.dir place)
      else s.options.dir place := by
    funext place
    rw [KeyedUpdates.update, attemptedStep, if_neg unreadable]
  rw [step]
  unfold ReadableFolder at unreadable
  unfold folderPlace
  cases source : folder.sourceName with
  | none =>
    rw [source, if_neg (by simp), Option.isSome_iff_ne_none, not_not] at unreadable
    have none : folderTarget dir folder = none := by rw [folderTarget, folderSource, source, unreadable]; rfl
    rw [none, MapGenerator.readFolderEntry, source, unreadable]
    rfl
  | some sourceName =>
    rw [source, if_pos (by simp)] at unreadable
    obtain ⟨found, unnamed⟩ := Classical.not_imp.mp unreadable
    obtain ⟨directory, target⟩ := Option.isSome_iff_exists.mp found
    have looked : dir.findDir ("/root/".toList ++ sourceName) (childPath [] dir.name) [] = some directory := by
      rwa [folderTarget, folderSource, source] at target
    rw [target, MapGenerator.readFolderEntry, source]
    dsimp only
    rw [looked]
    have broken := readFolder_failed (not_not.mp unnamed) directory.name directory.path (s.options.dir directory.place)
    have changed : outcome (MapGenerator.onDirectory directory.place
        (readFolder directory.name directory.path folder)) s = (.error .typeError, { s with
          options := s.options.updateDir directory.place (brokenFolder directory.name directory.path folder) }) := by
      rw [← updateDir_const]
      change ((outcome (readFolder directory.name directory.path folder) (s.options.dir directory.place)).1,
        { s with options := (s.options.updateDir directory.place fun _ =>
          (outcome (readFolder directory.name directory.path folder) (s.options.dir directory.place)).2) }) = _
      rw [broken]
    refine (outcome_bind_failed changed _).trans ?_
    simp [Options.updateDir]

/-- The folder entries up to the first one that raises an exception. -/
def foldersRead : List FolderEntry → List FolderEntry
  | [] => []
  | folder :: rest => if ReadableFolder dir folder then folder :: foldersRead rest else [folder]

private theorem readFolders_state (folders : List FolderEntry) (s : MapGenerator) :
    (outcome (folders.mapM (MapGenerator.readFolderEntry dir)) s).2 = { s with options := { s.options with
      dir := KeyedUpdates.run (folderPlace dir) (attemptedStep dir) (foldersRead dir folders) s.options.dir } } := by
  induction folders generalizing s with
  | nil => rfl
  | cons folder rest ih =>
    rw [List.mapM_cons, foldersRead]
    by_cases readable : ReadableFolder dir folder
    · have read := (readFolderEntry_acts dir folder).ok readable s
      have same : applyFolder dir folder s.options = { s.options with
          dir := KeyedUpdates.update (folderPlace dir) (attemptedStep dir) s.options.dir folder } := by
        rw [applyFolder_eq]
        congr 1
        funext place
        rw [KeyedUpdates.update, KeyedUpdates.update, attemptedStep, if_pos readable]
      rw [outcome_bind_ok read, if_pos readable, KeyedUpdates.run_cons, state_bind_pure, ih, same]
    · rw [outcome_bind_failed (readFolderEntry_failed dir readable s), if_neg readable]
      rfl

private theorem attemptedStep_historizing (folder : FolderEntry) (d : DirectoryOptions) :
    (attemptedStep dir folder d).historizing =
      (if folder.sourceName.isSome ∧ (folderTarget dir folder).isSome then folder.history else none).or d.historizing := by
  unfold attemptedStep
  by_cases readable : ReadableFolder dir folder
  · rw [if_pos readable, folderStep_historizing]
  · rw [if_neg readable]
    unfold ReadableFolder at readable
    cases target : folderTarget dir folder with
    | none => simp
    | some found =>
      cases source : folder.sourceName with
      | some sourceName => simp [brokenFolder]
      | none =>
        -- without a source and a name nothing is found
        rw [source, if_neg (by simp), Option.isSome_iff_ne_none, not_not] at readable
        rw [folderTarget, folderSource, source, readable] at target
        cases target

private theorem attemptedStep_exclude (folder : FolderEntry) (d : DirectoryOptions) :
    (attemptedStep dir folder d).exclude = d.exclude := by
  unfold attemptedStep
  split
  · exact folderStep_exclude dir folder d
  · cases folderTarget dir folder <;> rfl

private theorem attemptedStep_sameChanges (folder : FolderEntry) {first second : DirectoryOptions}
    (same : first.SameChanges second) :
    (attemptedStep dir folder first).SameChanges (attemptedStep dir folder second) := by
  unfold attemptedStep
  split
  · exact folderStep_sameChanges dir folder same
  · obtain ⟨name, description, destination⟩ := same
    cases folderTarget dir folder with
    | none => exact ⟨name, description, destination⟩
    | some found => exact ⟨rfl, by simp [brokenFolder, description], by simp [brokenFolder, destination]⟩

/-- What the folder entries that are read assign to the directories of a tree without edits. -/
def assignedDir (folders : List FolderEntry) : Place → DirectoryOptions :=
  KeyedUpdates.run (folderPlace dir) (attemptedStep dir) (foldersRead dir folders) fun _ => {}

/-- The names, descriptions and destinations are those of the file, and so are the
histories where it gives one. -/
def AgreesWith (d assigned : DirectoryOptions) : Prop :=
  d.SameChanges assigned ∧ ∀ history ∈ assigned.historizing, d.historizing = some history

theorem read_again_iff (folders : List FolderEntry) (options : Options) (place : Place) :
    KeyedUpdates.run (folderPlace dir) (attemptedStep dir) (foldersRead dir folders) options.reset.dir place =
        options.dir place ↔ AgreesWith (options.dir place) (assignedDir dir folders place) := by
  obtain ⟨last, final, _, _⟩ := KeyedUpdates.foldl_or DirectoryOptions.historizing _ (attemptedStep_historizing dir)
    ((foldersRead dir folders).filter fun folder => folderPlace dir folder = some place)
  have unmarked := KeyedUpdates.foldl_same (attemptedStep_exclude dir)
    ((foldersRead dir folders).filter fun folder => folderPlace dir folder = some place) (options.reset.dir place)
  obtain ⟨name, description, destination⟩ := KeyedUpdates.foldl_related (attemptedStep_sameChanges dir)
    ((foldersRead dir folders).filter fun folder => folderPlace dir folder = some place)
    (show (options.reset.dir place).SameChanges {} from ⟨rfl, rfl, rfl⟩)
  unfold assignedDir AgreesWith DirectoryOptions.SameChanges
  rw [KeyedUpdates.run_apply, KeyedUpdates.run_apply, DirectoryOptions.ext_iff, unmarked, name, description, destination,
    final, final, Option.or_none]
  change (options.dir place).exclude = _ ∧ last.or (options.dir place).historizing = _ ∧ _ ↔ _
  rw [or_eq_self_iff]
  constructor
  · rintro ⟨_, history, name, description, destination⟩
    exact ⟨⟨name.symm, description.symm, destination.symm⟩, history⟩
  · rintro ⟨⟨name, description, destination⟩, history⟩
    exact ⟨rfl, history, name.symm, description.symm, destination.symm⟩

end Folders

/-- No directory or variable has a new name, description, unit or destination. -/
structure Options.Unedited (options : Options) : Prop where
  dirs : ∀ place, (options.dir place).SameChanges {}
  vars : ∀ place, (options.var place).SameChanges {}

private theorem reset_dir_eq_self_iff (options : Options) :
    options.reset.dir = options.dir ↔ ∀ place, (options.dir place).SameChanges {} := by
  rw [funext_iff]
  refine forall_congr' fun place => ?_
  rw [DirectoryOptions.ext_iff]
  unfold DirectoryOptions.SameChanges
  constructor
  · rintro ⟨_, _, name, description, destination⟩
    exact ⟨name.symm, description.symm, destination.symm⟩
  · rintro ⟨name, description, destination⟩
    exact ⟨rfl, rfl, name.symm, description.symm, destination.symm⟩

private theorem reset_var_eq_self_iff (options : Options) :
    options.reset.var = options.var ↔ ∀ place, (options.var place).SameChanges {} := by
  rw [funext_iff]
  refine forall_congr' fun place => ?_
  rw [VarOptions.ext_iff]
  unfold VarOptions.SameChanges
  constructor
  · rintro ⟨_, _, name, unit, description, destination⟩
    exact ⟨name.symm, unit.symm, description.symm, destination.symm⟩
  · rintro ⟨name, unit, description, destination⟩
    exact ⟨rfl, rfl, name.symm, unit.symm, description.symm, destination.symm⟩

private theorem reset_eq_self_iff (options : Options) : options.reset = options ↔ options.Unedited := by
  rw [Options.ext_iff, reset_dir_eq_self_iff, reset_var_eq_self_iff]
  exact ⟨fun ⟨dirs, vars⟩ => ⟨dirs, vars⟩, fun ⟨dirs, vars⟩ => ⟨dirs, vars⟩⟩

namespace MapGenerator

def afterReset (s : MapGenerator) : MapGenerator := if s.dir.isSome then { s with options := s.options.reset } else s

/-- There are no edits that the reset takes away. -/
def Unedited (s : MapGenerator) : Prop := s.dir.isSome → s.options.Unedited

private theorem afterReset_eq_self_iff (s : MapGenerator) : s.afterReset = s ↔ s.Unedited := by
  unfold afterReset Unedited
  rcases s with ⟨config, dir, options⟩
  cases dir with
  | none => simp
  | some dir => simp [reset_eq_self_iff]

/-- There is nothing the file takes away or changes before loading it ends in an exception:
the configuration has what is read of it, and the tree has no edits but those that are
read. -/
def Intact (s : MapGenerator) : Option MapDocument → Prop
  | none => s.Unedited
  | some data =>
    if data.tag ≠ "uamapping" then s.Unedited
    else (∀ config ∈ data.config, Config.Agrees config s.toConfig) ∧
      ((∃ config ∈ data.config, ¬ config.Readable) → s.Unedited) ∧
      ((∀ config ∈ data.config, config.Readable) → ∀ dir ∈ s.dir,
        (∀ place, AgreesWith (s.options.dir place) (assignedDir dir data.folders place)) ∧
          ∀ place, (s.options.var place).SameChanges {})

private theorem onConfig_state (config : Option ConfigElement) (s : MapGenerator) :
    (outcome (onConfig (Config.readConfig config)) s).2 =
      { s with toConfig := config.elim s.toConfig fun element => Config.configAt element s.toConfig } := by
  change { s with toConfig := (outcome (Config.readConfig config) s.toConfig).2 } = _
  cases config with
  | none => rfl
  | some element => rw [Config.readConfig_state]; rfl

private theorem config_eq_self_iff (config : Option ConfigElement) (s : Config) :
    (config.elim s fun element => Config.configAt element s) = s ↔ ∀ element ∈ config, Config.Agrees element s := by
  cases config with
  | none => simp
  | some element => simpa using Config.configAt_eq_self_iff element s

private theorem afterReset_config_eq_self_iff (s : MapGenerator) (config : Config) :
    { s.afterReset with toConfig := config } = s ↔ config = s.toConfig ∧ s.Unedited := by
  rw [← afterReset_eq_self_iff]
  unfold afterReset
  rcases s with ⟨own, dir, options⟩
  cases dir with
  | none => simp
  | some dir => simp

private theorem afterReset_toConfig (s : MapGenerator) : s.afterReset.toConfig = s.toConfig := by
  unfold afterReset
  split <;> rfl

private theorem afterReset_dir (s : MapGenerator) : s.afterReset.dir = s.dir := by
  unfold afterReset
  split <;> rfl

/-- What happens behind the reset when the file is a map file. -/
def readDocument (data : MapDocument) : Reading MapGenerator (List Nat) := do
  onConfig (Config.readConfig data.config)
  match (← get).dir with
  | none => return [0, 0, 0]
  | some dir =>
    let folders ← data.folders.mapM (readFolderEntry dir)
    let pvs ← data.processVariables.mapM (readProcessVariableEntry dir)
    let excludes ← data.excludes.mapM (readExcludeEntry dir)
    return [folders.sum, pvs.sum, excludes.sum]

private theorem parseMapFile_document {data : MapDocument} (tag : data.tag = "uamapping") (s : MapGenerator) :
    outcome (parseMapFile (some data)) s = outcome (readDocument data) s.afterReset := by
  unfold parseMapFile
  rw [outcome_bind, outcome_modify]
  dsimp only
  rw [if_neg (not_not.mpr tag)]
  rfl

private theorem readDocument_unread {data : MapDocument} {s after : MapGenerator} {error : PythonError}
    (raises : outcome (readDocument data) s = (.error error, after))
    (unreadable : ∃ config ∈ data.config, ¬ config.Readable) :
    after = { s with toConfig := data.config.elim s.toConfig fun element => Config.configAt element s.toConfig } := by
  have state := onConfig_state data.config s
  rcases run : outcome (onConfig (Config.readConfig data.config)) s with ⟨_ | value, middle⟩
  · rw [readDocument, outcome_bind_failed run] at raises
    rw [← state, run]
    exact (congrArg Prod.snd raises).symm
  · obtain ⟨readable, _⟩ := (onConfig_acts (Config.readConfig_acts data.config) _ _ _).mp run
    obtain ⟨config, member, bad⟩ := unreadable
    exact absurd (config.readable_iff.mp (readable config member)) bad

theorem readDocument_read {data : MapDocument} {s after : MapGenerator} {error : PythonError}
    (raises : outcome (readDocument data) s = (.error error, after))
    (readable : ∀ config ∈ data.config, config.Readable) :
    ∃ dir, s.dir = some dir ∧ after = { s with
      toConfig := data.config.elim s.toConfig fun element => Config.configAt element s.toConfig
      options := { s.options with
        dir := KeyedUpdates.run (folderPlace dir) (attemptedStep dir) (foldersRead dir data.folders) s.options.dir } } := by
  have config : outcome (onConfig (Config.readConfig data.config)) s = (.ok ⟨⟩, { s with
      toConfig := data.config.elim s.toConfig fun element => Config.configAt element s.toConfig }) := by
    rw [← onConfig_state]
    exact (onConfig_acts (Config.readConfig_acts data.config)).result
      (fun config member => config.readable_iff.mpr (readable config member)) s
  rw [readDocument, outcome_bind_ok config, outcome_bind_ok (outcome_get _)] at raises
  rcases s with ⟨own, dir, options⟩
  cases dir with
  | none => cases raises
  | some dir =>
    refine ⟨dir, rfl, ?_⟩
    dsimp only at raises ⊢
    have folders := readFolders_state dir data.folders
      ⟨data.config.elim own fun element => Config.configAt element own, some dir, options⟩
    rcases run : outcome (data.folders.mapM (readFolderEntry dir))
      ⟨data.config.elim own fun element => Config.configAt element own, some dir, options⟩ with ⟨failure | counts, middle⟩
    · rw [run] at folders
      rw [outcome_bind_failed run] at raises
      exact (congrArg Prod.snd raises).symm.trans folders
    · obtain ⟨fine, _⟩ := (Acts.mapM (readFolderEntry_acts dir) _ _ _).mp run
      rw [(readEntries_acts dir data).ok fine] at raises
      cases raises

/-- When loading raises an exception, the generator is left as it was exactly when there
was nothing in it that reading the file takes away. -/
theorem parseMapFile_unchanged_iff {inputFile : Option MapDocument} {s after : MapGenerator} {error : PythonError}
    (raises : outcome (parseMapFile inputFile) s = (.error error, after)) : after = s ↔ s.Intact inputFile := by
  unfold Intact
  cases inputFile with
  | none =>
    have reset : s.afterReset = after := congrArg Prod.snd raises
    rw [← reset]
    exact s.afterReset_eq_self_iff
  | some data =>
    dsimp only
    by_cases tag : data.tag = "uamapping"
    · rw [if_neg (not_not.mpr tag)]
      rw [parseMapFile_document tag] at raises
      by_cases readable : ∀ config ∈ data.config, config.Readable
      · obtain ⟨dir, tree, rfl⟩ := readDocument_read raises readable
        rw [s.afterReset_dir] at tree
        rcases s with ⟨own, _, options⟩
        cases tree
        change MapGenerator.mk (data.config.elim own fun element => Config.configAt element own) (some dir)
          ⟨KeyedUpdates.run (folderPlace dir) (attemptedStep dir) (foldersRead dir data.folders) options.reset.dir,
            options.reset.var⟩ = _ ↔ _
        rw [MapGenerator.mk.injEq, Options.ext_iff, config_eq_self_iff, reset_var_eq_self_iff, funext_iff]
        simp only [read_again_iff]
        constructor
        · rintro ⟨config, _, dirs, vars⟩
          refine ⟨config, ?_, ?_⟩
          · rintro ⟨config, member, bad⟩
            exact absurd (readable config member) bad
          · rintro _ _ ⟨⟩
            exact ⟨dirs, vars⟩
        · rintro ⟨config, _, folders⟩
          obtain ⟨dirs, vars⟩ := folders readable dir rfl
          exact ⟨config, trivial, dirs, vars⟩
      · have unreadable : ∃ config ∈ data.config, ¬ config.Readable := by
          simpa only [not_forall, exists_prop] using readable
        have config := config_eq_self_iff data.config s.afterReset.toConfig
        rw [readDocument_unread raises unreadable, afterReset_config_eq_self_iff]
        rw [s.afterReset_toConfig] at config ⊢
        rw [config]
        constructor
        · rintro ⟨agrees, unedited⟩
          exact ⟨agrees, fun _ => unedited, fun fine => absurd fine readable⟩
        · rintro ⟨agrees, unedited, _⟩
          exact ⟨agrees, unedited unreadable⟩
    · rw [if_pos tag]
      have reset : outcome (parseMapFile (some data)) s = (.error (.runtimeError
          "Failed to find uamapping tag. Not an ControlSystem-OPC-UA XML mapping file."), s.afterReset) := by
        unfold parseMapFile
        rw [outcome_bind, outcome_modify]
        dsimp only
        rw [if_pos tag]
        rfl
      rw [reset] at raises
      obtain ⟨_, rfl⟩ := Prod.mk.inj raises
      exact s.afterReset_eq_self_iff

/-- The map file of the drives with a folder entry at its end that has neither source nor name. -/
def brokenDocument : MapDocument := { driveDocument with entries := driveDocument.entries ++ [.folder {}] }

/-- A generator that has all the map file of the drives assigns to directories, and further
histories and excluded variables. -/
def driveState : MapGenerator where
  rootFolder := some "plant"
  applicationDescription := "Drives of the plant"
  applicationName := some "control"
  port := some 4841
  historySettings := [{ name := "slow", interval := 60000 }, { name := "fast", interval := 50 }]
  dir := driveApplication.root
  options := {
    dir := fun place =>
      if place = [0, 0] then {
        exclude := some true
        historizing := some "fast"
        newName := some "motor"
        newDescription := some "The motor of the axis"
        newDestination := some "/root/axis" }
      else if place = [0] then { historizing := some "slow" } else {}
    var := fun place => if place = ([0], 0) then { exclude := some true, historizing := some "slow" } else {} }

/-- The nameless entry is read last, when all the others have assigned what was there. -/
theorem drive_state_unchanged :
    (outcome (parseMapFile (some brokenDocument)) driveState).2 = driveState := by
  have raises : outcome (parseMapFile (some brokenDocument)) driveState =
    (.error .typeError, (outcome (parseMapFile (some brokenDocument)) driveState).2) := rfl
  have onlyDrive : ∀ folder ∈ foldersRead driveApplication.root brokenDocument.folders,
      folderPlace driveApplication.root folder = none ∨ folderPlace driveApplication.root folder = some [0, 0] := by
    decide +kernel
  refine (parseMapFile_unchanged_iff raises).mpr ⟨?_, ?_, ?_⟩
  · rintro config ⟨⟩
    refine ⟨?_, ?_, fun _ => ?_, fun _ _ => ⟨?_, ?_, ?_, ?_, ?_, ?_, ?_, ⟨rfl, rfl, rfl⟩, rfl, ?_⟩⟩
    all_goals decide +kernel
  · rintro ⟨config, ⟨⟩, bad⟩
    exact absurd driveConfigElement_readable bad
  · rintro _ dir ⟨⟩
    refine ⟨fun place => ?_, fun place => ?_⟩
    · by_cases drive : place = [0, 0]
      · subst drive
        refine ⟨⟨?_, ?_, ?_⟩, ?_⟩ <;> decide +kernel
      · have unassigned : assignedDir driveApplication.root brokenDocument.folders place = {} := by
          rw [assignedDir, KeyedUpdates.run_apply, List.filter_eq_nil_iff.mpr]
          · rfl
          · intro folder member found
            rcases onlyDrive folder member with nowhere | there
            · simp [nowhere] at found
            · simp only [there, Option.some.injEq, decide_eq_true_eq] at found
              exact drive found.symm
        have unedited : (driveState.options.dir place).SameChanges {} := by
          unfold DirectoryOptions.SameChanges driveState
          dsimp only
          rw [if_neg drive]
          split <;> exact ⟨rfl, rfl, rfl⟩
        rw [unassigned]
        exact ⟨unedited, by rintro history ⟨⟩⟩
    · unfold VarOptions.SameChanges driveState
      dsimp only
      split <;> exact ⟨rfl, rfl, rfl, rfl⟩

/-- The new name of the drive is gone when the map file cannot be opened. -/
theorem missing_file_takes_edits : ¬ ∀ (inputFile : Option MapDocument) (s after : MapGenerator) (error : PythonError),
    outcome (parseMapFile inputFile) s = (.error error, after) → after = s := by
  intro unchanged
  have kept := unchanged none { driveApplication.parseChimeraTK with
    options := { dir := fun place => if place = [0, 0] then { newName := some "motor" } else {} } } _ _ rfl
  have name := congrArg (fun s : MapGenerator => (s.options.dir [0, 0]).newName) kept
  cases name

end MapGenerator

end OpcUaAdapter.Generator
