import OpcUaAdapter.Generator.Config
import OpcUaAdapter.Library.Effects
import OpcUaAdapter.Library.FirstByKey

/-! Reading a `config` element: when nothing is raised, and what each part of the
configuration is afterwards. -/

namespace OpcUaAdapter.Generator
open Effects

namespace Config

def readSetups (setups : List SetupElement) : Except PythonError (List HistorySetting) :=
  setups.mapM (HistorySetting.readHistory { name := [] })

def addSettings (settings : List HistorySetting) (s : Config) : Config :=
  settings.foldl (fun s h => addSetting h s) s

private theorem addSettings_cons (h : HistorySetting) (rest : List HistorySetting) (s : Config) :
    addSettings (h :: rest) s = addSettings rest (addSetting h s) := rfl

private theorem addSettings_eq (settings : List HistorySetting) (s : Config) :
    addSettings settings s =
      { s with historySettings := settings.foldl (insertNew (·.name)) s.historySettings } := by
  induction settings generalizing s with
  | nil => rfl
  | cons h rest ih =>
    have step : addSetting h s = { s with historySettings := insertNew (·.name) s.historySettings h } := by
      unfold addSetting insertNew
      split <;> rfl
    rw [addSettings_cons, ih, step]
    rfl

def afterRootFolder (config : ConfigElement) (s : Config) : Config := { s with
  rootFolder := config.rootFolder.or s.rootFolder
  applicationDescription :=
    (config.rootFolder.bind fun _ => config.description).getD s.applicationDescription }

def afterServer (server : Option ServerElement) (s : Config) : Config := { s with
  applicationName := (server.bind (·.applicationName)).or s.applicationName
  port := ((server.bind (·.port)).bind int).or s.port
  logLevel := ((server.bind (·.logLevel)).bind levelOf).getD s.logLevel }

theorem readRootFolder_ok {config : ConfigElement} {s after : Config} :
    outcome (readRootFolder config) s = (.ok (), after) ↔
      (config.rootFolder.isSome → config.description.isSome) ∧ afterRootFolder config s = after := by
  unfold readRootFolder afterRootFolder
  cases config.rootFolder with
  | none => simp
  | some rootFolder => cases config.description <;> simp [outcome_bind]

theorem readServer_ok {server : Option ServerElement} {s after : Config} :
    outcome (readServer server) s = (.ok (), after) ↔
      (∀ text ∈ server.bind (·.port), (int text).isSome) ∧ afterServer server s = after := by
  unfold readServer afterServer
  rcases server with _ | ⟨applicationName, port, logLevel⟩
  · simp
  · cases port with
    | none =>
      cases logLevel with
      | none => simp
      | some text => by_cases known : upper text ∈ logLevels <;> simp [outcome_bind, levelOf, known]
    | some port =>
      cases parsed : int port with
      | none => simp [outcome_bind, intAttribute, parsed]
      | some value =>
        cases logLevel with
        | none => simp [outcome_bind, intAttribute, parsed]
        | some text => by_cases known : upper text ∈ logLevels <;> simp [outcome_bind, intAttribute, parsed, levelOf, known]

private theorem readSetup_ok {setup : SetupElement} {s after : Config} :
    outcome (readSetup setup) s = (.ok (), after) ↔
      ∃ h, HistorySetting.readHistory { name := [] } setup = .ok h ∧ addSetting h s = after := by
  unfold readSetup
  cases HistorySetting.readHistory { name := [] } setup <;> simp [outcome_bind]

private theorem readSetups_ok {setups : List SetupElement} {s after : Config} :
    outcome (setups.forM readSetup) s = (.ok (), after) ↔
      ∃ settings, readSetups setups = .ok settings ∧ addSettings settings s = after := by
  induction setups generalizing s with
  | nil =>
    change (Except.ok (), s) = _ ↔ _
    simp [readSetups, addSettings, pure, Except.pure]
  | cons setup rest ih =>
    change outcome (readSetup setup >>= fun _ => rest.forM readSetup) s = _ ↔ _
    rw [outcome_seq_eq_ok]
    simp only [readSetup_ok, ih, readSetups, List.mapM_cons]
    cases HistorySetting.readHistory { name := [] } setup with
    | error error => simp [bind, Except.bind]
    | ok h =>
      cases read : readSetups rest with
      | error error => simp [readSetups] at read; simp [bind, Except.bind, read]
      | ok settings => simp [readSetups] at read; simp [bind, Except.bind, pure, Except.pure, read, addSettings_cons]

def afterConfig (config : ConfigElement) (settings : List HistorySetting) (s : Config) : Config :=
  addSettings settings <| readSecurity config.security <| readLogin config.login <|
    readVoidHandling config.voidHandling <| readLds config.lds <| afterServer config.server <|
    afterRootFolder config s

private theorem readLds_eq (lds : Option LdsElement) (s : Config) : readLds lds s = { s with
    registerLDS := ((lds.bind (·.register)).map fun register => decide (upper register = "TRUE")).getD s.registerLDS
    ldsAddress := (lds.bind (·.address)).or s.ldsAddress
    ldsRegistryName := (lds.bind (·.registryName)).or s.ldsRegistryName
    ldsRegisterPeriod := ((lds.bind (·.registerPeriod)).bind int).getD s.ldsRegisterPeriod } := by
  rcases lds with _ | ⟨_ | _, _, _, _⟩ <;> rfl

private theorem readVoidHandling_eq (voidHandling : Option VoidHandlingElement) (s : Config) :
    readVoidHandling voidHandling s = { s with
      useBoolAsVoid := s.useBoolAsVoid ||
        ((voidHandling.bind (·.useBool)).map fun useBool => decide (upper useBool = "TRUE")).getD false } := by
  unfold readVoidHandling
  cases voidHandling.bind (·.useBool) with
  | none => simp
  | some useBool =>
    by_cases enabled : upper useBool = "TRUE" <;>
      simp only [enabled, reduceIte, Option.map_some, Option.getD_some, decide_true, decide_false, Bool.or_true,
        Bool.or_false]

private theorem readLogin_eq (login : Option LoginElement) (s : Config) : readLogin login s = { s with
    enableLogin := login.isSome
    username := login.bind fun login => login.username.or s.username
    password := login.bind fun login => login.password.or s.password } := by
  cases login <;> rfl

theorem readSecurity_eq (security : Option SecurityElement) (s : Config) : readSecurity security s = { s with
    encryptionEnabled := security.isSome
    addUnsecureEndpoint := security.elim false fun security =>
      s.addUnsecureEndpoint || security.unsecure = some ("True" : Text)
    allowAnyCertificate := security.elim false fun security =>
      s.allowAnyCertificate || security.allowAnyCertificate = some ("True" : Text)
    key := security.bind fun security => security.privatekey.or s.key
    certificate := security.bind fun security => security.certificate.or s.certificate
    trustList := security.bind fun security => security.trustlist.or s.trustList
    issuerList := security.bind fun security => security.issuerlist.or s.issuerList
    blockList := security.bind fun security => security.blocklist.or s.blockList } := by
  cases security <;> rfl

/-- Every part of the configuration after a readable element. -/
theorem afterConfig_eq (config : ConfigElement) (settings : List HistorySetting) (s : Config) :
    afterConfig config settings s = {
      rootFolder := config.rootFolder.or s.rootFolder
      applicationDescription :=
        (config.rootFolder.bind fun _ => config.description).getD s.applicationDescription
      applicationName := (config.server.bind (·.applicationName)).or s.applicationName
      port := ((config.server.bind (·.port)).bind int).or s.port
      logLevel := ((config.server.bind (·.logLevel)).bind levelOf).getD s.logLevel
      registerLDS :=
        ((config.lds.bind (·.register)).map fun register => decide (upper register = "TRUE")).getD s.registerLDS
      ldsAddress := (config.lds.bind (·.address)).or s.ldsAddress
      ldsRegistryName := (config.lds.bind (·.registryName)).or s.ldsRegistryName
      ldsRegisterPeriod := ((config.lds.bind (·.registerPeriod)).bind int).getD s.ldsRegisterPeriod
      useBoolAsVoid := s.useBoolAsVoid ||
        ((config.voidHandling.bind (·.useBool)).map fun useBool => decide (upper useBool = "TRUE")).getD false
      enableLogin := config.login.isSome
      username := config.login.bind fun login => login.username.or s.username
      password := config.login.bind fun login => login.password.or s.password
      encryptionEnabled := config.security.isSome
      addUnsecureEndpoint := config.security.elim false fun security =>
        s.addUnsecureEndpoint || security.unsecure = some ("True" : Text)
      allowAnyCertificate := config.security.elim false fun security =>
        s.allowAnyCertificate || security.allowAnyCertificate = some ("True" : Text)
      key := config.security.bind fun security => security.privatekey.or s.key
      certificate := config.security.bind fun security => security.certificate.or s.certificate
      trustList := config.security.bind fun security => security.trustlist.or s.trustList
      issuerList := config.security.bind fun security => security.issuerlist.or s.issuerList
      blockList := config.security.bind fun security => security.blocklist.or s.blockList
      historySettings := settings.foldl (insertNew (·.name)) s.historySettings } := by
  unfold afterConfig
  rw [addSettings_eq, readSecurity_eq, readLogin_eq, readVoidHandling_eq, readLds_eq]
  rfl

/-- Reading the element raises nothing and finds these settings. -/
structure Readable (config : ConfigElement) (settings : List HistorySetting) : Prop where
  described : config.rootFolder.isSome → config.description.isSome
  port : ∀ text ∈ config.server.bind (·.port), (int text).isSome
  setups : readSetups (config.historizing.getD []) = .ok settings

theorem readConfig_ok {config : ConfigElement} {s after : Config} :
    outcome (readConfig (some config)) s = (.ok (), after) ↔
      ∃ settings, Readable config settings ∧ afterConfig config settings s = after := by
  unfold readConfig afterConfig
  simp only [outcome_seq_eq_ok, readRootFolder_ok, readServer_ok, readSetups_ok, outcome_modify, Prod.mk.injEq,
    true_and]
  constructor
  · rintro ⟨_, ⟨described, rfl⟩, _, ⟨port, rfl⟩, _, rfl, _, rfl, _, rfl, _, rfl, settings, setups, last⟩
    exact ⟨settings, ⟨described, port, setups⟩, last⟩
  · rintro ⟨settings, ⟨described, port, setups⟩, last⟩
    exact ⟨_, ⟨described, rfl⟩, _, ⟨port, rfl⟩, _, rfl, _, rfl, _, rfl, _, rfl, settings, setups, last⟩

def settingsOf (config : ConfigElement) : List HistorySetting :=
  match readSetups (config.historizing.getD []) with
  | .ok settings => settings
  | .error _ => []

private theorem Readable.settingsOf_eq {config : ConfigElement} {settings : List HistorySetting}
    (readable : Readable config settings) : settingsOf config = settings := by
  rw [settingsOf, readable.setups]

def configAfter (config : Option ConfigElement) (s : Config) : Config :=
  match config with
  | none => s
  | some config => afterConfig config (settingsOf config) s

theorem readConfig_acts (config : Option ConfigElement) :
    Acts (∀ element ∈ config, Readable element (settingsOf element)) ⟨⟩ (configAfter config) (readConfig config) := by
  intro before result after
  cases config with
  | none =>
    change (Except.ok (), before) = _ ↔ _
    simp [configAfter]
  | some config =>
    rw [readConfig_ok]
    constructor
    · rintro ⟨settings, readable, rfl⟩
      have same := readable.settingsOf_eq
      refine ⟨fun element member => ?_, rfl, by rw [configAfter, same]⟩
      cases member
      rwa [same]
    · rintro ⟨readable, _, rfl⟩
      exact ⟨_, readable config rfl, rfl⟩

end Config

end OpcUaAdapter.Generator
