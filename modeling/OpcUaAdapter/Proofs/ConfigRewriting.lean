import OpcUaAdapter.Proofs.ConfigReading
import OpcUaAdapter.Proofs.PythonInteger

/-! A configuration that is written, read into a fresh one and written again. -/

namespace OpcUaAdapter.Generator
open Effects

/-- What reading gives for a written setting: the buffer length of an InfluxDB setting is not written. -/
def HistorySetting.reread (setting : HistorySetting) : HistorySetting := { setting with
  bufferLength := if setting.backendType = "influxDB" then 100 else setting.bufferLength
  backendType := if setting.backendType = "influxDB" then "influxDB" else "circular buffer" }

private theorem HistorySetting.readHistory_writeSetting (setting : HistorySetting) :
    HistorySetting.readHistory { name := [] } setting.writeSetting = .ok setting.reread := by
  unfold readHistory writeSetting reread
  by_cases influx : setting.backendType = "influxDB"
  · simp only [influx, reduceIte]
    simp [readNumberAttribute, intAttribute, bind, Except.bind, pure, Except.pure]
  · simp only [influx, reduceIte, ne_eq, not_false_eq_true]
    simp [readNumberAttribute, intAttribute, bind, Except.bind, pure, Except.pure]

private theorem HistorySetting.writeSetting_reread (setting : HistorySetting) : setting.reread.writeSetting = setting.writeSetting := by
  unfold writeSetting reread
  by_cases influx : setting.backendType = "influxDB"
  · simp only [influx, reduceIte, ne_eq, not_true_eq_false]
  · have circular : ("circular buffer".toList : Text) ≠ "influxDB".toList := by decide
    simp only [influx, reduceIte, circular, ne_eq, not_false_eq_true]

namespace Config

private theorem readSetups_written (settings : List HistorySetting) :
    readSetups (settings.map HistorySetting.writeSetting) = .ok (settings.map HistorySetting.reread) := by
  induction settings with
  | nil => rfl
  | cons setting rest ih =>
    unfold readSetups at ih ⊢
    rw [List.map_cons, List.mapM_cons, ih, HistorySetting.readHistory_writeSetting]
    rfl

theorem createConfig_ok {config : Config} {element : ConfigElement} :
    config.createConfig = .ok element ↔
      config.createLds = .ok element.lds ∧ config.createLogin = .ok element.login ∧
      config.createSecurity = .ok element.security ∧ element.rootFolder = given config.rootFolder ∧
      element.description = some config.applicationDescription ∧ element.server = some config.createServer ∧
      element.voidHandling = (if config.useBoolAsVoid then some { useBool := some "True".toList } else none) ∧
      element.historizing =
        if config.historySettings.length > 0 then some (config.historySettings.map HistorySetting.writeSetting)
        else none := by
  unfold createConfig
  cases config.createLds with
  | error error => simp [bind, Except.bind]
  | ok lds =>
    cases config.createLogin with
    | error error => simp [bind, Except.bind]
    | ok login =>
      cases config.createSecurity with
      | error error => simp [bind, Except.bind]
      | ok security =>
        rcases element with ⟨_, _, _, _, _, _, _, _⟩
        simp only [bind, Except.bind, pure, Except.pure, Except.ok.injEq, ConfigElement.mk.injEq]
        tauto

/-- What is written of the configuration is what is read back. -/
structure Rewritable (config : Config) : Prop where
  described : given config.rootFolder = none → config.applicationDescription = []
  level : config.logLevel ∈ logLevels
  registerPeriod : config.registerLDS = true → config.ldsRegisterPeriod ≠ 0
  encryption : config.encryptionEnabled = true →
    ∀ value ∈ [config.key, config.certificate, config.trustList, config.issuerList, config.blockList], value ≠ some []
  distinct : (config.historySettings.map (·.name)).Nodup

private theorem upper_level {level : Text} (known : level ∈ logLevels) : upper level = level := by
  revert level
  decide

private theorem upper_true : upper "True" = "TRUE" := by decide

private theorem levelOf_getD_iff (level : Text) : (levelOf level).getD "INFO" = level ↔ level ∈ logLevels := by
  unfold levelOf
  constructor
  · intro kept
    split at kept
    next known => exact kept ▸ known
    next => exact kept ▸ (by decide : "INFO".toList ∈ logLevels)
  · intro known
    rw [upper_level known, if_pos known]
    rfl

theorem rewritten_settings_iff (settings : List HistorySetting) :
    ((settings.map HistorySetting.reread).foldl (insertNew (·.name)) []).map HistorySetting.writeSetting =
      settings.map HistorySetting.writeSetting ↔ (settings.map (·.name)).Nodup := by
  have names : (settings.map HistorySetting.reread).map (·.name) = settings.map (·.name) := by
    rw [List.map_map]
    rfl
  rw [foldl_insertNew_nil]
  constructor
  · intro same
    have kept := @nodup_firstByKey _ _ _ HistorySetting.name (settings.map HistorySetting.reread)
    have written := congrArg (List.map SetupElement.name) same
    rw [List.map_map, List.map_map] at written
    have wrap : SetupElement.name ∘ HistorySetting.writeSetting = some ∘ HistorySetting.name := rfl
    rw [wrap, ← List.map_map, ← List.map_map] at written
    exact List.map_injective_iff.mpr (fun _ _ => Option.some.inj) written ▸ kept
  · intro distinct
    rw [firstByKey_of_nodup (names.symm ▸ distinct), List.map_map]
    exact List.map_congr_left fun setting _ => setting.writeSetting_reread

section

variable {config read : Config}

private theorem createLds_reread {lds : Option LdsElement} (created : config.createLds = .ok lds)
    (register : read.registerLDS =
      ((lds.bind (·.register)).map fun register => decide (upper register = "TRUE")).getD false)
    (address : read.ldsAddress = lds.bind (·.address)) (registryName : read.ldsRegistryName = lds.bind (·.registryName))
    (registerPeriod : read.ldsRegisterPeriod = ((lds.bind (·.registerPeriod)).bind int).getD 10) :
    read.createLds = .ok lds ↔ (config.registerLDS = true → config.ldsRegisterPeriod ≠ 0) := by
  unfold createLds at created
  cases enabled : config.registerLDS with
  | false =>
    rw [enabled] at created
    cases created
    unfold createLds
    simp [register]
    rfl
  | true =>
    rw [enabled, if_pos rfl] at created
    cases known : given config.ldsAddress with
    | none => rw [known] at created; cases created
    | some value =>
      rw [known] at created
      cases created
      have again : given (some value) = some value := by rw [← known, given_given]
      have registered : read.registerLDS = true := register.trans (decide_eq_true upper_true)
      have located : given read.ldsAddress = some value := by rw [address]; exact again
      have named : given read.ldsRegistryName = given config.ldsRegistryName := by rw [registryName]; exact given_given _
      unfold createLds
      rw [registered, if_pos rfl, located, named]
      by_cases unset : config.ldsRegisterPeriod = 0
      · rw [registerPeriod]
        simp [unset, pure, Except.pure]
      · have period : read.ldsRegisterPeriod = config.ldsRegisterPeriod := by
          rw [registerPeriod]
          simp [unset]
        rw [period]
        simp [unset, pure, Except.pure]

private theorem createLogin_reread {login : Option LoginElement} (created : config.createLogin = .ok login)
    (enable : read.enableLogin = login.isSome) (username : read.username = login.bind (·.username))
    (password : read.password = login.bind (·.password)) : read.createLogin = .ok login := by
  unfold createLogin at created ⊢
  cases enabled : config.enableLogin with
  | false =>
    rw [enabled] at created
    cases created
    rw [enable]
    rfl
  | true =>
    rw [enabled, if_pos rfl] at created
    split at created
    · cases created
    · cases created
    next name word named worded =>
      cases created
      have name_again : given read.username = some name := by
        rw [username, ← named]
        exact given_given _
      have word_again : given read.password = some word := by
        rw [password, ← worded]
        exact given_given _
      rw [enable, name_again, word_again]
      rfl

private theorem given_eq_none_iff {value : Option Text} (present : value ≠ none) : given value = none ↔ value = some [] := by
  rcases value with _ | _ | _
  · exact absurd rfl present
  · simp
  · simp

theorem checkEncryptionSettings_ok {settings : EncryptionSettings} :
    settings.checkEncryptionSettings = .ok () ↔
      ∀ value ∈ [settings.key, settings.certificate, settings.trustList, settings.issuerList, settings.blockList],
        value ≠ none := by
  unfold EncryptionSettings.checkEncryptionSettings
  rcases settings with ⟨_, _, _, _ | _, _ | _, _ | _, _ | _, _ | _⟩ <;>
    simp [bind, Except.bind, pure, Except.pure, throw, throwThe, MonadExceptOf.throw]

/-- What reading the security element gives back: an empty text is as one that is not set. -/
def rereadEncryption (settings : EncryptionSettings) : EncryptionSettings := { settings with
  encryptionEnabled := true
  certificate := given settings.certificate
  key := given settings.key
  blockList := given settings.blockList
  trustList := given settings.trustList
  issuerList := given settings.issuerList }

private theorem readEncryption_createEncryption (settings : EncryptionSettings) :
    { ({} : EncryptionSettings) with encryptionEnabled := true }.readEncryption settings.createEncryption =
      rereadEncryption settings := by
  have flag (set : Bool) : (false || decide (some (if set then "True" else "False" : Text) = some ("True" : Text))) = set := by
    cases set <;> decide
  unfold EncryptionSettings.readEncryption EncryptionSettings.createEncryption rereadEncryption
  simp only [flag, Option.or_none]

private theorem createEncryption_reread (settings : EncryptionSettings) :
    (rereadEncryption settings).createEncryption = settings.createEncryption := by
  unfold EncryptionSettings.createEncryption rereadEncryption
  simp only [given_given]

theorem createSecurity_reread {security : Option SecurityElement} (created : config.createSecurity = .ok security)
    (settings : read.toEncryptionSettings = (readSecurity security {}).toEncryptionSettings) :
    read.createSecurity = .ok security ↔ (config.encryptionEnabled = true →
      ∀ value ∈ [config.key, config.certificate, config.trustList, config.issuerList, config.blockList],
        value ≠ some []) := by
  unfold createSecurity at created
  cases enabled : config.encryptionEnabled with
  | false =>
    rw [enabled] at created
    cases created
    unfold createSecurity
    rw [settings]
    simp [readSecurity, pure, Except.pure]
  | true =>
    rw [enabled, if_pos rfl] at created
    cases checked : config.checkEncryptionSettings with
    | error error => rw [checked] at created; cases created
    | ok =>
      rw [checked] at created
      cases created
      have again : read.toEncryptionSettings = rereadEncryption config.toEncryptionSettings :=
        settings.trans (readEncryption_createEncryption _)
      have present := checkEncryptionSettings_ok.mp checked
      have passes : (rereadEncryption config.toEncryptionSettings).checkEncryptionSettings = .ok () ↔
          ∀ value ∈ [config.key, config.certificate, config.trustList, config.issuerList, config.blockList],
            value ≠ some [] := by
        rw [checkEncryptionSettings_ok]
        change (∀ value ∈ List.map given
          [config.key, config.certificate, config.trustList, config.issuerList, config.blockList], value ≠ none) ↔ _
        rw [List.forall_mem_map]
        exact forall₂_congr fun value member => (given_eq_none_iff (present value member)).not
      have enabled_again : (rereadEncryption config.toEncryptionSettings).encryptionEnabled = true := rfl
      unfold createSecurity
      rw [again, if_pos enabled_again, createEncryption_reread]
      simp only [true_implies, ← passes]
      cases (rereadEncryption config.toEncryptionSettings).checkEncryptionSettings with
      | error error => simp [bind, Except.bind]
      | ok => simp [bind, Except.bind, pure, Except.pure]

private theorem createServer_reread (applicationName : read.applicationName = given config.applicationName)
    (port : read.port = ((config.port.filter (· ≠ 0)).map intText).bind int)
    (level : read.logLevel = (levelOf config.logLevel).getD "INFO") :
    read.createServer = config.createServer ↔ config.logLevel ∈ logLevels := by
  have port_again : read.port = config.port.filter (· ≠ 0) := by
    rw [port]
    cases config.port.filter (· ≠ 0) <;> simp
  rw [← levelOf_getD_iff, createServer, createServer, ServerElement.mk.injEq, applicationName, given_given, port_again,
    Option.filter_filter, level]
  simp

end

private theorem written_settings_eq_iff (settings again : List HistorySetting) :
    ((if settings.length > 0 then some (settings.map HistorySetting.writeSetting) else none) =
      if again.length > 0 then some (again.map HistorySetting.writeSetting) else none) ↔
      again.map HistorySetting.writeSetting = settings.map HistorySetting.writeSetting := by
  rw [eq_comm (a := again.map _)]
  cases settings <;> cases again <;> simp

/-- A written configuration that is read into a fresh one is written again as it was exactly
when its description stands next to a root folder, its log level is one of the six, a
registration at a discovery server has a period, encryption has no empty path and no two
settings share a name. -/
theorem config_rewritten_iff {config : Config} {element : ConfigElement} (created : config.createConfig = .ok element) :
    (∃ read, outcome (readConfig (some element)) {} = (.ok (), read) ∧ read.createConfig = .ok element) ↔
      Rewritable config := by
  obtain ⟨lds, login, security, rootFolder, description, server, voidHandling, historizing⟩ :=
    createConfig_ok.mp created
  have setups : element.historizing.getD [] = config.historySettings.map HistorySetting.writeSetting := by
    rw [historizing]
    cases config.historySettings <;> rfl
  have readable : Readable element (config.historySettings.map HistorySetting.reread) := by
    refine ⟨fun _ => by rw [description]; rfl, fun text member => ?_, by rw [setups, readSetups_written]⟩
    rw [server] at member
    obtain ⟨port, _, rfl⟩ := Option.map_eq_some_iff.mp (Option.mem_def.mp member)
    rw [int_intText]
    rfl
  have read_first : (∃ read, outcome (readConfig (some element)) {} = (.ok (), read) ∧ read.createConfig = .ok element) ↔
      (afterConfig element (config.historySettings.map HistorySetting.reread) {}).createConfig = .ok element := by
    constructor
    · rintro ⟨read, returned, again⟩
      obtain ⟨settings, other, rfl⟩ := readConfig_ok.mp returned
      have same := Except.ok.inj (other.setups.symm.trans readable.setups)
      exact same ▸ again
    · exact fun again => ⟨_, readConfig_ok.mpr ⟨_, readable, rfl⟩, again⟩
  rw [read_first, createConfig_ok]
  have shape := afterConfig_eq element (config.historySettings.map HistorySetting.reread) {}
  generalize afterConfig element (config.historySettings.map HistorySetting.reread) {} = read at shape ⊢
  have lds_again := @createLds_reread config read _ lds (by rw [shape]) (by rw [shape]; exact Option.or_none)
    (by rw [shape]; exact Option.or_none) (by rw [shape])
  have login_again := @createLogin_reread config read _ login (by rw [shape])
    (by rw [shape]; simp) (by rw [shape]; simp)
  have security_again := @createSecurity_reread config read _ security (by rw [shape, readSecurity_eq])
  have server_again := @createServer_reread config read
    (by rw [shape, server]; exact Option.or_none) (by rw [shape, server]; exact Option.or_none)
    (by rw [shape, server]; rfl)
  have root_again : element.rootFolder = given read.rootFolder := by
    have root : read.rootFolder = given config.rootFolder := by
      rw [shape, ← rootFolder]
      exact Option.or_none
    rw [root, rootFolder, given_given]
  have description_again : element.description = some read.applicationDescription ↔
      (given config.rootFolder = none → config.applicationDescription = []) := by
    have text : read.applicationDescription =
        ((given config.rootFolder).bind fun _ => some config.applicationDescription).getD [] := by
      rw [shape, rootFolder, description]
    rw [text, description]
    cases given config.rootFolder <;> simp
  have void_again : element.voidHandling =
      if read.useBoolAsVoid then some { useBool := some "True".toList } else none := by
    have flag : read.useBoolAsVoid = config.useBoolAsVoid := by
      rw [shape, voidHandling]
      cases config.useBoolAsVoid
      · rfl
      · exact decide_eq_true upper_true
    rw [flag, voidHandling]
  have settings_again : (element.historizing =
      if read.historySettings.length > 0 then some (read.historySettings.map HistorySetting.writeSetting) else none) ↔
      (config.historySettings.map (·.name)).Nodup := by
    rw [historizing, written_settings_eq_iff, shape]
    exact rewritten_settings_iff _
  rw [lds_again, security_again, description_again, settings_again, server, Option.some.injEq,
    eq_comm (a := config.createServer), server_again]
  constructor
  · rintro ⟨registerPeriod, _, encryption, _, described, level, _, distinct⟩
    exact ⟨described, level, registerPeriod, encryption, distinct⟩
  · rintro ⟨described, level, registerPeriod, encryption, distinct⟩
    exact ⟨registerPeriod, login_again, encryption, root_again, described, level, void_again, distinct⟩

def completeConfig : Config where
  rootFolder := some "plant"
  applicationDescription := "Test server"
  applicationName := some "server"
  port := some 16665
  logLevel := "DEBUG"
  registerLDS := true
  ldsAddress := some "opc.tcp://localhost:4840"
  enableLogin := true
  username := some "user"
  password := some "test"
  encryptionEnabled := true
  key := some "key.der"
  certificate := some "cert.der"
  trustList := some "trust"
  issuerList := some "issuer"
  blockList := some "blocklists"
  useBoolAsVoid := true
  historySettings := [{ name := "short_history" }, { name := "long_history", backendType := "influxDB", bufferLength := 5 }]

theorem complete_config_rewritten : ∃ element, completeConfig.createConfig = .ok element ∧
    ∃ read, outcome (readConfig (some element)) {} = (.ok (), read) ∧ read.createConfig = .ok element := by
  refine ⟨_, rfl, (@config_rewritten_iff completeConfig _ rfl).mpr ⟨?_, ?_, ?_, ?_, ?_⟩⟩ <;> decide +kernel

/-- The description of a configuration without a root folder is not read back. -/
theorem description_without_root_folder_lost : ¬ ∀ (config : Config) (element : ConfigElement),
    config.createConfig = .ok element →
      ∃ read, outcome (readConfig (some element)) {} = (.ok (), read) ∧ read.createConfig = .ok element := by
  intro kept
  obtain ⟨read, returned, again⟩ := kept { applicationDescription := "Test server" } _ rfl
  cases returned
  revert again
  decide +kernel

end Config

end OpcUaAdapter.Generator
