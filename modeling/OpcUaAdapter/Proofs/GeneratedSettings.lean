import OpcUaAdapter.Proofs.ConfigRewriting
import OpcUaAdapter.Proofs.DecimalText
import OpcUaAdapter.Proofs.WrittenConfig

/-! What the map file generator was set to and what the server is set up with after reading
the file it wrote. -/

namespace OpcUaAdapter

open Effects Generator XmlNode ServerSettings

section Numbers

private theorem scanInteger_intText (value : Int) : scanInteger (intText value) = some (decide (value < 0), value.natAbs, []) := by
  cases value with
  | ofNat magnitude =>
    rw [intText, scanInteger_digits]
    have sign : ¬ Int.ofNat magnitude < 0 := by simp
    rw [decide_eq_false sign]
    rfl
  | negSucc magnitude =>
    have scanned := scanInteger_digits (magnitude + 1)
    have digits : ∀ c ∈ Nat.toDigits 10 (magnitude + 1), c.isDigit = true :=
      fun c member => Nat.isDigit_of_mem_toDigits (by decide) (by decide) member
    have all : (Nat.toDigits 10 (magnitude + 1)).takeWhile Char.isDigit = Nat.toDigits 10 (magnitude + 1) :=
      List.takeWhile_eq_self_iff.mpr digits
    have rest : (Nat.toDigits 10 (magnitude + 1)).dropWhile Char.isDigit = [] := List.dropWhile_eq_nil_iff.mpr digits
    have spaces : ('-' :: Nat.toDigits 10 (magnitude + 1)).dropWhile isspace = '-' :: Nat.toDigits 10 (magnitude + 1) :=
      List.dropWhile_cons_of_neg (by decide)
    have filled : (Nat.toDigits 10 (magnitude + 1)).isEmpty = false :=
      List.isEmpty_eq_false_iff.mpr Nat.toDigits_ne_nil
    rw [intText, scanInteger, spaces]
    change (if ((Nat.toDigits 10 (magnitude + 1)).takeWhile Char.isDigit).isEmpty = true then none
      else some (true, Nat.ofDigitChars 10 ((Nat.toDigits 10 (magnitude + 1)).takeWhile Char.isDigit) 0,
        (Nat.toDigits 10 (magnitude + 1)).dropWhile Char.isDigit)) = _
    rw [all, rest, filled, Nat.ofDigitChars_ten_toDigits, if_neg (by decide),
      decide_eq_true (Int.negSucc_lt_zero magnitude)]
    rfl

private theorem cStr_intText (value : Int) : cStr (intText value) = intText value :=
  cStr_eq_self_iff.mpr (not_mem_intText (by decide) (by decide) value)

private theorem intText_ne_nil (value : Int) : intText value ≠ [] := by
  cases value with
  | ofNat magnitude => exact Nat.toDigits_ne_nil
  | negSucc magnitude => exact List.cons_ne_nil _ _

private theorem signed_natAbs (value : Int) : (if decide (value < 0) = true then -(value.natAbs : Int) else value.natAbs) = value := by
  by_cases negative : value < 0
  · rw [decide_eq_true negative, if_pos rfl]
    omega
  · rw [decide_eq_false negative, if_neg (by decide)]
    omega

private theorem stoi_intText (value : Int) :
    stoi (intText value) = if -2 ^ 31 ≤ value ∧ value < 2 ^ 31 then .ok value else .error .outOfRange := by
  unfold stoi
  rw [cStr_intText, scanInteger_intText]
  dsimp only
  rw [signed_natAbs]

theorem sscanfZu_intText_iff (value : Int) (unread : Nat) :
    (sscanfZu (intText value) unread : Int) = value ↔ 0 ≤ value ∧ value < 2 ^ 64 := by
  unfold sscanfZu strtoul ulongMax
  rw [cStr_intText, scanInteger_intText]
  simp only [Option.map_some, Option.getD_some]
  by_cases negative : value < 0
  · simp only [decide_eq_true negative, if_true]
    split <;> omega
  · simp only [decide_eq_false negative]
    split <;> simp <;> omega

theorem stoull_intText_iff (value : Int) :
    ((stoull ((if value ≠ 0 then some (intText value) else none : Option Text).getD [])).toOption.getD 10 : Int) = value ↔
      0 < value ∧ value < 2 ^ 64 := by
  by_cases zero : value = 0
  · subst zero
    simp [stoull, cStr, scanInteger, Except.toOption]
  · rw [if_pos zero, Option.getD_some, stoull, cStr_intText, scanInteger_intText]
    unfold ulongMax
    dsimp only
    by_cases negative : value < 0
    · simp only [decide_eq_true negative, if_true]
      split <;> simp [Except.toOption] <;> omega
    · simp only [decide_eq_false negative]
      split <;> simp [Except.toOption] <;> omega

theorem readPort_written_iff (port : Option Int) :
    (∃ opcuaPort, readPort (((port.filter (· ≠ 0)).map intText).getD []) 16664 = .ok opcuaPort ∧
      (opcuaPort.toNat : Int) = (port.filter (· ≠ 0)).getD 16664) ↔ ∀ value ∈ port, 0 ≤ value ∧ value < 2 ^ 16 := by
  cases port with
  | none => simp [readPort]
  | some value =>
    by_cases zero : value = 0
    · subst zero
      rw [show (some (0 : Int)).filter (· ≠ 0) = none from rfl]
      simp [readPort]
    · have kept : (some value).filter (· ≠ 0) = some value := by simp [zero]
      have filled : (intText value).isEmpty = false := List.isEmpty_eq_false_iff.mpr (intText_ne_nil value)
      rw [kept, Option.map_some, Option.getD_some, Option.getD_some, readPort, filled, stoi_intText]
      by_cases range : -2 ^ 31 ≤ value ∧ value < 2 ^ 31
      · rw [if_pos range]
        simp [Except.map, Except.mapError]
        omega
      · rw [if_neg range]
        simp [Except.map, Except.mapError]
        omega

end Numbers

def writtenSetup (influxError : Option Text) (setting : HistorySetting) : SetupElement :=
  setupElement influxError setting.writeSetting.node

/-- What the server has read of a configuration that was written. -/
def serverSettings (config : Config) (ownName influxError : Option Text) (listed : MapFile) (opcuaPort : BitVec 16) :
    ServerSettings :=
  let name := orDefault ((given config.applicationName).getD []) (ownName.getD "ChimeraTK-OPC-UA-Adapter")
  { rootFolder := orDefault ((given config.rootFolder).getD []) name
    descriptionFolder := orDefault config.applicationDescription []
    usernamePasswordLogin := config.enableLogin
    password := if config.enableLogin then config.password.getD [] else []
    username := if config.enableLogin then config.username.getD [] else []
    applicationName := name
    opcuaPort
    enableSecurity := config.encryptionEnabled
    unsecure := if config.encryptionEnabled then config.addUnsecureEndpoint else false
    allowAnyCertificate := if config.encryptionEnabled then config.toEncryptionSettings.allowAnyCertificate else false
    registerLDS := if config.registerLDS then true else false
    ldsRegisterPeriod :=
      if config.registerLDS then
        (stoull ((if config.ldsRegisterPeriod ≠ 0 then some (intText config.ldsRegisterPeriod) else none :
          Option Text).getD [])).toOption.getD 10
      else 10
    useBoolAsVoid := if config.useBoolAsVoid then true else false
    ldsAddress :=
      if config.registerLDS then orDefault ((given config.ldsAddress).getD []) "opc.tcp://localhost:4840"
      else "opc.tcp://localhost:4840"
    ldsRegistryName := if config.registerLDS then orDefault ((given config.ldsRegistryName).getD []) [] else []
    logLevel := (LogLevel.parse (toupper config.logLevel)).getD .info
    certPath := if config.encryptionEnabled then orDefault ((given config.certificate).getD []) [] else []
    keyPath := if config.encryptionEnabled then orDefault ((given config.key).getD []) [] else []
    allowListFolder := if config.encryptionEnabled then orDefault ((given config.trustList).getD []) [] else []
    blockListFolder := if config.encryptionEnabled then orDefault ((given config.blockList).getD []) [] else []
    issuerListFolder := if config.encryptionEnabled then orDefault ((given config.issuerList).getD []) [] else []
    history := .ofElements (config.historySettings.map (writtenSetup influxError))
    pvSeparator := "/"
    exclude := listed.exclude
    folderWithHistory := listed.folderWithHistory }

section Created

variable {config : Config} {ownName influxError : Option Text}

private theorem given_eq_some_iff {value : Option Text} {text : Text} : given value = some text ↔ value = some text ∧ text ≠ [] := by
  rcases value with _ | _ | ⟨c, rest⟩
  · simp
  · rw [given_nil]
    constructor
    · intro impossible
      cases impossible
    · rintro ⟨same, filled⟩
      exact absurd (Option.some.inj same).symm filled
  · rw [given_cons]
    constructor
    · intro same
      exact ⟨same, Option.some.inj same ▸ List.cons_ne_nil c rest⟩
    · exact And.left

private theorem orDefault_of_ne_nil {text : Text} (filled : text ≠ []) (value : Text) : orDefault text value = text := by
  rw [orDefault, List.isEmpty_eq_false_iff.mpr filled, if_neg (by decide)]

private theorem readServer_created (config : Config) (ownName : Option Text) :
    readServer ownName (some config.createServer.node) {} =
      (readPort (((config.port.filter (· ≠ 0)).map intText).getD []) 16664).map fun opcuaPort =>
        let name := orDefault ((given config.applicationName).getD []) (ownName.getD "ChimeraTK-OPC-UA-Adapter")
        { applicationName := name
          rootFolder := name
          opcuaPort
          logLevel := (LogLevel.parse (toupper config.logLevel)).getD .info } := by
  dsimp only [readServer]
  rw [attributeValue_server, attributeValue_server, attributeValue_server]
  rfl

private theorem readLds_created {lds : Option LdsElement} (created : config.createLds = .ok lds) (settings : ServerSettings) :
    readLds (lds.map LdsElement.node) settings = { settings with
      registerLDS := if config.registerLDS then true else settings.registerLDS
      ldsAddress :=
        if config.registerLDS then orDefault ((given config.ldsAddress).getD []) settings.ldsAddress
        else settings.ldsAddress
      ldsRegistryName :=
        if config.registerLDS then orDefault ((given config.ldsRegistryName).getD []) settings.ldsRegistryName
        else settings.ldsRegistryName
      ldsRegisterPeriod :=
        if config.registerLDS then
          (stoull ((if config.ldsRegisterPeriod ≠ 0 then some (intText config.ldsRegisterPeriod) else none :
            Option Text).getD [])).toOption.getD settings.ldsRegisterPeriod
        else settings.ldsRegisterPeriod } := by
  unfold Config.createLds at created
  cases enabled : config.registerLDS with
  | false =>
    rw [enabled] at created
    cases created
    rfl
  | true =>
    rw [enabled, if_pos rfl] at created
    cases known : given config.ldsAddress with
    | none => rw [known] at created; cases created
    | some address =>
      rw [known] at created
      cases created
      dsimp only [readLds, Option.map_some]
      rw [attributeValue_lds, attributeValue_lds, attributeValue_lds, attributeValue_lds]
      rfl

private theorem readVoidHandling_created {voidHandling : Option VoidHandlingElement}
    (created : voidHandling = if config.useBoolAsVoid then some { useBool := some "True".toList } else none)
    (settings : ServerSettings) :
    readVoidHandling (voidHandling.map VoidHandlingElement.node) settings =
      { settings with useBoolAsVoid := if config.useBoolAsVoid then true else settings.useBoolAsVoid } := by
  subst created
  cases config.useBoolAsVoid with
  | false => rfl
  | true => rfl

private theorem readLogin_created {login : Option LoginElement} (created : config.createLogin = .ok login)
    (settings : ServerSettings) :
    readLogin (login.map LoginElement.node) settings = .ok { settings with
      usernamePasswordLogin := config.enableLogin
      password := if config.enableLogin then config.password.getD [] else settings.password
      username := if config.enableLogin then config.username.getD [] else settings.username } := by
  unfold Config.createLogin at created
  cases enabled : config.enableLogin with
  | false =>
    rw [enabled] at created
    cases created
    rfl
  | true =>
    rw [enabled, if_pos rfl] at created
    split at created
    · cases created
    · cases created
    next name word named worded =>
      cases created
      obtain ⟨username, name_filled⟩ := given_eq_some_iff.mp named
      obtain ⟨password, word_filled⟩ := given_eq_some_iff.mp worded
      dsimp only [readLogin, Option.map_some]
      rw [attributeValue_login, attributeValue_login, username, password]
      change (if word.isEmpty = true then _ else if name.isEmpty = true then _ else _) = _
      rw [List.isEmpty_eq_false_iff.mpr word_filled, List.isEmpty_eq_false_iff.mpr name_filled]
      rfl

private theorem readSecurity_created {security : Option SecurityElement} (created : config.createSecurity = .ok security)
    (settings : ServerSettings) :
    readSecurity (security.map SecurityElement.node) settings = { settings with
      enableSecurity := config.encryptionEnabled
      unsecure := if config.encryptionEnabled then config.addUnsecureEndpoint else settings.unsecure
      allowAnyCertificate :=
        if config.encryptionEnabled then config.toEncryptionSettings.allowAnyCertificate else settings.allowAnyCertificate
      certPath :=
        if config.encryptionEnabled then orDefault ((given config.certificate).getD []) settings.certPath
        else settings.certPath
      keyPath := if config.encryptionEnabled then orDefault ((given config.key).getD []) settings.keyPath else settings.keyPath
      allowListFolder :=
        if config.encryptionEnabled then orDefault ((given config.trustList).getD []) settings.allowListFolder
        else settings.allowListFolder
      blockListFolder :=
        if config.encryptionEnabled then orDefault ((given config.blockList).getD []) settings.blockListFolder
        else settings.blockListFolder
      issuerListFolder :=
        if config.encryptionEnabled then orDefault ((given config.issuerList).getD []) settings.issuerListFolder
        else settings.issuerListFolder } := by
  unfold Config.createSecurity at created
  cases enabled : config.encryptionEnabled with
  | false =>
    rw [enabled] at created
    cases created
    rfl
  | true =>
    rw [enabled, if_pos rfl] at created
    cases checked : config.checkEncryptionSettings with
    | error error => rw [checked] at created; cases created
    | ok =>
      rw [checked] at created
      cases created
      dsimp only [readSecurity, Option.map_some]
      simp only [attributeValue_security]
      unfold EncryptionSettings.createEncryption
      cases config.toEncryptionSettings.addUnsecureEndpoint <;>
        cases config.toEncryptionSettings.allowAnyCertificate <;> rfl

private theorem readRootFolder_created {element : ConfigElement} (rootFolder : element.rootFolder = given config.rootFolder)
    (description : element.description = some config.applicationDescription) (settings : ServerSettings) :
    readRootFolder element.node settings = { settings with
      rootFolder := orDefault ((given config.rootFolder).getD []) settings.rootFolder
      descriptionFolder := orDefault config.applicationDescription settings.descriptionFolder } := by
  unfold readRootFolder
  rw [attributeValue_config, attributeValue_config, rootFolder, description]
  rfl

theorem taken_created {element : ConfigElement} (created : config.createConfig = .ok element) (listed : MapFile) :
    taken element ownName influxError listed =
      (readPort (((config.port.filter (· ≠ 0)).map intText).getD []) 16664).map
        (serverSettings config ownName influxError listed) := by
  obtain ⟨lds, login, security, rootFolder, description, server, voidHandling, historizing⟩ :=
    Config.createConfig_ok.mp created
  have setups : ((element.historizing.getD []).map fun setup => setupElement influxError setup.node) =
      config.historySettings.map (writtenSetup influxError) := by
    rw [historizing]
    cases settings : config.historySettings with
    | nil => rfl
    | cons setting rest =>
      rw [if_pos (by simp), Option.getD_some, List.map_map]
      rfl
  unfold taken
  rw [setups, server, Option.map_some, readServer_created]
  cases readPort (((config.port.filter (· ≠ 0)).map intText).getD []) 16664 with
  | error error => rfl
  | ok opcuaPort =>
    dsimp only [Except.map, bind, Except.bind]
    rw [readLds_created lds, readVoidHandling_created voidHandling, readRootFolder_created rootFolder description,
      readLogin_created login]
    dsimp only
    rw [readSecurity_created security]
    rfl

end Created

/-- The server keeps a history as it was set. -/
structure HistoryTakenOver (setting : HistorySetting) (setup : HistorySetup) : Prop where
  name : setup.name = setting.name
  backend : setup.backend = .influxDB ↔ setting.backendType = "influxDB".toList
  entries : (setup.entriesPerResponse : Int) = setting.entriesPerResponse
  interval : (setup.interval : Int) = setting.interval
  buffer : setting.backendType ≠ "influxDB" → (setup.bufferLength : Int) = setting.bufferLength

/-- The server is set up as the configuration says. -/
structure TakenOver (config : Config) (ownName : Option Text) (settings : ServerSettings) : Prop where
  applicationName : settings.applicationName =
    (given config.applicationName).getD (ownName.getD "ChimeraTK-OPC-UA-Adapter".toList)
  rootFolder : settings.rootFolder = (given config.rootFolder).getD settings.applicationName
  description : settings.descriptionFolder = config.applicationDescription
  port : (settings.opcuaPort.toNat : Int) = (config.port.filter (· ≠ 0)).getD 16664
  logLevel : LogLevel.parse (toupper config.logLevel) = some settings.logLevel
  login : settings.usernamePasswordLogin = config.enableLogin
  credentials : config.enableLogin = true →
    config.username = some settings.username ∧ config.password = some settings.password
  security : settings.enableSecurity = config.encryptionEnabled
  endpoints : config.encryptionEnabled = true →
    settings.unsecure = config.addUnsecureEndpoint ∧
      settings.allowAnyCertificate = config.toEncryptionSettings.allowAnyCertificate
  certificates : config.encryptionEnabled = true →
    [config.certificate, config.key, config.trustList, config.blockList, config.issuerList] =
      [settings.certPath, settings.keyPath, settings.allowListFolder, settings.blockListFolder,
        settings.issuerListFolder].map some
  registerLDS : settings.registerLDS = config.registerLDS
  registration : config.registerLDS = true →
    config.ldsAddress = some settings.ldsAddress ∧ settings.ldsRegistryName = config.ldsRegistryName.getD [] ∧
      (settings.ldsRegisterPeriod : Int) = config.ldsRegisterPeriod
  useBoolAsVoid : settings.useBoolAsVoid = config.useBoolAsVoid
  histories : List.Forall₂ HistoryTakenOver config.historySettings settings.history.history
  tolerant : settings.mappingExceptions = false
  pvSeparator : settings.pvSeparator = "/"

def writtenSizes (setting : HistorySetting) : List Int :=
  [setting.entriesPerResponse, setting.interval] ++
    if setting.backendType = "influxDB" then [] else [setting.bufferLength]

/-- What a configuration needs beyond what `createConfig` checks. -/
structure Suits (config : Config) (influxError : Option Text) : Prop where
  port : ∀ port ∈ config.port, 0 ≤ port ∧ port < 2 ^ 16
  logLevel : toupper config.logLevel ∈ logLevels
  period : config.registerLDS = true → 0 < config.ldsRegisterPeriod ∧ config.ldsRegisterPeriod < 2 ^ 64
  named : ∀ setting ∈ config.historySettings, setting.name ≠ []
  distinct : (config.historySettings.map (·.name)).Nodup
  sizes : ∀ setting ∈ config.historySettings, ∀ size ∈ writtenSizes setting, 0 ≤ size ∧ size < 2 ^ 64
  influx : ∀ setting ∈ config.historySettings, setting.backendType = "influxDB".toList → influxError = none

section Histories

variable {influxError : Option Text}

private theorem writtenSetup_eq (setting : HistorySetting) : writtenSetup influxError setting =
    { name := some setting.name
      useInfluxBackend := some (if setting.backendType = "influxDB" then "True" else "False")
      bufferLength := if setting.backendType ≠ "influxDB" then some (intText setting.bufferLength) else none
      entriesPerResponse := some (intText setting.entriesPerResponse)
      interval := some (intText setting.interval)
      influxError } := by
  unfold writtenSetup setupElement
  rw [getProp_setup, getProp_setup, getProp_setup, getProp_setup, getProp_setup]
  rfl

private theorem writtenSetup_historyName (influxError : Option Text) (setting : HistorySetting) :
    (writtenSetup influxError setting).historyName = setting.name := by
  rw [writtenSetup_eq]
  rfl

private theorem writtenSetup_backend (setting : HistorySetting) : (writtenSetup influxError setting).backend =
    if setting.backendType = "influxDB" then .influxDB else .circular := by
  rw [writtenSetup_eq]
  unfold SetupElement.backend
  by_cases influx : setting.backendType = "influxDB"
  · rw [if_pos influx, if_pos influx]
    rfl
  · rw [if_neg influx, if_neg influx]
    rfl

private theorem writtenSetup_complete_iff (setting : HistorySetting) : (writtenSetup influxError setting).Complete ↔
    setting.name ≠ [] ∧ (setting.backendType = "influxDB" → influxError = none) := by
  have backend := @writtenSetup_backend influxError setting
  have name := writtenSetup_historyName influxError setting
  constructor
  · intro complete
    refine ⟨name ▸ complete.named, fun influx => ?_⟩
    rw [if_pos influx] at backend
    have error := complete.influx backend
    rwa [writtenSetup_eq] at error
  · intro ⟨named, available⟩
    refine ⟨name.symm ▸ named, fun uses => ?_, fun uses => ?_, ?_, ?_⟩
    · rw [writtenSetup_eq]
      refine available ?_
      by_contra other
      rw [if_neg other, uses] at backend
      cases backend
    · have other : setting.backendType ≠ "influxDB" := by
        intro influx
        rw [if_pos influx, uses] at backend
        cases backend
      rw [writtenSetup_eq]
      dsimp only
      rw [if_pos other]
      exact intText_ne_nil setting.bufferLength
    · rw [writtenSetup_eq]
      exact intText_ne_nil setting.entriesPerResponse
    · rw [writtenSetup_eq]
      exact intText_ne_nil setting.interval

theorem writtenSetup_taken_iff (setting : HistorySetting) :
    HistoryTakenOver setting (writtenSetup influxError setting).setup ↔
      ∀ size ∈ writtenSizes setting, 0 ≤ size ∧ size < 2 ^ 64 := by
  have backend := @writtenSetup_backend influxError setting
  have entries : (writtenSetup influxError setting).setup.entriesPerResponse =
      sscanfZu (intText setting.entriesPerResponse) 100 := by
    rw [writtenSetup_eq]
    rfl
  have interval : (writtenSetup influxError setting).setup.interval = sscanfZu (intText setting.interval) 1000 := by
    rw [writtenSetup_eq]
    rfl
  have buffer (other : setting.backendType ≠ "influxDB") :
      (writtenSetup influxError setting).setup.bufferLength = sscanfZu (intText setting.bufferLength) 100 := by
    unfold SetupElement.setup
    rw [if_neg other] at backend
    rw [if_pos backend, writtenSetup_eq]
    dsimp only
    rw [if_pos other]
    rfl
  have uses : (writtenSetup influxError setting).setup.backend = .influxDB ↔ setting.backendType = "influxDB" := by
    change (writtenSetup influxError setting).backend = .influxDB ↔ _
    rw [backend]
    by_cases influx : setting.backendType = "influxDB"
    · exact iff_of_true (if_pos influx) influx
    · rw [if_neg influx]
      exact iff_of_false (by decide) influx
  unfold writtenSizes
  rw [List.forall_mem_append, List.forall_mem_cons, List.forall_mem_singleton, ← sscanfZu_intText_iff _ 100,
    ← sscanfZu_intText_iff _ 1000, ← entries, ← interval]
  by_cases influx : setting.backendType = "influxDB"
  · rw [if_pos influx]
    exact ⟨fun taken => ⟨⟨taken.entries, taken.interval⟩, fun size member => absurd member (List.not_mem_nil)⟩,
      fun sizes => ⟨writtenSetup_historyName influxError setting, uses, sizes.1.1, sizes.1.2, fun other => absurd influx other⟩⟩
  · rw [if_neg influx, List.forall_mem_singleton, ← sscanfZu_intText_iff _ 100, ← buffer influx]
    exact ⟨fun taken => ⟨⟨taken.entries, taken.interval⟩, taken.buffer influx⟩,
      fun sizes => ⟨writtenSetup_historyName influxError setting, uses, sizes.1.1, sizes.1.2, fun _ => sizes.2⟩⟩

private theorem names_of_taken {settings : List HistorySetting} {history : List HistorySetup}
    (taken : List.Forall₂ HistoryTakenOver settings history) : history.map (·.name) = settings.map (·.name) := by
  induction taken with
  | nil => rfl
  | cons first _ ih => rw [List.map_cons, List.map_cons, ih, first.name]

theorem histories_taken_iff (settings : List HistorySetting) :
    List.Forall₂ HistoryTakenOver settings (HistoryConfig.ofElements (settings.map (writtenSetup influxError))).history ↔
      (∀ setting ∈ settings, (writtenSetup influxError setting).Complete) ∧ (settings.map (·.name)).Nodup ∧
        ∀ setting ∈ settings, ∀ size ∈ writtenSizes setting, 0 ≤ size ∧ size < 2 ^ 64 := by
  have names : (settings.map (writtenSetup influxError)).map SetupElement.historyName = settings.map (·.name) := by
    rw [List.map_map]
    exact List.map_congr_left fun setting _ => writtenSetup_historyName influxError setting
  -- where all are complete and have names of their own, each becomes a setup
  have all_taken (complete : ∀ setting ∈ settings, (writtenSetup influxError setting).Complete)
      (distinct : (settings.map (·.name)).Nodup) :
      List.Forall₂ HistoryTakenOver settings
          (HistoryConfig.ofElements (settings.map (writtenSetup influxError))).history ↔
        ∀ setting ∈ settings, ∀ size ∈ writtenSizes setting, 0 ≤ size ∧ size < 2 ^ 64 := by
    rw [HistoryConfig.history_ofElements (List.forall_mem_map.mpr complete) (names.symm ▸ distinct), List.map_map,
      List.forall₂_map_right_iff, List.forall₂_same]
    exact forall₂_congr fun setting _ => writtenSetup_taken_iff setting
  constructor
  · intro taken
    have same := names_of_taken taken
    have distinct : (settings.map (·.name)).Nodup := by
      rw [← same]
      exact nodup_firstByKey _
    have complete : ∀ setting ∈ settings, (writtenSetup influxError setting).Complete := by
      intro setting member
      obtain ⟨setup, read, named⟩ := List.mem_map.mp (same.symm ▸ List.mem_map.mpr ⟨setting, member, rfl⟩)
      obtain ⟨element, kept, rfl⟩ := List.mem_map.mp (mem_of_mem_firstByKey read)
      obtain ⟨listed, complete⟩ := List.mem_filter.mp kept
      obtain ⟨other, inside, rfl⟩ := List.mem_map.mp listed
      have equal : other = setting := List.inj_on_of_nodup_map distinct inside member
        ((writtenSetup_historyName influxError other).symm.trans named)
      exact equal ▸ of_decide_eq_true complete
    exact ⟨complete, distinct, (all_taken complete distinct).mp taken⟩
  · exact fun ⟨complete, distinct, sizes⟩ => (all_taken complete distinct).mpr sizes

end Histories

private theorem parse_isSome_iff (level : Text) : (LogLevel.parse level).isSome ↔ level ∈ logLevels := by
  unfold LogLevel.parse logLevels
  constructor
  · intro known
    repeat' split at known
    all_goals simp_all
  · intro listed
    have all : ∀ level ∈ logLevels, (LogLevel.parse level).isSome = true := by decide
    exact all level listed

section TakingOver

variable {config : Config} {ownName influxError : Option Text}

private theorem orDefault_given (value : Option Text) (text : Text) : orDefault ((given value).getD []) text = (given value).getD text := by
  rcases value with _ | _ | _ <;> rfl

private theorem orDefault_nil (text : Text) : orDefault text [] = text := by
  cases text <;> rfl

theorem some_orDefault_given {value : Option Text} (present : value ≠ none) :
    value = some (orDefault ((given value).getD []) []) := by
  rcases value with _ | _ | _
  · exact absurd rfl present
  · rfl
  · rfl

private theorem createLds_address {lds : Option LdsElement} (created : config.createLds = .ok lds)
    (enabled : config.registerLDS = true) (text : Text) :
    config.ldsAddress = some (orDefault ((given config.ldsAddress).getD []) text) := by
  unfold Config.createLds at created
  rw [enabled, if_pos rfl] at created
  cases known : given config.ldsAddress with
  | none => rw [known] at created; cases created
  | some address =>
    obtain ⟨located, filled⟩ := given_eq_some_iff.mp known
    rw [Option.getD_some, orDefault_of_ne_nil filled, located]

private theorem createLogin_credentials {login : Option LoginElement} (created : config.createLogin = .ok login)
    (enabled : config.enableLogin = true) :
    config.username = some (config.username.getD []) ∧ config.password = some (config.password.getD []) := by
  unfold Config.createLogin at created
  rw [enabled, if_pos rfl] at created
  split at created
  · cases created
  · cases created
  next name word named worded =>
    rw [(given_eq_some_iff.mp named).1, (given_eq_some_iff.mp worded).1]
    exact ⟨rfl, rfl⟩

private theorem createSecurity_present {security : Option SecurityElement} (created : config.createSecurity = .ok security)
    (enabled : config.encryptionEnabled = true) :
    ∀ value ∈ [config.key, config.certificate, config.trustList, config.issuerList, config.blockList], value ≠ none := by
  unfold Config.createSecurity at created
  rw [enabled, if_pos rfl] at created
  cases checked : config.checkEncryptionSettings with
  | error error => rw [checked] at created; cases created
  | ok => exact Config.checkEncryptionSettings_ok.mp checked

section Read

variable {listed : MapFile} {opcuaPort : BitVec 16}

private theorem serverSettings_period (enabled : config.registerLDS = true) :
    (serverSettings config ownName influxError listed opcuaPort).ldsRegisterPeriod =
      (stoull ((if config.ldsRegisterPeriod ≠ 0 then some (intText config.ldsRegisterPeriod) else none :
        Option Text).getD [])).toOption.getD 10 :=
  if_pos enabled

private theorem serverSettings_credentials {login : Option LoginElement} (created : config.createLogin = .ok login)
    (enabled : config.enableLogin = true) :
    config.username = some (serverSettings config ownName influxError listed opcuaPort).username ∧
      config.password = some (serverSettings config ownName influxError listed opcuaPort).password := by
  have credentials := createLogin_credentials created enabled
  unfold serverSettings
  simpa only [enabled, if_true] using credentials

private theorem serverSettings_certificates {security : Option SecurityElement} (created : config.createSecurity = .ok security)
    (enabled : config.encryptionEnabled = true) {settings : ServerSettings}
    (read : settings = serverSettings config ownName influxError listed opcuaPort) :
    [config.certificate, config.key, config.trustList, config.blockList, config.issuerList] =
      [settings.certPath, settings.keyPath, settings.allowListFolder, settings.blockListFolder,
        settings.issuerListFolder].map some := by
  have present := createSecurity_present created enabled
  simp only [List.forall_mem_cons] at present
  obtain ⟨key, certificate, trustList, issuerList, blockList, -⟩ := present
  subst read
  unfold serverSettings
  simp only [enabled, if_true, List.map_cons, List.map_nil]
  rw [← some_orDefault_given key, ← some_orDefault_given certificate, ← some_orDefault_given trustList,
    ← some_orDefault_given issuerList, ← some_orDefault_given blockList]

theorem serverSettings_ldsAddress {lds : Option LdsElement} (created : config.createLds = .ok lds)
    (enabled : config.registerLDS = true) :
    config.ldsAddress = some (serverSettings config ownName influxError listed opcuaPort).ldsAddress := by
  have located := createLds_address created enabled "opc.tcp://localhost:4840"
  unfold serverSettings
  simpa only [enabled, if_true] using located

private theorem serverSettings_ldsRegistryName (enabled : config.registerLDS = true) :
    (serverSettings config ownName influxError listed opcuaPort).ldsRegistryName = config.ldsRegistryName.getD [] := by
  unfold serverSettings
  simp only [enabled, if_true, orDefault_nil]
  rcases config.ldsRegistryName with _ | _ | _ <;> rfl

private theorem serverSettings_logLevel {level : LogLevel} (parsed : LogLevel.parse (toupper config.logLevel) = some level) :
    (serverSettings config ownName influxError listed opcuaPort).logLevel = level := by
  unfold serverSettings
  rw [parsed, Option.getD_some]

end Read

theorem serverSettings_taken_iff {element : ConfigElement} (created : config.createConfig = .ok element)
    (listed : MapFile) (opcuaPort : BitVec 16) :
    TakenOver config ownName (serverSettings config ownName influxError listed opcuaPort) ↔
      (opcuaPort.toNat : Int) = (config.port.filter (· ≠ 0)).getD 16664 ∧ toupper config.logLevel ∈ logLevels ∧
        (config.registerLDS = true → 0 < config.ldsRegisterPeriod ∧ config.ldsRegisterPeriod < 2 ^ 64) ∧
        (∀ setting ∈ config.historySettings, (writtenSetup influxError setting).Complete) ∧
        (config.historySettings.map (·.name)).Nodup ∧
        ∀ setting ∈ config.historySettings, ∀ size ∈ writtenSizes setting, 0 ≤ size ∧ size < 2 ^ 64 := by
  obtain ⟨lds, login, security, -⟩ := Config.createConfig_ok.mp created
  constructor
  · intro taken
    refine ⟨taken.port, (parse_isSome_iff _).mp (by rw [taken.logLevel]; rfl), fun enabled => ?_,
      (histories_taken_iff _).mp taken.histories⟩
    have read := (taken.registration enabled).2.2
    rwa [serverSettings_period enabled, stoull_intText_iff] at read
  · intro ⟨port, level, registered, complete, distinct, sizes⟩
    obtain ⟨known, parsed⟩ := Option.isSome_iff_exists.mp ((parse_isSome_iff _).mpr level)
    exact {
      applicationName := orDefault_given _ _
      rootFolder := orDefault_given _ _
      description := orDefault_nil _
      port
      logLevel := by rw [serverSettings_logLevel parsed, parsed]
      login := rfl
      credentials := serverSettings_credentials login
      security := rfl
      endpoints := fun enabled => ⟨if_pos enabled, if_pos enabled⟩
      certificates := fun enabled => serverSettings_certificates security enabled rfl
      registerLDS := by
        unfold serverSettings
        cases config.registerLDS <;> rfl
      registration := fun enabled => by
        refine ⟨serverSettings_ldsAddress lds enabled, serverSettings_ldsRegistryName enabled, ?_⟩
        rw [serverSettings_period enabled, stoull_intText_iff]
        exact registered enabled
      useBoolAsVoid := by
        unfold serverSettings
        cases config.useBoolAsVoid <;> rfl
      histories := (histories_taken_iff _).mpr ⟨complete, distinct, sizes⟩
      tolerant := rfl
      pvSeparator := rfl }

end TakingOver

/-- What the map file generator writes of a configuration is what the server is set up with,
exactly when the configuration suits the server: a port of 16 bits, one of the six log levels,
a period that fits in 64 bits and is not zero where there is a registration, and history
settings with names of their own, sizes of 64 bits and a client for InfluxDB where it is used. -/
theorem generated_config_taken_over_iff {config : Config} {element : ConfigElement} {ownName influxError : Option Text}
    {entries : List XmlNode} {document : XmlNode} (created : config.createConfig = .ok element)
    (written : Written element entries document) :
    (∃ settings, readConfig ownName influxError document = .ok settings ∧ TakenOver config ownName settings) ↔
      Suits config influxError := by
  have complete_iff : (∀ setting ∈ config.historySettings, (writtenSetup influxError setting).Complete) ↔
      (∀ setting ∈ config.historySettings, setting.name ≠ []) ∧
        ∀ setting ∈ config.historySettings, setting.backendType = "influxDB".toList → influxError = none := by
    simp only [writtenSetup_complete_iff, forall_and]
  have port_iff := readPort_written_iff config.port
  rw [readConfig_written written, taken_created created]
  constructor
  · rintro ⟨settings, read, taken⟩
    cases port : readPort (((config.port.filter (· ≠ 0)).map intText).getD []) 16664 with
    | error error => rw [port] at read; cases read
    | ok opcuaPort =>
      rw [port] at read
      cases read
      obtain ⟨same, level, period, complete, distinct, sizes⟩ := (serverSettings_taken_iff created _ _).mp taken
      obtain ⟨named, influx⟩ := complete_iff.mp complete
      exact ⟨port_iff.mp ⟨opcuaPort, port, same⟩, level, period, named, distinct, sizes, influx⟩
  · intro suits
    obtain ⟨opcuaPort, port, same⟩ := port_iff.mpr suits.port
    refine ⟨_, by rw [port]; rfl, (serverSettings_taken_iff created (listedEntries document) opcuaPort).mpr ?_⟩
    exact ⟨same, suits.logLevel, suits.period, complete_iff.mpr ⟨suits.named, suits.influx⟩, suits.distinct, suits.sizes⟩

def driveConfig : Config where
  username := some "operator"
  password := some "secret"
  rootFolder := some "drive"
  applicationDescription := "Drive"
  enableLogin := true
  port := some 4841
  historySettings := [{ name := "fast", interval := 100 }]
  logLevel := "DEBUG"
  registerLDS := true
  ldsAddress := some "opc.tcp://lds:4840"
  ldsRegisterPeriod := 5

private theorem driveConfig_suits : Suits driveConfig none where
  port port member := by
    cases member
    omega
  logLevel := by decide
  period _ := by decide
  named := List.forall_mem_singleton.mpr (List.cons_ne_nil _ _)
  distinct := List.nodup_singleton _
  sizes := List.forall_mem_singleton.mpr (by decide)
  influx _ _ _ := rfl

/-- The file has a line for each element, and an entry for a folder. -/
theorem generated_config_taken_over_of_drive : ∃ element document settings, driveConfig.createConfig = .ok element ∧
    Written element [.element "folder" [] []] document ∧ readConfig (some "Drive") none document = .ok settings ∧
      TakenOver driveConfig (some "Drive") settings := by
  obtain ⟨element, created⟩ : ∃ element, driveConfig.createConfig = .ok element := ⟨_, rfl⟩
  have written : Written element [.element "folder" [] []]
      (.element "uamapping" [] [.text "\n  ", element.node, .text "\n  ", .element "folder" [] [], .text "\n"]) :=
    ⟨rfl, rfl, rfl⟩
  obtain ⟨settings, read, taken⟩ :=
    (@generated_config_taken_over_iff _ _ (some "Drive") none _ _ created written).mpr driveConfig_suits
  exact ⟨element, _, settings, created, written, read, taken⟩

end OpcUaAdapter
