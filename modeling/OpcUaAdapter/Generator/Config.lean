import OpcUaAdapter.Generator.PythonText

/-! The server configuration the map file generator keeps: how it is written as the
`config` element of a map file and how it is read back. An attribute or a first child
element that is missing is `none`. Texts that XML does not allow are left to lxml. -/

namespace OpcUaAdapter.Generator

inductive PythonError where
  | keyError
  | typeError
  | valueError
  | runtimeError (message : Text)
  /-- What `ET.parse` raises for a file that is missing or not well-formed. -/
  | unreadable
deriving DecidableEq

/-- What reads a map file stops at the first exception and keeps what it has read. -/
abbrev Reading (σ : Type) := ExceptT PythonError (StateM σ)

structure SetupElement where
  name : Option Text := none
  entriesPerResponse : Option Text := none
  bufferLength : Option Text := none
  interval : Option Text := none
  useInfluxBackend : Option Text := none
deriving DecidableEq

structure ServerElement where
  applicationName : Option Text := none
  port : Option Text := none
  logLevel : Option Text := none
deriving DecidableEq

structure LdsElement where
  register : Option Text := none
  address : Option Text := none
  registryName : Option Text := none
  registerPeriod : Option Text := none
deriving DecidableEq

structure LoginElement where
  username : Option Text := none
  password : Option Text := none
deriving DecidableEq

structure SecurityElement where
  unsecure : Option Text := none
  allowAnyCertificate : Option Text := none
  privatekey : Option Text := none
  certificate : Option Text := none
  trustlist : Option Text := none
  issuerlist : Option Text := none
  blocklist : Option Text := none
deriving DecidableEq

structure VoidHandlingElement where
  useBool : Option Text := none
deriving DecidableEq

structure ConfigElement where
  rootFolder : Option Text := none
  description : Option Text := none
  server : Option ServerElement := none
  lds : Option LdsElement := none
  voidHandling : Option VoidHandlingElement := none
  login : Option LoginElement := none
  security : Option SecurityElement := none
  historizing : Option (List SetupElement) := none
deriving DecidableEq

/-- `int` of an attribute. -/
def intAttribute (text : Text) : Except PythonError Int :=
  match int text with
  | some value => .ok value
  | none => .error .valueError

structure HistorySetting where
  name : Text
  entriesPerResponse : Int := 1000
  bufferLength : Int := 100
  interval : Int := 1000
  backendType : Text := "circular buffer"
deriving DecidableEq

namespace HistorySetting

/-- A number keeps its value when the attribute is missing. -/
def readNumberAttribute (text : Option Text) (value : Int) : Except PythonError Int :=
  match text with
  | some text => intAttribute text
  | none => .ok value

def readHistory (setting : HistorySetting) (data : SetupElement) : Except PythonError HistorySetting := do
  let entriesPerResponse ← readNumberAttribute data.entriesPerResponse setting.entriesPerResponse
  let bufferLength ← readNumberAttribute data.bufferLength setting.bufferLength
  let interval ← readNumberAttribute data.interval setting.interval
  return {
    name := data.name.getD setting.name
    entriesPerResponse
    bufferLength
    interval
    backendType := if data.useInfluxBackend = some ("True" : Text) then "influxDB" else "circular buffer" }

def writeSetting (setting : HistorySetting) : SetupElement where
  name := some setting.name
  entriesPerResponse := some (intText setting.entriesPerResponse)
  interval := some (intText setting.interval)
  useInfluxBackend := some (if setting.backendType = "influxDB" then "True" else "False")
  bufferLength := if setting.backendType ≠ "influxDB" then some (intText setting.bufferLength) else none

end HistorySetting

structure EncryptionSettings where
  allowAnyCertificate : Bool := false
  encryptionEnabled : Bool := false
  addUnsecureEndpoint : Bool := false
  certificate : Option Text := none
  key : Option Text := none
  blockList : Option Text := none
  trustList : Option Text := none
  issuerList : Option Text := none
deriving DecidableEq

namespace EncryptionSettings

def checkEncryptionSettings (settings : EncryptionSettings) : Except PythonError Unit := do
  if settings.key = none then
    throw (.runtimeError "Server key not set.")
  if settings.certificate = none then
    throw (.runtimeError "Server certificate not set.")
  if settings.trustList = none ∨ settings.issuerList = none ∨ settings.blockList = none then
    throw (.runtimeError "No trust list or CA related configuration set.")

def createEncryption (settings : EncryptionSettings) : SecurityElement where
  unsecure := some (if settings.addUnsecureEndpoint then "True" else "False")
  allowAnyCertificate := some (if settings.allowAnyCertificate then "True" else "False")
  privatekey := given settings.key
  certificate := given settings.certificate
  trustlist := given settings.trustList
  issuerlist := given settings.issuerList
  blocklist := given settings.blockList

def readEncryption (settings : EncryptionSettings) (data : SecurityElement) : EncryptionSettings := { settings with
  addUnsecureEndpoint := settings.addUnsecureEndpoint || data.unsecure = some ("True" : Text)
  allowAnyCertificate := settings.allowAnyCertificate || data.allowAnyCertificate = some ("True" : Text)
  key := data.privatekey.or settings.key
  certificate := data.certificate.or settings.certificate
  trustList := data.trustlist.or settings.trustList
  issuerList := data.issuerlist.or settings.issuerList
  blockList := data.blocklist.or settings.blockList }

end EncryptionSettings

structure Config extends EncryptionSettings where
  username : Option Text := none
  password : Option Text := none
  applicationName : Option Text := none
  rootFolder : Option Text := none
  applicationDescription : Text := []
  enableLogin : Bool := false
  port : Option Int := none
  historySettings : List HistorySetting := []
  logLevel : Text := "INFO"
  useBoolAsVoid : Bool := false
  registerLDS : Bool := false
  ldsAddress : Option Text := none
  ldsRegistryName : Option Text := none
  ldsRegisterPeriod : Int := 10
deriving DecidableEq

def logLevels : List Text := ["TRACE", "DEBUG", "INFO", "WARNING", "ERROR", "FATAL"]

namespace Config

/-- A log level as it is taken over, in capitals. -/
def levelOf (text : Text) : Option Text := if upper text ∈ logLevels then some (upper text) else none

def createServer (config : Config) : ServerElement where
  applicationName := given config.applicationName
  -- a port of 0 counts as not set
  port := (config.port.filter (· ≠ 0)).map intText
  logLevel := some config.logLevel

def createLds (config : Config) : Except PythonError (Option LdsElement) :=
  if config.registerLDS then
    match given config.ldsAddress with
    | none => throw (.runtimeError "No lds address set but LDS  registration is enabled!")
    | some address => return some {
        register := some "True"
        address := some address
        registryName := given config.ldsRegistryName
        registerPeriod := if config.ldsRegisterPeriod ≠ 0 then some (intText config.ldsRegisterPeriod) else none }
  else return none

def createLogin (config : Config) : Except PythonError (Option LoginElement) :=
  if config.enableLogin then
    match given config.username, given config.password with
    | none, _ => throw (.runtimeError "No username set!")
    | some _, none => throw (.runtimeError "No password set!")
    | some username, some password => return some { username := some username, password := some password }
  else return none

def createSecurity (config : Config) : Except PythonError (Option SecurityElement) :=
  if config.encryptionEnabled then do
    config.checkEncryptionSettings
    return some config.createEncryption
  else return none

def createConfig (config : Config) : Except PythonError ConfigElement := do
  let lds ← config.createLds
  let login ← config.createLogin
  let security ← config.createSecurity
  return {
    rootFolder := given config.rootFolder
    description := some config.applicationDescription
    server := some config.createServer
    lds
    login
    security
    voidHandling := if config.useBoolAsVoid then some { useBool := some "True" } else none
    historizing :=
      if config.historySettings.length > 0 then some (config.historySettings.map HistorySetting.writeSetting)
      else none }

def readRootFolder (config : ConfigElement) : Reading Config Unit :=
  match config.rootFolder with
  | none => return
  | some rootFolder => do
    modify fun s => { s with rootFolder := some rootFolder }
    -- the description is only looked for next to a root folder
    match config.description with
    | some description => modify fun s => { s with applicationDescription := description }
    | none => throw .keyError

def readServer (server : Option ServerElement) : Reading Config Unit :=
  match server with
  | none => return
  | some server => do
    modify fun s => { s with applicationName := server.applicationName.or s.applicationName }
    if let some text := server.port then
      let port ← ExceptT.mk (pure (intAttribute text))
      modify fun s => { s with port := some port }
    if let some text := server.logLevel then
      if upper text ∈ logLevels then
        modify fun s => { s with logLevel := upper text }

def readLds (lds : Option LdsElement) (s : Config) : Config :=
  match lds with
  | none => s
  | some lds => { s with
      registerLDS := match lds.register with
        | some register => upper register = "TRUE"
        | none => s.registerLDS
      ldsAddress := lds.address.or s.ldsAddress
      ldsRegistryName := lds.registryName.or s.ldsRegistryName
      ldsRegisterPeriod := (lds.registerPeriod.bind int).getD s.ldsRegisterPeriod }

def readVoidHandling (voidHandling : Option VoidHandlingElement) (s : Config) : Config :=
  match voidHandling.bind (·.useBool) with
  | some useBool => if upper useBool = "TRUE" then { s with useBoolAsVoid := true } else s
  | none => s

def readLogin (login : Option LoginElement) (s : Config) : Config :=
  match login with
  | some login => { s with
      enableLogin := true
      username := login.username.or s.username
      password := login.password.or s.password }
  | none => { s with enableLogin := false, username := none, password := none }

def readSecurity (security : Option SecurityElement) (s : Config) : Config :=
  match security with
  | some security => { s with
      toEncryptionSettings := { s.toEncryptionSettings with encryptionEnabled := true }.readEncryption security }
  | none => { s with toEncryptionSettings := {} }

def addSetting (h : HistorySetting) (s : Config) : Config :=
  if s.historySettings.any (·.name = h.name) then s else { s with historySettings := s.historySettings ++ [h] }

def readSetup (setup : SetupElement) : Reading Config Unit := do
  let h ← ExceptT.mk (pure (HistorySetting.readHistory { name := [] } setup))
  modify (addSetting h)

def readConfig (data : Option ConfigElement) : Reading Config Unit :=
  match data with
  | none => return
  | some config => do
    readRootFolder config
    readServer config.server
    modify (readLds config.lds)
    modify (readVoidHandling config.voidHandling)
    modify (readLogin config.login)
    modify (readSecurity config.security)
    (config.historizing.getD []).forM readSetup

end Config

end OpcUaAdapter.Generator
