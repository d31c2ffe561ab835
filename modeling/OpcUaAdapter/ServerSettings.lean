import OpcUaAdapter.Config
import OpcUaAdapter.HistorySetups
import OpcUaAdapter.Library.Effects

/-! `readConfig`: the settings of the server and of the mapping that the map file gives,
and the defaults of what it leaves open. What is only logged is left out. -/

namespace OpcUaAdapter

namespace XmlNode

mutual
/-- The elements of a name in document order, the node itself included. -/
def named (elementName : Text) : XmlNode → List XmlNode
  | .element name attributes children =>
    (if name = elementName then [.element name attributes children] else []) ++ namedAmong elementName children
  | .text _ => []

def namedAmong (elementName : Text) : List XmlNode → List XmlNode
  | [] => []
  | node :: rest => node.named elementName ++ namedAmong elementName rest
end

/-- The elements of a name below a node. -/
def inside (elementName : Text) (node : XmlNode) : List XmlNode := namedAmong elementName node.children

def attributeValue (attributeName : Text) (node : XmlNode) : Text :=
  getAttributeValueFromNode (node.getProp attributeName)

/-- `getContentFromNode` of a node, which goes to the first child only. -/
def firstContent (node : XmlNode) : Text := getContentFromNode ((node.children.head?.map content).getD [])

end XmlNode

/-- What `readConfig` throws. -/
inductive ConfigError where
  | raised (error : MappingError)
  | standard (exception : StdException)
deriving DecidableEq

inductive LogLevel where
  | trace
  | debug
  | info
  | warning
  | error
  | fatal
deriving DecidableEq

def LogLevel.parse (text : Text) : Option LogLevel :=
  if text = "TRACE" then some .trace
  else if text = "DEBUG" then some .debug
  else if text = "INFO" then some .info
  else if text = "WARNING" then some .warning
  else if text = "ERROR" then some .error
  else if text = "FATAL" then some .fatal
  else none

/-- The members of the adapter and of its `ServerConfig` that `readConfig` sets. -/
structure ServerSettings where
  rootFolder : Text := []
  descriptionFolder : Text := []
  usernamePasswordLogin : Bool := false
  password : Text := []
  username : Text := []
  applicationName : Text := "OPCUA-Adapter"
  opcuaPort : BitVec 16 := 16664
  enableSecurity : Bool := false
  unsecure : Bool := false
  allowAnyCertificate : Bool := false
  registerLDS : Bool := false
  ldsRegisterPeriod : Nat := 10
  useBoolAsVoid : Bool := false
  ldsAddress : Text := "opc.tcp://localhost:4840"
  ldsRegistryName : Text := []
  logLevel : LogLevel := .info
  certPath : Text := []
  keyPath : Text := []
  allowListFolder : Text := []
  blockListFolder : Text := []
  issuerListFolder : Text := []
  history : HistoryConfig := {}
  mappingExceptions : Bool := false
  pvSeparator : Text := []
  exclude : List Text := []
  folderWithHistory : List Text := []
deriving DecidableEq

/-- An `int` out of a text. -/
def stoi (text : Text) : Except StdException Int :=
  match scanInteger (cStr text) with
  | none => .error .invalidArgument
  | some (negative, value, _) =>
    let signed : Int := if negative then -(value : Int) else value
    if -2 ^ 31 ≤ signed ∧ signed < 2 ^ 31 then .ok signed else .error .outOfRange

/-- As in `strtoul`, a minus sign negates in the unsigned type. -/
def stoull (text : Text) : Except StdException Nat :=
  match scanInteger (cStr text) with
  | none => .error .invalidArgument
  | some (negative, value, _) =>
    if ulongMax < value then .error .outOfRange
    else .ok (if negative then (2 ^ 64 - value) % 2 ^ 64 else value)

/-- An attribute that is missing or empty leaves the value alone. -/
def orDefault (text value : Text) : Text := if text.isEmpty then value else text

def saysTrue (text : Text) : Bool := toupper text = "TRUE"

namespace ServerSettings

/-- The only element with a tag, if there is one. -/
def single (tag : Text) (nodes : List XmlNode) : Except ConfigError (Option XmlNode) :=
  match nodes with
  | [] => .ok none
  | [node] => .ok (some node)
  | _ :: _ :: _ => .error (.raised (.runtimeError ("To many <" ++ tag ++ ">-Tags in config file")))

def readMappingExceptions (config : XmlNode) : Bool :=
  match config.children.filter (XmlNode.isElement "mapping_exceptions") with
  | [] => false
  | node :: _ => saysTrue node.firstContent

def readPort (text : Text) (opcuaPort : BitVec 16) : Except ConfigError (BitVec 16) :=
  if text.isEmpty then .ok opcuaPort else ((stoi text).map (BitVec.ofInt 16)).mapError .standard

/-- The `server` element. The application may have a name of its own. -/
def readServer (applicationName : Option Text) (server : Option XmlNode) (settings : ServerSettings) :
    Except ConfigError ServerSettings :=
  match server with
  | none => .ok { settings with rootFolder := settings.applicationName }
  | some node => do
    let opcuaPort ← readPort (node.attributeValue "port") settings.opcuaPort
    let name := orDefault (node.attributeValue "applicationName") (applicationName.getD "ChimeraTK-OPC-UA-Adapter")
    return { settings with
      logLevel := (LogLevel.parse (toupper (node.attributeValue "logLevel"))).getD settings.logLevel
      opcuaPort
      applicationName := name
      rootFolder := orDefault settings.rootFolder name }

def readLds (lds : Option XmlNode) (settings : ServerSettings) : ServerSettings :=
  match lds with
  | none => settings
  | some node => { settings with
      ldsAddress := orDefault (node.attributeValue "address") settings.ldsAddress
      ldsRegistryName := orDefault (node.attributeValue "registryName") settings.ldsRegistryName
      -- what `stoull` throws is caught, also for the empty text
      ldsRegisterPeriod := (stoull (node.attributeValue "registerPeriod")).toOption.getD settings.ldsRegisterPeriod
      registerLDS := saysTrue (node.attributeValue "register") }

def readVoidHandling (voidHandling : Option XmlNode) (settings : ServerSettings) : ServerSettings :=
  match voidHandling with
  | none => settings
  | some node =>
    let useBool := node.attributeValue "useBool"
    if useBool.isEmpty then settings else { settings with useBoolAsVoid := saysTrue useBool }

/-- A `setup` element of the file. -/
def setupElement (influxError : Option Text) (node : XmlNode) : SetupElement where
  name := node.getProp "name"
  useInfluxBackend := node.getProp "useInfluxBackend"
  bufferLength := node.getProp "buffer_length"
  entriesPerResponse := node.getProp "entries_per_response"
  interval := node.getProp "interval"
  influxError

/-- The setups below all `historizing` elements, if the config element has one of them. -/
def setupElements (influxError : Option Text) (document config : XmlNode) : List SetupElement :=
  if config.children.any (XmlNode.isElement "historizing") then
    ((document.named "historizing").flatMap fun node => node.children.filter (XmlNode.isElement "setup")).map
      (setupElement influxError)
  else []

/-- The adapter as the settings leave it. -/
def adapter (settings : ServerSettings) : UaAdapter where
  serverConfig := ⟨settings.rootFolder, settings.descriptionFolder, settings.useBoolAsVoid, [], []⟩
  pvSeparator := settings.pvSeparator
  mappingExceptions := settings.mappingExceptions

def readHistory (elements : List SetupElement) (settings : ServerSettings) : Except ConfigError ServerSettings := do
  let history ← (Effects.outcome (Mapping.readHistorizing elements) settings.adapter).1.mapError .raised
  return { settings with history }

/-- The attributes of the config element itself. -/
def readRootFolder (config : XmlNode) (settings : ServerSettings) : ServerSettings := { settings with
  rootFolder := orDefault (config.attributeValue "rootFolder") settings.rootFolder
  descriptionFolder := orDefault (config.attributeValue "description") settings.descriptionFolder }

/-- What is read below the first `config`. -/
def readInside (applicationName influxError : Option Text) (document : XmlNode) (config : Option XmlNode) :
    Except ConfigError ServerSettings :=
  match config with
  | none => .ok {}
  | some config => do
    let server ← single "server" (config.inside "server")
    let settings ← readServer applicationName server { mappingExceptions := readMappingExceptions config }
    let lds ← single "lds" (config.inside "lds")
    let voidHandling ← single "voidHandling" (config.inside "voidHandling")
    let settings ← readHistory (setupElements influxError document config)
      (readVoidHandling voidHandling (readLds lds settings))
    return readRootFolder config settings

def readLogin (login : Option XmlNode) (settings : ServerSettings) : Except ConfigError ServerSettings :=
  match login with
  | none => .ok { settings with usernamePasswordLogin := false }
  | some node =>
    let password := node.attributeValue "password"
    let username := node.attributeValue "username"
    -- each message names the other attribute
    if password.isEmpty then .error (.raised (.runtimeError "<login>-Tag requires username"))
    else if username.isEmpty then .error (.raised (.runtimeError "<login>-Tag requires password"))
    else .ok { settings with usernamePasswordLogin := true, password, username }

def readSecurity (security : Option XmlNode) (settings : ServerSettings) : ServerSettings :=
  match security with
  | none => { settings with enableSecurity := false }
  | some node =>
    let allowAnyCertificate := node.attributeValue "allowAnyCertificate"
    { settings with
      enableSecurity := true
      unsecure := saysTrue (node.attributeValue "unsecure")
      allowAnyCertificate :=
        if allowAnyCertificate.isEmpty then settings.allowAnyCertificate else saysTrue allowAnyCertificate
      certPath := orDefault (node.attributeValue "certificate") settings.certPath
      keyPath := orDefault (node.attributeValue "privatekey") settings.keyPath
      allowListFolder := orDefault (node.attributeValue "trustlist") settings.allowListFolder
      blockListFolder := orDefault (node.attributeValue "blocklist") settings.blockListFolder
      issuerListFolder := orDefault (node.attributeValue "issuerlist") settings.issuerListFolder }

/-- The separators of all `unroll` elements with the content true, one behind the other. -/
def readSeparator (hierarchies : List XmlNode) : Text :=
  match hierarchies with
  | [] => "/"
  | hierarchy :: _ =>
    (hierarchy.children.filter (XmlNode.isElement "unroll")).flatMap fun node =>
      if saysTrue node.firstContent then node.attributeValue "pathSep" else []

/-- The entries that `readConfig` looks at. -/
def listedEntries (document : XmlNode) : MapFile where
  excludes := (document.named "exclude").map fun node => ⟨node.getProp "sourceName"⟩
  folders := (document.named "folder").map fun node =>
    { sourceName := node.getProp "sourceName", history := node.getProp "history" }

/-- `influxError` is what setting up the client for InfluxDB throws, if anything. -/
def readConfig (applicationName influxError : Option Text) (document : XmlNode) : Except ConfigError ServerSettings := do
  let config ← single "config" (document.named "config")
  let inside (tag : Text) : List XmlNode := config.elim [] (XmlNode.inside tag)
  let settings ← readInside applicationName influxError document config
  let login ← single "login" (inside "login")
  let settings ← readLogin login settings
  let security ← single "security" (inside "security")
  return { readSecurity security settings with
    pvSeparator := readSeparator (inside "process_variable_hierarchy")
    exclude := (listedEntries document).exclude
    folderWithHistory := (listedEntries document).folderWithHistory }

end ServerSettings

end OpcUaAdapter
