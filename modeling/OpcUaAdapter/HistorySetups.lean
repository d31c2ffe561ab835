import OpcUaAdapter.ExplicitMapping
import OpcUaAdapter.Historizing

/-! The history setups of the config element, as `readConfig` collects them, and the
registration of the nodes with a history by these setups. -/

namespace OpcUaAdapter

inductive HistorizingBackend where
  | circular
  | influxDB
deriving DecidableEq

/-- An `AdapterHistorySetup` with its backend. -/
structure HistorySetup extends AdapterHistorySetup where
  backend : HistorizingBackend := .circular
deriving DecidableEq

/-- A `setup` element below `historizing`. -/
structure SetupElement where
  line : Nat := 0
  name : Option Text := none
  useInfluxBackend : Option Text := none
  bufferLength : Option Text := none
  entriesPerResponse : Option Text := none
  interval : Option Text := none
  /-- What is thrown when the client is set up from `influx_config.xml`, if anything is. -/
  influxError : Option Text := none

/-- The setups that were read, and whether there is a client for InfluxDB. -/
structure HistoryConfig where
  history : List HistorySetup := []
  influxClient : Bool := false
deriving DecidableEq

/-- `sscanf` with `%zu`, which leaves a value alone that it does not find. -/
def sscanfZu (text : Text) (value : Nat) : Nat := ((strtoul (cStr text)).map (·.1)).getD value

namespace SetupElement

variable (element : SetupElement)

def historyName : Text := getAttributeValueFromNode element.name

def backend : HistorizingBackend :=
  if toupper (getAttributeValueFromNode element.useInfluxBackend) = "TRUE" then .influxDB else .circular

/-- The setup that an element describes when nothing is missing. -/
def setup : HistorySetup where
  name := element.historyName
  backend := element.backend
  bufferLength :=
    if element.backend = .circular then sscanfZu (getAttributeValueFromNode element.bufferLength) 100 else 100
  entriesPerResponse := sscanfZu (getAttributeValueFromNode element.entriesPerResponse) 100
  interval := sscanfZu (getAttributeValueFromNode element.interval) 1000

end SetupElement

namespace Mapping

/-- An error that makes a setup incomplete. -/
def setupError (errorMessage consequenceMessage : Text) (line : Int) : Mapping Bool := do
  raiseError errorMessage consequenceMessage line
  return true

def notAdded (historyName : Text) : Text :=
  "History configuration " ++ historyName ++ " is not added to the list of available history configurations"

def requireName (element : SetupElement) : Mapping Bool :=
  if !element.historyName.isEmpty then pure false
  else
    setupError "Missing history parameter 'name'."
      "History configuration is not added to the list of available history configurations" element.line

/-- A parameter that an element has to have. -/
def requireParameter (element : SetupElement) (parameter : Option Text) (errorMessage : Text) : Mapping Bool :=
  if !(getAttributeValueFromNode parameter).isEmpty then pure false
  else setupError errorMessage (notAdded element.historyName) element.line

/-- The client for InfluxDB, which is set up again for each element that uses it. -/
def setUpInflux (element : SetupElement) : Mapping Bool :=
  match element.influxError with
  | none => pure false
  | some what =>
    setupError ("Failed to initialize InfluxDB client from file 'influx_config.xml' with error: " ++ what)
      (notAdded element.historyName) element.line

/-- One round of the loop over the setups in `readConfig`. -/
def readSetup (config : HistoryConfig) (element : SetupElement) : Mapping HistoryConfig := do
  let unnamed ← requireName element
  let influxFailed ← (if element.backend = .influxDB then setUpInflux element else pure false : Mapping Bool)
  let bufferMissing ←
    (if element.backend = .circular then
      requireParameter element element.bufferLength "Missing history parameter 'buffer_length'."
    else pure false : Mapping Bool)
  let entriesMissing ←
    requireParameter element element.entriesPerResponse "Missing history parameter 'entries_per_response'."
  let intervalMissing ← requireParameter element element.interval "Missing history parameter 'interval'."
  let incomplete := unnamed || influxFailed || bufferMissing || entriesMissing || intervalMissing
  let influxClient := config.influxClient || (element.backend = .influxDB && !influxFailed)
  if config.history.any fun confEntry => element.historyName = confEntry.name then
    raiseError "Redefinition of history configuration." (notAdded element.historyName)
    return { config with influxClient }
  else if incomplete then return { config with influxClient }
  else return { history := config.history ++ [element.setup], influxClient }

/-- The setups of all `historizing` elements. -/
def readHistorizing (elements : List SetupElement) : Mapping HistoryConfig := elements.foldlM readSetup {}

end Mapping

/-- What `registerNodeId` is given for a node. -/
inductive RegisteredBackend where
  | memoryCircular (nodes bufferLength : Nat)
  | influx (client : Bool) (shortNodeName engineeringUnit : Text)
deriving DecidableEq

structure NodeRegistration where
  nodeId : NodeId
  historizingBackend : RegisteredBackend
  maxHistoryDataResponseSize : Nat
  pollingInterval : Nat
deriving DecidableEq

/-- The last part of a node id behind a slash, or the whole of it. -/
def shortNodeName (nodeId : NodeId) : Text :=
  let name := match nodeId with
    | .string identifier => identifier
    | .numeric _ identifier => 'i' :: intText identifier
  match rfind "/" name with
  | some slash => (name.drop (slash + 1)).take (name.length - 1)
  | none => name

/-- The unit below a variable, where there is one. -/
def readEngineeringUnit (readValue : NodeId → Option Text) (nodeId : NodeId) : Text :=
  match nodeId with
  | .string pvNodeName => (readValue (.string (pvNodeName ++ "/EngineeringUnit"))).getD []
  | .numeric _ _ => []

namespace HistoryConfig

variable (config : HistoryConfig)

/-- The setup a node is registered with: the last one of the name, and a new one if there is none. -/
def hist (setup : Text) : HistorySetup :=
  config.history.foldl (fun hist j => if setup = j.name then j else hist) { name := [] }

/-- The loop at the end of `add_historizing_nodes`. -/
def registrations (readValue : NodeId → Option Text) (table : HistorizingTable) : List NodeRegistration :=
  (table.historizingNodes.zip table.historizingSetup).map fun (nodeId, setup) =>
    let hist := config.hist setup
    { nodeId
      historizingBackend := match hist.backend with
        | .circular => .memoryCircular table.historizingNodes.length hist.bufferLength
        | .influxDB =>
          .influx config.influxClient (shortNodeName nodeId) (readEngineeringUnit readValue nodeId)
      maxHistoryDataResponseSize := hist.entriesPerResponse
      pollingInterval := hist.interval }

end HistoryConfig

/-- `set_variable_access_level_historizing`, for the access levels of the nodes. -/
def setAccessLevelHistorizing (accessLevel : NodeId → BitVec 8) (id : NodeId) : NodeId → BitVec 8 :=
  if accessLevel id &&& 0x01#8 ≠ 0#8 then Function.update accessLevel id (accessLevel id ||| 0x04#8) else accessLevel

def setAccessLevelsHistorizing (accessLevel : NodeId → BitVec 8) (table : HistorizingTable) : NodeId → BitVec 8 :=
  table.historizingNodes.foldl setAccessLevelHistorizing accessLevel

end OpcUaAdapter
