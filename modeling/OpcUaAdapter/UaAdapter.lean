import OpcUaAdapter.AddressSpace
import OpcUaAdapter.ImplicitMapping

/-! The adapter's own tables and the nodes it adds for folders and process variables:
the implicit mapping, and what the mapping by file entries is built from. -/

namespace OpcUaAdapter

structure AdapterFolderHistorySetup where
  folderHistorizing : Text
  folderId : NodeId
deriving DecidableEq

structure AdapterPVHistorySetup where
  variableHistorizing : Text
  variableId : NodeId
deriving DecidableEq

structure ServerConfig where
  rootFolder : Text
  descriptionFolder : Text := []
  useBoolAsVoid : Bool := false
  historyfolders : List AdapterFolderHistorySetup := []
  historyvariables : List AdapterPVHistorySetup := []
deriving DecidableEq

structure FolderInfo where
  folderName : Text
  folderNodeId : NodeId
  prevFolderNodeId : NodeId
deriving DecidableEq

/-- A `ua_processvariable`. -/
structure UaProcessVariable where
  namePV : Text
  nameNew : Text
  baseNodeId : NodeId
  ownNodeId : NodeId := .null
  engineeringUnit : Text := []
  description : Text := []
deriving DecidableEq

/-- A `ua_additionalvariable`. -/
structure UaAdditionalVariable where
  name : Text
  value : Text
  description : Text
  baseNodeId : NodeId
  ownNodeId : NodeId := .null
deriving DecidableEq

/-- The manager of the control system. It finds its variables by their names without
the slash in front, and throws for other names. -/
structure ControlSystemPVManager where
  getAllProcessVariables : List ProcessVariable
  getProcessVariable : Text → Option ProcessVariable
  finds : ∀ oneProcessVariable ∈ getAllProcessVariables,
    getProcessVariable (oneProcessVariable.name.drop 1) = some oneProcessVariable

/-- Steps that are noted. The last element of an empty sequence, a node id whose text is gone and
a value that is not there have no defined behaviour. A length below zero has: `size_t` wraps, and
`substr` then takes all of the text. -/
inductive UndefinedStep where
  | emptyBack
  | sizeUnderflow
  | danglingNodeId
  | missingValue
deriving DecidableEq

/-- A `ua_uaadapter`. The list of the ids it has asked a node for is not in the source,
nor are the notes. -/
structure UaAdapter where
  serverConfig : ServerConfig
  pvSeparator : Text := "/"
  mappingExceptions : Bool := false
  ownNodeId : NodeId := .null
  folderVector : List FolderInfo := []
  /-- The member `variables`. -/
  variableVector : List UaProcessVariable := []
  additionalVariables : List UaAdditionalVariable := []
  space : AddressSpace := .initial
  requested : List NodeId := []
  warnings : List Text := []
  undefinedSteps : List UndefinedStep := []

def parseVariablePath (variablePath separator : Text) : List Text :=
  (variablePath.splitOnP fun c => separator.contains c).filter fun token => !token.isEmpty

/-- `resize(size() - 3)`, which cuts the `Dir` of a folder's node id. -/
def cutDir (nodeIdString : Text) : Text := nodeIdString.take (nodeIdString.length - 3)

/-- The string of a node id without its `Dir`, empty for a numeric one. -/
def NodeId.baseName : NodeId → Text
  | .string identifier => cutDir identifier
  | .numeric _ _ => []

/-- The names of the nodes below a process variable, in the order they are added. -/
def pvChildNames : List Text := ["Name", "Description", "EngineeringUnit", "Type", "Validity"]

def pvChildNode (pvNodePath namePV child : Text) : UaNode where
  nodeId := .string (pvNodePath ++ '/' :: child)
  nodeClass := .variable
  browseName := child
  displayName := child
  description :=
    if child = "Type" then "Data type used in ChimeraTK"
    else if child = "Validity" then "Data validity. 0: faulty, 1: ok"
    else []
  value := if child = "Name" then some namePV else none

namespace UaAdapter

variable (server : UaServer)

/-- Asks the server for a node. -/
def addNode (adapter : UaAdapter) (node : UaNode) (parent : NodeId) (referenceType : ReferenceType)
    (typeDefinition : Option NodeId) : NodeId × UaAdapter :=
  let added := adapter.space.addNode server node parent referenceType typeDefinition
  (added.1, { adapter with space := added.2, requested := adapter.requested ++ [node.nodeId] })

def mapSelfToNamespace (adapter : UaAdapter) : UaAdapter :=
  let config := adapter.serverConfig
  let root := adapter.addNode server
    { nodeId := .string (config.rootFolder ++ "Dir"), nodeClass := .object, browseName := config.rootFolder
      displayName := config.rootFolder, description := config.descriptionFolder }
    objectsFolder .organizes (some ctkModule)
  let configNode := root.2.addNode server
    { nodeId := .string "ServerConfigurationDir", nodeClass := .object, browseName := "ServerConfiguration"
      displayName := "ServerConfiguration", description := "Here adapter configurations are placed." }
    objectsFolder .organizes (some ctkModule)
  let logLevel := configNode.2.addNode server
    { nodeId := .string "logLevel", nodeClass := .variable, browseName := "logLevel", displayName := "logLevel" }
    configNode.1 .organizes (some baseDataVariableType)
  { logLevel.2 with ownNodeId := root.1 }

def existFolder (adapter : UaAdapter) (base : NodeId) (folder : Text) : NodeId :=
  match adapter.folderVector.find? fun i => i.folderName = folder && i.prevFolderNodeId = base with
  | some i => i.folderNodeId
  | none => .null

def existFolderPath (adapter : UaAdapter) : NodeId → List Text → NodeId
  | base, [] => base
  | base, folder :: path =>
    let lastNodeId := adapter.existFolder base folder
    if lastNodeId.isNull then .null else adapter.existFolderPath lastNodeId path

def createUAFolder (adapter : UaAdapter) (base : NodeId) (folderName description : Text) : NodeId × UaAdapter :=
  let nodeIdString := match base with
    | .string identifier => cutDir identifier ++ '/' :: folderName ++ "Dir"
    | .numeric _ identifier => '/' :: intText identifier ++ "Dir"
  adapter.addNode server
    { nodeId := .string nodeIdString, nodeClass := .object, browseName := folderName
      displayName := folderName, description }
    base .organizes (some folderType)

/-- Null for a folder that exists. -/
def createFolder (adapter : UaAdapter) (base : NodeId) (folderName : Text) (description : Text := []) :
    NodeId × UaAdapter :=
  if base.isNull then (.null, adapter)
  else if (adapter.existFolder base folderName).isNull then
    let created := adapter.createUAFolder server base folderName description
    (created.1,
      { created.2 with folderVector := created.2.folderVector ++ [⟨folderName, created.1, base⟩] })
  else (.null, adapter)

/-- The part of the path that exists already, but for its last folder: where it ends and
the folders that are left. -/
def partlyExisting (adapter : UaAdapter) : NodeId → List Text → NodeId × List Text
  | nextNodeId, folder :: next :: path =>
    match adapter.folderVector.find? fun i => folder = i.folderName && i.prevFolderNodeId = nextNodeId with
    | some i => adapter.partlyExisting i.folderNodeId (next :: path)
    | none => (nextNodeId, folder :: next :: path)
  | nextNodeId, path => (nextNodeId, path)

def createFolders (adapter : UaAdapter) : NodeId → List Text → NodeId × UaAdapter
  | prevNodeId, [] => (prevNodeId, adapter)
  | prevNodeId, folder :: path =>
    let created := adapter.createFolder server prevNodeId folder
    createFolders created.2 created.1 path

def createFolderPath (adapter : UaAdapter) (base : NodeId) (folderPath : List Text) : NodeId × UaAdapter :=
  if base.isNull then (.null, adapter)
  else if (adapter.existFolderPath base folderPath).isNull then
    adapter.createFolders server (adapter.partlyExisting base folderPath).1 (adapter.partlyExisting base folderPath).2
  else (adapter.existFolderPath base folderPath, adapter)

def enrollFolderPathFromString (adapter : UaAdapter) (path separator : Text) : NodeId × UaAdapter :=
  let varPathVector := if separator.isEmpty then [] else parseVariablePath path separator
  if varPathVector.isEmpty then (.null, adapter)
  else adapter.createFolderPath server adapter.ownNodeId varPathVector.dropLast

/-- `addPVChildNodes` stops at the first node the server does not add. -/
def addPVChildNodes (adapter : UaAdapter) (pvNodeId : NodeId) (pvNodePath namePV : Text) : List Text → UaAdapter
  | [] => adapter
  | child :: children =>
    let created := adapter.addNode server (pvChildNode pvNodePath namePV child) pvNodeId .hasComponent
      (some baseDataVariableType)
    if created.1.isNull then created.2 else addPVChildNodes created.2 pvNodeId pvNodePath namePV children

/-- `ua_processvariable::mapSelfToNamespace`, with the node id the variable gets. -/
def mapVariable (adapter : UaAdapter) (base : NodeId) (oneProcessVariable : ProcessVariable) (namePV nameNew : Text) :
    NodeId × UaAdapter :=
  let nodePath := base.baseName ++ '/' :: nameNew
  if adapter.space.hasDataType (.string nodePath) then
    (.null, { adapter with requested := adapter.requested ++ [.string nodePath] })
  else
    let created := adapter.addNode server
      { nodeId := .string nodePath, nodeClass := .variable, browseName := nameNew
        displayName := nameNew, description := oneProcessVariable.description }
      base .hasComponent (some ctkVariable)
    (created.1, created.2.addPVChildNodes server created.1 nodePath namePV pvChildNames)

def mapVoidInput (adapter : UaAdapter) (base : NodeId) (oneProcessVariable : ProcessVariable) (nameNew : Text) :
    NodeId × UaAdapter :=
  adapter.addNode server
    { nodeId := .string (base.baseName ++ '/' :: nameNew), nodeClass := .method, browseName := nameNew
      displayName := nameNew, description := oneProcessVariable.description }
    base .hasComponent none

/-- `ua_additionalvariable::mapSelfToNamespace`, with the node id the variable gets. -/
def mapAdditionalVariable (adapter : UaAdapter) (base : NodeId) (name description : Text) : NodeId × UaAdapter :=
  let created := adapter.addNode server
    { nodeId := .string (base.baseName ++ '/' :: name ++ "AdditionalVariable"), nodeClass := .variable
      browseName := name, displayName := name, description }
    base .hasComponent (some ctkAdditionalVariable)
  let described := created.2.addNode server
    { nodeId := .string (base.baseName ++ '/' :: name ++ "/Description"), nodeClass := .variable
      browseName := description, displayName := "Description", description }
    created.1 .hasComponent (some baseDataVariableType)
  (created.1, described.2)

/-- The constructor of `ua_additionalvariable`. -/
def newAdditionalVariable (adapter : UaAdapter) (base : NodeId) (name value description : Text) :
    UaAdditionalVariable × UaAdapter :=
  let mapped := if base.isNull then (.null, adapter) else adapter.mapAdditionalVariable server base name description
  ({ name, value, description, baseNodeId := base, ownNodeId := mapped.1 }, mapped.2)

/-- Whether a method node is used for the variable. -/
def usesMethod (adapter : UaAdapter) (oneProcessVariable : ProcessVariable) : Bool :=
  oneProcessVariable.valueType = .void && !adapter.serverConfig.useBoolAsVoid

/-- The constructor of `ua_processvariable`, for a variable the manager knows. -/
def newProcessVariable (adapter : UaAdapter) (base : NodeId) (oneProcessVariable : ProcessVariable)
    (namePV overwriteNodeString : Text) : UaProcessVariable × UaAdapter :=
  let nameNew := if overwriteNodeString.isEmpty then namePV else overwriteNodeString
  let mapped :=
    if base.isNull then (.null, adapter)
    else if adapter.usesMethod oneProcessVariable then adapter.mapVoidInput server base oneProcessVariable nameNew
    else adapter.mapVariable server base oneProcessVariable namePV nameNew
  ({ namePV, nameNew, baseNodeId := base, ownNodeId := mapped.1 }, mapped.2)

/-- For a variable the manager lists, so that the manager finds it. -/
def implicitVarMapping (adapter : UaAdapter) (oneProcessVariable : ProcessVariable) : UaAdapter :=
  let varName := oneProcessVariable.name
  let lastToken := ((parseVariablePath varName adapter.pvSeparator).getLast?).getD []
  let folderPath := adapter.enrollFolderPathFromString server varName adapter.pvSeparator
  let created :=
    if folderPath.1.isNull then
      folderPath.2.newProcessVariable server adapter.ownNodeId oneProcessVariable (varName.drop 1) []
    else folderPath.2.newProcessVariable server folderPath.1 oneProcessVariable (varName.drop 1) lastToken
  { created.2 with
    variableVector := created.2.variableVector ++ [created.1]
    space := created.2.space.writeDisplayName created.1.ownNodeId lastToken }

/-- The loop over the variables in the constructor of the adapter. -/
def implicitMapping (adapter : UaAdapter) (csManager : ControlSystemPVManager) (mapFile : MapFile) : UaAdapter :=
  ((mappingLoop mapFile csManager.getAllProcessVariables).implicitlyMapped.filterMap fun name =>
    csManager.getProcessVariable (name.drop 1)).foldl (implicitVarMapping server) adapter

end UaAdapter

end OpcUaAdapter
