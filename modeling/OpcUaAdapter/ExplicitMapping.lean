import OpcUaAdapter.UaAdapter

/-! The mapping by the entries of the map file: folders, process variables and additional
variables, applied one after the other to the adapter. An entry that fails leaves the
adapter as it is by then. -/

namespace OpcUaAdapter

/-- What ends the mapping: an error that is thrown, a process variable the manager does not
know, and a recursion that does not come back. -/
inductive MappingError where
  | runtimeError (message : Text)
  | unknownProcessVariable (name : Text)
  | unfinished
deriving DecidableEq

abbrev Mapping := ExceptT MappingError (StateM UaAdapter)

/-- The content of the first element with a name, where there is one. -/
def elementContent (element : Option Text) : Text := (element.map getContentFromNode).getD []

def toupper (text : Text) : Text := text.map Char.toUpper

namespace Mapping

def note (step : UndefinedStep) : Mapping Unit :=
  modify fun adapter => { adapter with undefinedSteps := adapter.undefinedSteps ++ [step] }

/-- An `if` without an `else`. -/
def when (condition : Bool) (effect : Mapping Unit) : Mapping Unit := if condition then effect else pure ()

def withPeriod (message : Text) : Text := if message.getLast? = some '.' then message else message ++ "."

def raiseError (errorMessage consequenceMessage : Text) (line : Int := -1) : Mapping Unit := do
  let lineMessage : Text := if 0 < line then " Mapping line number: " ++ intText line ++ "." else []
  when (errorMessage.isEmpty || consequenceMessage.isEmpty) (note .emptyBack)
  if (← get).mappingExceptions then
    throw (.runtimeError ("Error! " ++ withPeriod errorMessage ++ lineMessage))
  else
    modify fun adapter =>
      { adapter with
        warnings := adapter.warnings ++
          [withPeriod errorMessage ++ ' ' :: (withPeriod consequenceMessage ++ lineMessage)] }

/-- `parseVariablePath(path, "/").back()`. -/
def lastToken (path : Text) : Mapping Text := do
  let tokens := parseVariablePath path "/"
  when tokens.isEmpty (note .emptyBack)
  return tokens.getLast?.getD []

def writeDescription (nodeId : NodeId) (description : Text) : Mapping Unit :=
  modify fun adapter => { adapter with space := adapter.space.writeDescription nodeId description }

def writeDisplayName (nodeId : NodeId) (displayName : Text) : Mapping Unit :=
  modify fun adapter => { adapter with space := adapter.space.writeDisplayName nodeId displayName }

section

variable (server : UaServer) (csManager : ControlSystemPVManager)

def addReference (reference : UaReference) : Mapping Unit :=
  modify fun adapter => { adapter with space := adapter.space.addReference server reference }

def createFolder (base : NodeId) (folderName : Text) : Mapping NodeId :=
  modifyGet fun adapter => adapter.createFolder server base folderName

def enrollFolderPathFromString (path separator : Text) : Mapping NodeId :=
  modifyGet fun adapter => adapter.enrollFolderPathFromString server path separator

def newProcessVariable (base : NodeId) (namePV overwriteNodeString : Text) : Mapping UaProcessVariable :=
  match csManager.getProcessVariable namePV with
  | none => throw (.unknownProcessVariable namePV)
  | some oneProcessVariable =>
    modifyGet fun adapter => adapter.newProcessVariable server base oneProcessVariable namePV overwriteNodeString

def pushVariable (processVariable : UaProcessVariable) : Mapping Unit :=
  modify fun adapter => { adapter with variableVector := adapter.variableVector ++ [processVariable] }

/-- The name of the process variable below a node. -/
def readSourceName (nodeId : NodeId) : Mapping Text := do
  let adapter ← get
  let nameNode := match nodeId with
    | .string identifier => adapter.space.find? (.string (identifier ++ "/Name"))
    | .numeric _ _ => none
  match nameNode.bind (·.value) with
  | some name => return name
  | none => do
    note .missingValue
    return []

/-- The copy of one component of a folder. Methods are not copied. -/
def copyComponent (target : NodeId) (rd : UaNode) : Mapping Unit :=
  if rd.nodeClass = .variable then do
    let foundPVSourceName ← readSourceName rd.nodeId
    let _varName ← lastToken rd.displayName
    pushVariable (← newProcessVariable server csManager target foundPVSourceName rd.displayName)
  else pure ()

/-- Whether a method was found. The fuel is the depth of the recursion. -/
def deepCopyHierarchicalLayer : Nat → NodeId → NodeId → Mapping Bool
  | 0, _, _ => throw .unfinished
  | fuel + 1, layer, target => do
    let components := (← get).space.browseForward layer .hasComponent [.variable, .method]
    components.forM (copyComponent server csManager target)
    let folders := (← get).space.browseForward layer .organizes [.object]
    let foundBelow ← folders.mapM fun rd => do
      match (← get).space.find? rd.nodeId with
      | none => return false
      | some folder => do
        let newRootFolder ← createFolder server target folder.displayName
        when (!folder.description.isEmpty) (writeDescription newRootFolder folder.description)
        deepCopyHierarchicalLayer fuel rd.nodeId newRootFolder
    return (components.any fun rd => rd.nodeClass = .method) || foundBelow.any id

/-- The history of a folder, by its new name or by its source. -/
def addFolderHistory (entry : FolderEntry) (sourceName copy destination folder history : Text) : Mapping Unit := do
  when sourceName.isEmpty (raiseError "Can not add history if no sourceName attribute is set." [] entry.line)
  let rootFolder := (← get).serverConfig.rootFolder
  let add (folderNodeId : Text) : Mapping Unit := modify fun adapter =>
    { adapter with
      serverConfig.historyfolders := adapter.serverConfig.historyfolders ++ [⟨history, .string folderNodeId⟩] }
  if entry.name.isSome then
    if entry.destination.isSome && !destination.isEmpty then
      add (rootFolder ++ '/' :: destination ++ '/' :: folder ++ "Dir")
    else add (rootFolder ++ '/' :: folder ++ "Dir")
  else if copy.isEmpty || copy = "FALSE" then add (rootFolder ++ '/' :: sourceName ++ "Dir")
  else raiseError "Can not add history if copy is true and no source name is given." [] entry.line

/-- The folder an entry goes to: the root folder where the path cannot be enrolled. There the
source's node id points into a text that is gone by then; this is noted, and the mapping goes on
with the id that is meant. -/
def enrollDestination (destination : Text) : Mapping NodeId := do
  let folderPathNodeId ← enrollFolderPathFromString server (destination ++ "/replacePart") "/"
  if folderPathNodeId.isNull then
    note .danglingNodeId
    return .string ((← get).serverConfig.rootFolder ++ "Dir")
  else return folderPathNodeId

/-- The folder a copy goes to when it is not created. Here too the source's node id dangles, and
the mapping goes on with the id that is meant. -/
def existingDestination (destination folder : Text) : Mapping NodeId := do
  note .danglingNodeId
  if destination.isEmpty then return .string ((← get).serverConfig.rootFolder ++ '/' :: folder ++ "Dir")
  else
    -- `existingDestinationFolderString = this->serverConfig.rootFolder += ..`
    modify fun adapter =>
      { adapter with
        serverConfig.rootFolder := adapter.serverConfig.rootFolder ++ '/' :: destination ++ '/' :: folder ++ "Dir" }
    return .string (← get).serverConfig.rootFolder

/-- The folder is copied; tells whether a method was found on the way. -/
def copyFolder (fuel : Nat) (sourceFolderId folderPathNodeId : NodeId) (destination folder description : Text) :
    Mapping Bool := do
  let created ← createFolder server folderPathNodeId folder
  let copyRoot ← (if created.isNull then existingDestination destination folder else pure created : Mapping NodeId)
  let foundMethod ← deepCopyHierarchicalLayer server csManager fuel sourceFolderId copyRoot
  when (!description.isEmpty) (writeDescription copyRoot description)
  return foundMethod

/-- The content of the folder is linked: all of it, or the methods that were not copied. -/
def linkFolder (sourceFolderId folderPathNodeId : NodeId) (destination folder description : Text)
    (foundMethod : Bool) : Mapping Unit := do
  let adapter ← get
  let existing := if foundMethod then adapter.existFolder folderPathNodeId folder else .null
  let created ←
    (if existing.isNull then createFolder server folderPathNodeId folder else pure existing : Mapping NodeId)
  when (!created.isNull && !description.isEmpty) (writeDescription created description)
  let rootFolder := (← get).serverConfig.rootFolder
  let copyRoot : NodeId :=
    if !created.isNull then created
    else if destination.isEmpty then .string (rootFolder ++ '/' :: folder)
    else .string (rootFolder ++ '/' :: destination ++ '/' :: folder)
  let subfolders := ((← get).space.browseForward sourceFolderId .organizes [.object]).take 1000
  subfolders.forM fun rd => addReference server ⟨copyRoot, .organizes, rd.nodeId⟩
  let nodeClasses := if foundMethod then [.method] else [.variable, .method]
  let components := ((← get).space.browseForward sourceFolderId .hasComponent nodeClasses).take 1000
  components.forM fun rd => addReference server ⟨copyRoot, .hasComponent, rd.nodeId⟩

def sourceAndDestinationEqual (sourceName destination folder : Text) : Bool :=
  if !destination.isEmpty then sourceName = destination ++ '/' :: folder else sourceName = folder

/-- A folder entry with a source, whose target does not exist. -/
def mapSourceFolder (fuel : Nat) (entry : FolderEntry) (folderPathNodeId : NodeId)
    (sourceName copy destination folder description : Text) : Mapping Unit := do
  if (destination.isEmpty && sourceName = folder) ||
      (!destination.isEmpty && sourceName = destination ++ '/' :: folder) then
    raiseError "Folder creation failed. Source and Destination equal." "Skipping Folder." entry.line
  else
    let sourceFolderId : NodeId := .string ((← get).serverConfig.rootFolder ++ '/' :: sourceName ++ "Dir")
    if !(← get).space.isFolder sourceFolderId then
      raiseError ("Folder creation failed. No corresponding source folder: " ++ sourceName) "Skipping Folder."
        entry.line
    else
      if copy = "TRUE" && sourceAndDestinationEqual sourceName destination folder then
        raiseError ("Folder creation failed. Source and destination must be different for '" ++ sourceName ++
          "' folder.") "Skipping Folder." entry.line
      else
        let foundMethod ←
          (if copy = "TRUE" then
            copyFolder server csManager fuel sourceFolderId folderPathNodeId destination folder description
          else pure false : Mapping Bool)
        when (copy ≠ "TRUE" || foundMethod)
          (linkFolder server sourceFolderId folderPathNodeId destination folder description foundMethod)

/-- A folder entry with a name. -/
def placeFolder (fuel : Nat) (entry : FolderEntry) (sourceName copy destination folder description : Text) :
    Mapping Unit := do
  let adapter ← get
  let rootFolder := adapter.serverConfig.rootFolder
  let pvNode : NodeId :=
    if destination.isEmpty then .string (rootFolder ++ '/' :: folder ++ "Dir")
    else .string (rootFolder ++ '/' :: destination ++ '/' :: folder ++ "Dir")
  if adapter.space.hasNode pvNode then
    if sourceName.isEmpty && !description.isEmpty then writeDescription pvNode description
    else
      raiseError "Folder with source mapping failed. Target folder node id exists."
        ("Skipping folder: " ++ sourceName) entry.line
  else if !copy.isEmpty && sourceName.isEmpty then
    raiseError ("Source 'name: " ++ folder ++ "' folder missing.") "Skipping Folder." entry.line
  else
    let folderPathNodeId ← enrollDestination server destination
    if !sourceName.isEmpty then
      mapSourceFolder server csManager fuel entry folderPathNodeId sourceName copy destination folder description
    else
      let retnode ← createFolder server folderPathNodeId folder
      when (copy.isEmpty && sourceName.isEmpty && !description.isEmpty) (writeDescription retnode description)

/-- One round of `buildFolderStructure`. -/
def buildFolder (fuel : Nat) (entry : FolderEntry) : Mapping Unit := do
  let sourceName := getAttributeValueFromNode entry.sourceName
  let copy := toupper (getAttributeValueFromNode entry.copy)
  let destination := elementContent entry.destination
  let description := elementContent entry.description
  let folder := elementContent entry.name
  let history := getAttributeValueFromNode entry.history
  when (!history.isEmpty) (addFolderHistory entry sourceName copy destination folder history)
  if folder.isEmpty then
    when history.isEmpty
      (raiseError "Folder creation failed. Name or history assignment is missing." "Skipping Folder." entry.line)
  else placeFolder server csManager fuel entry sourceName copy destination folder description

def buildFolderStructure (fuel : Nat) (folders : List FolderEntry) : Mapping Unit :=
  folders.forM (buildFolder server csManager fuel)

/-- The history of a process variable, by its new name, by its source, or both. -/
def addVariableHistory (entry : ProcessVariableEntry) (sourceName copy history : Text) : Mapping Unit := do
  let rootFolder := (← get).serverConfig.rootFolder
  let add (targetNodeId : Text) : Mapping Unit := modify fun adapter =>
    { adapter with
      serverConfig.historyvariables := adapter.serverConfig.historyvariables ++ [⟨history, .string targetNodeId⟩] }
  let addRenamed : Mapping Unit := match entry.name, entry.destination with
    | some name, none => add (rootFolder ++ '/' :: getContentFromNode name)
    | some name, some destination =>
      add (rootFolder ++ '/' :: getContentFromNode destination.content ++ '/' :: getContentFromNode name)
    | none, _ => pure ()
  addRenamed
  when (!sourceName.isEmpty && (copy.isEmpty || copy = "FALSE")) (add (rootFolder ++ '/' :: sourceName))

/-- The unit and the description of the variables with the node id, where they are given. -/
def setUnitAndDescription (nodeId : NodeId) (unit description : Text) : Mapping Unit := do
  let set (change : UaProcessVariable → UaProcessVariable) : Mapping Unit := modify fun adapter =>
    { adapter with
      variableVector := adapter.variableVector.map fun processVariable =>
        if processVariable.ownNodeId = nodeId then change processVariable else processVariable }
  when (!unit.isEmpty) (set fun processVariable => { processVariable with engineeringUnit := unit })
  when (!description.isEmpty) (set fun processVariable => { processVariable with description })

/-- An entry for a variable in its own place, which changes its unit and description. Of a folder's
references the server is taken to give those that lead from it before those that lead to it, in
the order they were made, and not more than the 20 it is asked for. -/
def updateVariable (line : Nat) (sourceName name unit description : Text) : Mapping Unit := do
  let last ← lastToken sourceName
  let count := sizeMinus sourceName.length (last.length + 1)
  when count.isNone (note .sizeUnderflow)
  let parent := sourceName.take (count.getD sourceName.length)
  let adapter ← get
  let parentSourceFolderId : NodeId := .string (adapter.serverConfig.rootFolder ++ '/' :: parent)
  let references :=
    (adapter.space.browseForward parentSourceFolderId .hasComponent [.variable, .method] ++
      adapter.space.browseInverse parentSourceFolderId .hasComponent [.variable, .method]).take 20
  match (references.filter fun rd => rd.displayName = last).getLast? with
  | none =>
    if !name.isEmpty then
      raiseError ("PV mapping failed. No corresponding source pv for 'name' : '" ++ name) "Skipping PV mapping." line
    else raiseError "PV mapping failed. No corresponding source pv." "Skipping PV mapping." line
  | some rd => setUnitAndDescription rd.nodeId unit description

/-- The folder for the copy of a variable. -/
def variableDestination (destination unrollPath : Text) : Mapping NodeId := do
  if destination.isEmpty then return (← get).ownNodeId
  else if unrollPath.isEmpty then enrollFolderPathFromString server (destination ++ "/removedPart") "/"
  else if (("Variables" : Text) ++ unrollPath).isPrefixOf destination then
    let requestedBrowseName := destination.drop (("Variables" : Text) ++ unrollPath).length
    let adapter ← get
    let requestedPVBrowseId : NodeId :=
      .string (adapter.serverConfig.rootFolder ++ "/Variables/" ++ requestedBrowseName)
    if adapter.space.hasNode requestedPVBrowseId then return requestedPVBrowseId
    else enrollFolderPathFromString server (destination ++ unrollPath ++ "removedPart") unrollPath
  else enrollFolderPathFromString server (destination ++ unrollPath ++ "removedPart") unrollPath

/-- What both ways of mapping a variable end with. -/
def finishVariable (createdNodeId : NodeId) (name unit description : Text) : Mapping Unit := do
  setUnitAndDescription createdNodeId unit description
  writeDisplayName createdNodeId name

def copyVariable (line : Nat) (sourceName destination unrollPath name unit description : Text) : Mapping Unit := do
  if sourceName = destination ++ '/' :: name then
    raiseError "PV mapping failed. Source and destination must be different if copy='true'."
      ("Skipping PV " ++ sourceName) line
  else
    let destinationFolderNodeId ← variableDestination server destination unrollPath
    let name := if name.isEmpty then sourceName else name
    if destinationFolderNodeId.isNull then
      raiseError "Folder creation failed." ("Skipping PV " ++ sourceName) line
    else
      let processVariable ← newProcessVariable server csManager destinationFolderNodeId sourceName name
      if processVariable.ownNodeId.isNull then
        raiseError "PV creation failed. PV with same name mapped." ("Skipping PV " ++ sourceName) line
      else
        pushVariable processVariable
        finishVariable processVariable.ownNodeId name unit description

def linkVariable (parentSourceId : NodeId) (sourceName destination name unit description history : Text) :
    Mapping Unit := do
  let sourceVarName ← lastToken sourceName
  let name := if name.isEmpty then sourceVarName else name
  if sourceVarName ≠ name then
    when history.isEmpty
      (raiseError "PV mapping failed. The pv name can't changed if copy is false."
        ("Skipping PV mapping of pv " ++ name))
  else
    let destinationFolder ← enrollFolderPathFromString server (destination ++ "/removedpart") "/"
    addReference server ⟨destinationFolder, .hasComponent, parentSourceId⟩
    finishVariable parentSourceId name unit description

/-- One round of `explicitVarMapping`. -/
def mapProcessVariable (entry : ProcessVariableEntry) : Mapping Unit := do
  let copy := toupper (getAttributeValueFromNode entry.copy)
  let sourceName := getAttributeValueFromNode entry.sourceName
  let history := getAttributeValueFromNode entry.history
  when (!history.isEmpty) (addVariableHistory entry sourceName copy history)
  let historyName : Text :=
    if !history.isEmpty && !sourceName.isEmpty && (copy.isEmpty || copy = "FALSE") then sourceName else []
  let destination := elementContent (entry.destination.map (·.content))
  let unrollPath := getAttributeValueFromNode (entry.destination.bind (·.unrollPath))
  let name := (entry.name.map getContentFromNode).getD historyName
  let unit := elementContent entry.unit
  let description := elementContent entry.description
  if sourceName.isEmpty then
    if !name.isEmpty then
      raiseError ("PV mapping failed. SourceName missing for 'name' : '" ++ name) "Skipping PV mapping." entry.line
    else raiseError "PV mapping failed. SourceName is missing." "Skipping PV mapping." entry.line
  else if destination ++ '/' :: name = sourceName && copy = "FALSE" then
    updateVariable entry.line sourceName name unit description
  else
    let adapter ← get
    let parentSourceId : NodeId := .string (adapter.serverConfig.rootFolder ++ '/' :: sourceName)
    if !adapter.space.hasNode parentSourceId then
      if !name.isEmpty then
        raiseError ("PV mapping failed. Source PV not found 'name' : '" ++ name) "Skipping PV mapping." entry.line
      else raiseError "PV mapping failed. Source PV not found" "Skipping PV mapping." entry.line
    else if copy = "TRUE" then
      copyVariable server csManager entry.line sourceName destination unrollPath name unit description
    else linkVariable server parentSourceId sourceName destination name unit description history

def explicitVarMapping (processVariables : List ProcessVariableEntry) : Mapping Unit :=
  processVariables.forM (mapProcessVariable server csManager)

/-- One round of `addAdditionalVariables`. -/
def addAdditionalVariable (entry : AdditionalVariableEntry) : Mapping Unit := do
  let destination := elementContent entry.destination
  let name := elementContent entry.name
  let description := elementContent entry.description
  let value := elementContent entry.value
  let adapter ← get
  let rootFolder := adapter.serverConfig.rootFolder
  let folder := if destination.isEmpty then rootFolder else rootFolder ++ '/' :: destination
  if name.isEmpty then
    raiseError "Additional variable node creation failed. Additional variable name is mandatory."
      "Skipping additional variable." entry.line
  else if adapter.space.hasNode (.string (folder ++ '/' :: name ++ "AdditionalVariable")) then
    raiseError "Additional variable node creation failed. Additional variable already exists."
      ("Skipping additional variable " ++ name) entry.line
  else if adapter.space.hasNode (.string (folder ++ '/' :: name ++ "Value")) then
    raiseError "Additional variable node creation failed. PV with same name already exists."
      ("Skipping additional variable " ++ name) entry.line
  else
    let additionalVarFolderPath ←
      (if !destination.isEmpty then enrollFolderPathFromString server (destination ++ "/removePart") "/"
      else pure (.string (rootFolder ++ "Dir")) : Mapping NodeId)
    if additionalVarFolderPath.isNull then
      raiseError "Creation of additional variable folder failed." "Skipping additional variable." entry.line
    else
      let additionalVariable ← modifyGet fun adapter =>
        adapter.newAdditionalVariable server additionalVarFolderPath name value description
      modify fun adapter =>
        { adapter with additionalVariables := adapter.additionalVariables ++ [additionalVariable] }

def addAdditionalVariables (additionalVariables : List AdditionalVariableEntry) : Mapping Unit :=
  additionalVariables.forM (addAdditionalVariable server)

def applyMapping (fuel : Nat) (mapFile : MapFile) : Mapping Unit := do
  buildFolderStructure server csManager fuel mapFile.folders
  explicitVarMapping server csManager mapFile.processVariables
  addAdditionalVariables server mapFile.additionalVariables

end

end Mapping

/-- The sources of the map file that are reported when the mapping is done. -/
def UaAdapter.getAllNotMappableVariablesNames (adapter : UaAdapter) (mapFile : MapFile) : List Text :=
  (mapFile.processVariables.map fun entry => getAttributeValueFromNode entry.sourceName).filter fun mappedVar =>
    let mapped := adapter.variableVector.any fun var => var.namePV = mappedVar
    let historized := adapter.serverConfig.historyvariables.any fun histVar =>
      histVar.variableId = .string (adapter.serverConfig.rootFolder ++ '/' :: mappedVar)
    !mapped && !historized

end OpcUaAdapter
