import OpcUaAdapter.Generator.Config
import OpcUaAdapter.Generator.Directory

/-! Loading and saving map files. A file is the element tree lxml reads or writes; an
element without text reads as `None` although it was written as an empty string. -/

namespace OpcUaAdapter.Generator

/-- The root element of a map file. -/
structure MapDocument where
  tag : Text := "uamapping"
  config : Option ConfigElement := none
  entries : List MapEntry := []

namespace MapDocument

def folders (document : MapDocument) : List FolderEntry :=
  document.entries.filterMap fun | .folder entry => some entry | _ => none

def processVariables (document : MapDocument) : List ProcessVariableEntry :=
  document.entries.filterMap fun | .processVariable entry => some entry | _ => none

def excludes (document : MapDocument) : List ExcludeEntry :=
  document.entries.filterMap fun | .exclude entry => some entry | _ => none

end MapDocument

structure MapGenerator extends Config where
  dir : Option XMLDirectory := none
  options : Options := {}

namespace XMLDirectory

/-- The destination of a directory that is not moved. -/
def tmpDestination (name path : Text) : Text :=
  removeSuffix (removeSuffix (removePrefix (removePrefix path "/root") "/") name) "/"

/-- The path a folder entry gives to a directory, as far as it gives a new name. -/
def tmpPath (name : Text) (folder : FolderEntry) : Text :=
  let start := "/root/".toList ++ (given folder.destination).getD []
  match folder.name.filter (· ≠ name) with
  | some newName => childPath (removeSuffix start "/") newName
  | none => start

/-- What a folder entry with a source changes in the directory it finds. -/
def readFolder (name path : Text) (folder : FolderEntry) : Reading DirectoryOptions Unit := do
  modify fun d => { d with historizing := folder.history.or d.historizing }
  -- an entry without children is only there for the history
  if ¬ (folder.name = none ∧ folder.destination = none ∧ folder.description = none) then
    modify fun d => { d with newDescription := (given folder.description).or d.newDescription }
    let moved := (given folder.destination).filter (tmpDestination name path ≠ ·)
    modify fun d => { d with newDestination := (moved.map ("/root/".toList ++ ·)).or d.newDestination }
    if folder.name = some [] then
      modify fun d => { d with newName := none }
      throw .typeError
    modify fun d => { d with newName := (folder.name.filter (· ≠ name)).or d.newName }
    modify fun d =>
      if d.newDestination = none ∧ tmpPath name folder ≠ path then { d with newDestination := some rootPath } else d

end XMLDirectory

namespace XMLVar

/-- A child element that is there sets the field, to `None` when it has no text. -/
def assignVariable (pv : ProcessVariableEntry) (v : VarOptions) : VarOptions := { v with
  historizing := pv.history.or v.historizing
  newDescription := if pv.description.isSome then given pv.description else v.newDescription
  newUnit := if pv.unit.isSome then given pv.unit else v.newUnit
  newName := if pv.name.isSome then given pv.name else v.newName
  newDestination := match pv.destination with
    | some destination => given (some destination.content)
    | none => v.newDestination }

/-- The variable's own name without a destination stands for a variable that is moved to the root. -/
def moveToRoot (name : Text) (v : VarOptions) : VarOptions :=
  if given v.newDestination = none ∧ some name = v.newName then
    { v with newDestination := some rootPath, newName := none }
  else v

def readProcessVariable (name : Text) (pv : ProcessVariableEntry) (v : VarOptions) : VarOptions :=
  moveToRoot name (assignVariable pv v)

end XMLVar

namespace Options

/-- `reset`, of the whole tree. -/
def reset (options : Options) : Options where
  dir place := { options.dir place with newName := none, newDescription := none, newDestination := none }
  var place := { options.var place with newName := none, newUnit := none, newDescription := none, newDestination := none }

def updateDir (place : Place) (change : DirectoryOptions → DirectoryOptions) (options : Options) : Options :=
  { options with dir := fun other => if place = other then change (options.dir other) else options.dir other }

def updateVar (place : Place × Nat) (change : VarOptions → VarOptions) (options : Options) : Options :=
  { options with var := fun other => if place = other then change (options.var other) else options.var other }

end Options

namespace MapGenerator

/-- What reads the configuration works on the generator itself. -/
def onConfig (effect : Reading Config Unit) : Reading MapGenerator Unit := fun s =>
  let (result, config) := effect s.toConfig
  (result, { s with toConfig := config })

def onDirectory (place : Place) (effect : Reading DirectoryOptions Unit) : Reading MapGenerator Unit := fun s =>
  let (result, own) := effect (s.options.dir place)
  (result, { s with options := s.options.updateDir place fun _ => own })

/-- The path under which a folder entry without a source looks for its directory. -/
def tmpSourceName (folder : FolderEntry) (tmpName : Text) : Text :=
  match given folder.destination with
  | none => "/root/".toList ++ tmpName
  | some tmpDestination => "/root/".toList ++ childPath tmpDestination tmpName

/-- One entry, and whether its source is counted as not found. -/
def readFolderEntry (dir : XMLDirectory) (folder : FolderEntry) : Reading MapGenerator Nat :=
  match folder.sourceName with
  | some sourceName =>
    match dir.findDir ("/root/".toList ++ sourceName) (childPath [] dir.name) [] with
    | some directory => do
      onDirectory directory.place (XMLDirectory.readFolder directory.name directory.path folder)
      return 0
    | none => return 1
  | none =>
    match given folder.name with
    -- `None` cannot be appended to a string
    | none => throw .typeError
    | some tmpName =>
      match dir.findDir (tmpSourceName folder tmpName) (childPath [] dir.name) [] with
      | some directory => do
        if folder.description.isSome then
          onDirectory directory.place (modify fun d => { d with newDescription := given folder.description })
        return 0
      | none => return 1

def readProcessVariableEntry (dir : XMLDirectory) (pv : ProcessVariableEntry) : Reading MapGenerator Nat :=
  match pv.sourceName with
  | none => return 0
  | some sourceName =>
    match dir.findVar ("/root/".toList ++ strip sourceName '/') (childPath [] dir.name) [] with
    | some var => do
      modify fun s => { s with
        options := s.options.updateVar var.place (XMLVar.readProcessVariable var.name pv) }
      return 0
    | none => return 1

def readExcludeEntry (dir : XMLDirectory) (exclude : ExcludeEntry) : Reading MapGenerator Nat :=
  match exclude.sourceName with
  | none => return 0
  | some sourceName =>
    if "/*".toList.isSuffixOf sourceName then
      match dir.findDir ("/root/".toList ++ sourceName.take (sourceName.length - 2)) (childPath [] dir.name) [] with
      | some directory => do
        modify fun s => { s with
          options := s.options.updateDir directory.place fun d => { d with exclude := some true } }
        return 0
      | none => return 1
    else
      match dir.findVar ("/root/".toList ++ sourceName) (childPath [] dir.name) [] with
      | some var => do
        modify fun s => { s with options := s.options.updateVar var.place fun v => { v with exclude := some true } }
        return 0
      | none => return 1

/-- The file is `none` when it cannot be opened or parsed. The result counts the folder,
variable and exclude entries whose source is not found. -/
def parseMapFile (inputFile : Option MapDocument) : Reading MapGenerator (List Nat) := do
  modify fun s => if s.dir.isSome then { s with options := s.options.reset } else s
  match inputFile with
  | none => throw .unreadable
  | some data =>
    if data.tag ≠ "uamapping" then
      throw (.runtimeError "Failed to find uamapping tag. Not an ControlSystem-OPC-UA XML mapping file.")
    onConfig (Config.readConfig data.config)
    match (← get).dir with
    | none => return [0, 0, 0]
    | some dir =>
      let folders ← data.folders.mapM (readFolderEntry dir)
      let pvs ← data.processVariables.mapM (readProcessVariableEntry dir)
      let excludes ← data.excludes.mapM (readExcludeEntry dir)
      return [folders.sum, pvs.sum, excludes.sum]

def save (s : MapGenerator) : Except PythonError MapDocument := do
  let config ← s.createConfig
  let entries := match s.dir with
    | some dir => dir.generateMapEntries s.options (childPath [] dir.name) [] false false
    | none => []
  return { config := some config, entries }

end MapGenerator

/-- The application file: its name and the directories and variables of the root. -/
structure ApplicationFile where
  name : Option Text := none
  dirs : List XMLDirectory := []
  vars : List XMLVar := []

namespace ApplicationFile

def root (file : ApplicationFile) : XMLDirectory := .directory "root" file.dirs file.vars

/-- The `MapGenerator` that is made of an application file. -/
def parseChimeraTK (file : ApplicationFile) : MapGenerator where
  applicationName := file.name
  dir := some file.root

end ApplicationFile

end OpcUaAdapter.Generator
