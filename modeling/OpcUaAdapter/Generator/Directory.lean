import OpcUaAdapter.Generator.PythonText
import OpcUaAdapter.MapFile

/-! The variable tree of an application in the map file generator. The tree itself is what
the application file fixes. What a map file or the editor assigns to its directories and
variables is kept by the place of the object in the tree, which stands for a reference to it. -/

namespace OpcUaAdapter.Generator

deriving instance DecidableEq for ExcludeEntry, FolderEntry, DestinationElement, ProcessVariableEntry

/-- What is assigned to an `XMLDirectory`, from its creation or its last `reset` on. -/
@[ext] structure DirectoryOptions where
  exclude : Option Bool := none
  historizing : Option Text := none
  newName : Option Text := none
  newDescription : Option Text := none
  newDestination : Option Text := none
deriving DecidableEq

/-- What is assigned to an `XMLVar`. -/
@[ext] structure VarOptions where
  exclude : Option Bool := none
  historizing : Option Text := none
  newName : Option Text := none
  newUnit : Option Text := none
  newDescription : Option Text := none
  newDestination : Option Text := none
deriving DecidableEq

structure XMLVar where
  name : Text
deriving DecidableEq

inductive XMLDirectory where
  | directory (name : Text) (dirs : List XMLDirectory) (vars : List XMLVar)

/-- A directory's position in `dirs` of its parent, then the parent's place. The root's place is empty. -/
abbrev Place := List Nat

/-- A reference to an `XMLDirectory`, with what the application file fixes of it. -/
@[ext] structure DirectoryReference where
  place : Place
  name : Text
  path : Text
deriving DecidableEq

@[ext] structure VariableReference where
  place : Place × Nat
  name : Text
deriving DecidableEq

@[ext] structure Options where
  dir : Place → DirectoryOptions := fun _ => {}
  var : Place × Nat → VarOptions := fun _ => {}

/-- A child of the root element of a map file, in document order. -/
inductive MapEntry where
  | exclude (entry : ExcludeEntry)
  | processVariable (entry : ProcessVariableEntry)
  | folder (entry : FolderEntry)
deriving DecidableEq

/-- The path of what is called `name` in the directory at `path`. -/
def childPath (path name : Text) : Text := path ++ '/' :: name

def rootPath : Text := "/root"

/-- The exclude entry of a directory or variable. None is written below a flag that is set. -/
def excludeEntry (exclude : Option Bool) (excludeActive : Bool) (sourceName : Text) : List ExcludeEntry :=
  if exclude = some true ∧ ¬ excludeActive then [{ sourceName := some sourceName }] else []

/-- The history an entry assigns: none below a directory with a history. -/
def activeHistory (historizing : Option Text) (historizingActive : Bool) : Option Text :=
  if historizingActive then none else given historizing

namespace XMLVar

def processVariableEntry (var : XMLVar) (options : VarOptions) (path : Text) (historizingActive : Bool) :
    List ProcessVariableEntry :=
  let newName := given options.newName
  let newDestination := given options.newDestination
  let history := activeHistory options.historizing historizingActive
  if newName.isSome ∨ (given options.newDescription).isSome ∨ (given options.newUnit).isSome ∨
      newDestination.isSome ∨ history.isSome then
    [{
      sourceName := some (if removePrefix path "/root/" = [] then var.name
        else childPath (removePrefix path "/root/") var.name)
      history
      description := given options.newDescription
      unit := given options.newUnit
      -- a variable that is moved to the root keeps its name, with a destination element that is empty
      name := if newDestination = some rootPath ∧ newName = none then some var.name else newName
      destination := newDestination.map fun destination =>
        { content := if destination = rootPath then [] else removePrefix destination "/root/" }
      copy := some (if newName.isSome then "True" else "False") }]
  else []

def generateMapEntry (var : XMLVar) (options : VarOptions) (path : Text) (historizingActive excludeActive : Bool) :
    List MapEntry :=
  (excludeEntry options.exclude excludeActive (removePrefix (childPath path var.name) "/root/")).map .exclude ++
    (var.processVariableEntry options path historizingActive).map .processVariable

end XMLVar

namespace XMLDirectory

def name : XMLDirectory → Text
  | .directory name _ _ => name

/-- The directory that contains the one at `path`, as it is written into a destination. -/
def destText (path name : Text) : Text := removeSuffix (removePrefix path "/root") name

def parentText (path name : Text) : Text := removeSuffix (removePrefix (destText path name) "/") "/"

/-- A description alone is assigned by an entry that has no source but the name and the destination. -/
def descriptionEntry (name path : Text) (options : DirectoryOptions) : List FolderEntry :=
  if (given options.newDescription).isSome ∧ given options.newName = none ∧ given options.newDestination = none then
    [{
      description := given options.newDescription
      name := some name
      destination := if destText path name = [] then none else some (parentText path name) }]
  else []

def changeEntry (name path : Text) (options : DirectoryOptions) (historiszingActive : Bool) : List FolderEntry :=
  let newName := given options.newName
  let newDestination := given options.newDestination
  let history := activeHistory options.historizing historiszingActive
  if newName.isSome ∨ newDestination.isSome then
    [{
      sourceName := some (removePrefix path "/root/")
      copy := some "False"
      history
      description := given options.newDescription
      name := some (newName.getD name)
      destination := some (match newDestination with
        | some destination => removePrefix (removePrefix destination "/root") "/"
        | none => parentText path name) }]
  else if history.isSome then
    [{ sourceName := some (removePrefix path "/root/"), copy := some "False", history }]
  else []

/-- The entries of the directory itself, which follow those of its contents. -/
def ownEntries (name path : Text) (options : DirectoryOptions) (historiszingActive excludeActive : Bool) :
    List MapEntry :=
  (excludeEntry options.exclude excludeActive (removePrefix path "/root/" ++ "/*")).map .exclude ++
    (descriptionEntry name path options ++ changeEntry name path options historiszingActive).map .folder

mutual

/-- `path` and `place` are the directory's own. -/
def generateMapEntries (options : Options) (path : Text) (place : Place) (historiszingActive excludeActive : Bool) :
    XMLDirectory → List MapEntry
  | .directory name dirs vars =>
    let own := options.dir place
    dirsEntries options path place own.historizing.isSome own.exclude.isSome 0 dirs ++
      varsEntries options path place own.historizing.isSome own.exclude.isSome 0 vars ++
      ownEntries name path own historiszingActive excludeActive

def dirsEntries (options : Options) (path : Text) (place : Place) (historiszingActive excludeActive : Bool)
    (index : Nat) : List XMLDirectory → List MapEntry
  | [] => []
  | d :: rest =>
    generateMapEntries options (childPath path d.name) (index :: place) historiszingActive excludeActive d ++
      dirsEntries options path place historiszingActive excludeActive (index + 1) rest

def varsEntries (options : Options) (path : Text) (place : Place) (historiszingActive excludeActive : Bool)
    (index : Nat) : List XMLVar → List MapEntry
  | [] => []
  | var :: rest =>
    var.generateMapEntry (options.var (place, index)) path historiszingActive excludeActive ++
      varsEntries options path place historiszingActive excludeActive (index + 1) rest

end

mutual

def findDir (directory path : Text) (place : Place) : XMLDirectory → Option DirectoryReference
  | .directory name dirs _ =>
    if path = directory then some { place, name, path } else findDirIn directory path place 0 dirs

def findDirIn (directory path : Text) (place : Place) (index : Nat) : List XMLDirectory → Option DirectoryReference
  | [] => none
  | d :: rest =>
    if childPath path d.name = directory then
      some { place := index :: place, name := d.name, path := childPath path d.name }
    else match findDir directory (childPath path d.name) (index :: place) d with
      | some found => some found
      | none => findDirIn directory path place (index + 1) rest

end

def findVarHere (var path : Text) (place : Place) (index : Nat) : List XMLVar → Option VariableReference
  | [] => none
  | v :: rest =>
    if childPath path v.name = var then some { place := (place, index), name := v.name }
    else findVarHere var path place (index + 1) rest

mutual

def findVar (var path : Text) (place : Place) : XMLDirectory → Option VariableReference
  | .directory _ dirs vars =>
    match findVarHere var path place 0 vars with
    | some found => some found
    | none => findVarIn var path place 0 dirs

def findVarIn (var path : Text) (place : Place) (index : Nat) : List XMLDirectory → Option VariableReference
  | [] => none
  | d :: rest =>
    match findVar var (childPath path d.name) (index :: place) d with
    | some found => some found
    | none => findVarIn var path place (index + 1) rest

end

end XMLDirectory

end OpcUaAdapter.Generator
