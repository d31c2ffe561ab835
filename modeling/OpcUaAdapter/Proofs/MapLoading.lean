import OpcUaAdapter.Proofs.ConfigReading
import OpcUaAdapter.Proofs.GeneratorTree
import OpcUaAdapter.Library.KeyedUpdates

/-! Loading a map file: when it raises nothing, and what each directory and variable is
assigned by the entries that find it. -/

namespace OpcUaAdapter.Generator
open Effects XMLDirectory

/-- A destination is only taken over when it differs. An entry that leaves none moves the
directory to the root, unless it gives the directory's own path. -/
def destinationAfter (name path : Text) (folder : FolderEntry) (destination : Option Text) : Option Text :=
  let assigned := (((given folder.destination).filter (tmpDestination name path ≠ ·)).map ("/root/".toList ++ ·)).or destination
  if assigned = none ∧ tmpPath name folder ≠ path then some rootPath else assigned

def afterFolder (name path : Text) (folder : FolderEntry) (d : DirectoryOptions) : DirectoryOptions := { d with
  historizing := folder.history.or d.historizing
  newDescription := (given folder.description).or d.newDescription
  newName := (folder.name.filter (· ≠ name)).or d.newName
  newDestination :=
    if folder.name = none ∧ folder.destination = none ∧ folder.description = none then d.newDestination
    else destinationAfter name path folder d.newDestination }

private theorem readFolder_acts (name path : Text) (folder : FolderEntry) :
    Acts (folder.name ≠ some []) ⟨⟩ (afterFolder name path folder) (readFolder name path folder) := by
  by_cases plain : folder.name = none ∧ folder.destination = none ∧ folder.description = none
  · intro before result after
    obtain ⟨noName, noDestination, noDescription⟩ := plain
    unfold readFolder afterFolder
    simp [noName, noDestination, noDescription]
  · intro before result after
    unfold readFolder afterFolder destinationAfter
    by_cases unnamed : folder.name = some []
    · simp [unnamed, outcome_bind]
    · simp only [plain, unnamed, reduceIte, not_false_eq_true, ne_eq, true_and]
      generalize ((given folder.destination).filter fun text => decide (¬ tmpDestination name path = text)).map
        ("/root/".toList ++ ·) = moved
      by_cases toRoot : moved.or before.newDestination = none ∧ ¬ tmpPath name folder = path
      · simp only [outcome_bind, outcome_modify, toRoot, not_false_eq_true, and_self, reduceIte]
        simp
      · simp only [outcome_bind, outcome_modify, toRoot, reduceIte]
        simp

theorem updateDir_const (options : Options) (place : Place) (change : DirectoryOptions → DirectoryOptions) :
    options.updateDir place (fun _ => change (options.dir place)) = options.updateDir place change := by
  unfold Options.updateDir
  congr 1
  funext other
  split
  next same => rw [same]
  next => rfl

private theorem updateDir_id (options : Options) (place : Place) : options.updateDir place (fun d => d) = options := by
  unfold Options.updateDir
  simp

namespace MapGenerator

private theorem onDirectory_acts {fine : Prop} {step : DirectoryOptions → DirectoryOptions}
    {effect : Reading DirectoryOptions Unit} (acts : Acts fine ⟨⟩ step effect) (place : Place) :
    Acts fine ⟨⟩ (fun s : MapGenerator => { s with options := s.options.updateDir place step })
      (onDirectory place effect) := by
  intro before result after
  have inner := acts (before.options.dir place) ⟨⟩
  have shape : outcome (onDirectory place effect) before =
      ((outcome effect (before.options.dir place)).1,
        { before with options := before.options.updateDir place fun _ => (outcome effect (before.options.dir place)).2 }) := rfl
  rw [shape]
  rcases run : outcome effect (before.options.dir place) with ⟨_ | value, own⟩
  · rw [run] at inner
    have fails : ¬ fine := fun holds => by
      have := (inner (step (before.options.dir place))).mpr ⟨holds, rfl, rfl⟩
      cases this
    simp [fails]
  · obtain ⟨holds, _, rfl⟩ := (inner own).mp run
    simp [holds, updateDir_const]

theorem onConfig_acts {fine : Prop} {step : Config → Config} {effect : Reading Config Unit}
    (acts : Acts fine ⟨⟩ step effect) :
    Acts fine ⟨⟩ (fun s : MapGenerator => { s with toConfig := step s.toConfig }) (onConfig effect) := by
  intro before result after
  have inner := acts before.toConfig ⟨⟩
  have shape : outcome (onConfig effect) before =
      ((outcome effect before.toConfig).1, { before with toConfig := (outcome effect before.toConfig).2 }) := rfl
  rw [shape]
  rcases run : outcome effect before.toConfig with ⟨_ | value, config⟩
  · rw [run] at inner
    have fails : ¬ fine := fun holds => by
      have := (inner (step before.toConfig)).mpr ⟨holds, rfl, rfl⟩
      cases this
    simp [fails]
  · obtain ⟨holds, _, rfl⟩ := (inner config).mp run
    simp [holds]

end MapGenerator

def folderSource (folder : FolderEntry) : Option Text :=
  match folder.sourceName with
  | some sourceName => some ("/root/".toList ++ sourceName)
  | none => (given folder.name).map (MapGenerator.tmpSourceName folder)

def rootFindDir (dir : XMLDirectory) (source : Text) : Option DirectoryReference :=
  dir.findDir source (childPath [] dir.name) []

def folderTarget (dir : XMLDirectory) (folder : FolderEntry) : Option DirectoryReference :=
  (folderSource folder).bind (rootFindDir dir)

def folderChange (folder : FolderEntry) (found : DirectoryReference) (d : DirectoryOptions) : DirectoryOptions :=
  if folder.sourceName.isSome then afterFolder found.name found.path folder d
  else if folder.description.isSome then { d with newDescription := given folder.description }
  else d

/-- Neither an entry without a source nor one that finds a directory may have no name where
there is a name element. -/
def ReadableFolder (dir : XMLDirectory) (folder : FolderEntry) : Prop :=
  if folder.sourceName.isSome then (folderTarget dir folder).isSome → folder.name ≠ some []
  else (given folder.name).isSome

instance (dir : XMLDirectory) (folder : FolderEntry) : Decidable (ReadableFolder dir folder) :=
  inferInstanceAs (Decidable (ite _ (_ → _) _))

def applyFolder (dir : XMLDirectory) (folder : FolderEntry) (options : Options) : Options :=
  match folderTarget dir folder with
  | some found => options.updateDir found.place (folderChange folder found)
  | none => options

theorem readFolderEntry_acts (dir : XMLDirectory) (folder : FolderEntry) :
    Acts (ReadableFolder dir folder) ((folderTarget dir folder).elim 1 fun _ => 0)
      (fun s : MapGenerator => { s with options := applyFolder dir folder s.options })
      (MapGenerator.readFolderEntry dir folder) := by
  unfold MapGenerator.readFolderEntry ReadableFolder applyFolder folderTarget folderSource folderChange
  cases folder.sourceName with
  | some sourceName =>
    simp only [Option.isSome_some, reduceIte, Option.bind_some, rootFindDir]
    cases dir.findDir ("/root/".toList ++ sourceName) (childPath [] dir.name) [] with
    | none => exact (Acts.pure 1).congr (by simp) fun _ _ => rfl
    | some found =>
      refine ((MapGenerator.onDirectory_acts (readFolder_acts found.name found.path folder) found.place).seq
        (Acts.pure 0)).congr (by simp) fun _ _ => rfl
  | none =>
    cases given folder.name with
    | none => exact (Acts.throw _ _ _).congr (by simp) fun _ _ => rfl
    | some tmpName =>
      simp only [Option.isSome_none, Bool.false_eq_true, reduceIte, Option.map_some, Option.bind_some, rootFindDir]
      cases dir.findDir (MapGenerator.tmpSourceName folder tmpName) (childPath [] dir.name) [] with
      | none => exact (Acts.pure 1).congr (by simp) fun _ _ => rfl
      | some found =>
        cases folder.description with
        | none =>
          exact (Acts.pure 0).congr (by simp) fun s _ => by simp [updateDir_id]
        | some text =>
          exact ((MapGenerator.onDirectory_acts (Acts.modify _) found.place).seq (Acts.pure 0)).congr (by simp)
            fun _ _ => rfl

def rootFindVar (dir : XMLDirectory) (source : Text) : Option VariableReference :=
  dir.findVar source (childPath [] dir.name) []

def variableTarget (dir : XMLDirectory) (pv : ProcessVariableEntry) : Option VariableReference :=
  pv.sourceName.bind fun sourceName => rootFindVar dir ("/root/".toList ++ strip sourceName '/')

def applyVariable (dir : XMLDirectory) (pv : ProcessVariableEntry) (options : Options) : Options :=
  match variableTarget dir pv with
  | some found => options.updateVar found.place (XMLVar.readProcessVariable found.name pv)
  | none => options

def variableSkipped (dir : XMLDirectory) (pv : ProcessVariableEntry) : Nat :=
  pv.sourceName.elim 0 fun _ => (variableTarget dir pv).elim 1 fun _ => 0

private theorem readProcessVariableEntry_acts (dir : XMLDirectory) (pv : ProcessVariableEntry) :
    Acts True (variableSkipped dir pv) (fun s : MapGenerator => { s with options := applyVariable dir pv s.options })
      (MapGenerator.readProcessVariableEntry dir pv) := by
  unfold MapGenerator.readProcessVariableEntry applyVariable variableSkipped variableTarget
  cases pv.sourceName with
  | none => exact (Acts.pure 0).congr Iff.rfl fun _ _ => rfl
  | some sourceName =>
    simp only [Option.bind_some, rootFindVar, Option.elim_some]
    cases dir.findVar ("/root/".toList ++ strip sourceName '/') (childPath [] dir.name) [] with
    | none => exact (Acts.pure 1).congr Iff.rfl fun _ _ => rfl
    | some found => exact ((Acts.modify _).seq (Acts.pure 0)).congr (by simp) fun _ _ => rfl

/-- The directory an exclude entry marks, when it ends like one of a directory. -/
def excludedDir (dir : XMLDirectory) (exclude : ExcludeEntry) : Option DirectoryReference :=
  exclude.sourceName.bind fun sourceName =>
    if "/*".toList.isSuffixOf sourceName then
      rootFindDir dir ("/root/".toList ++ sourceName.take (sourceName.length - 2))
    else none

def excludedVar (dir : XMLDirectory) (exclude : ExcludeEntry) : Option VariableReference :=
  exclude.sourceName.bind fun sourceName =>
    if "/*".toList.isSuffixOf sourceName then none else rootFindVar dir ("/root/".toList ++ sourceName)

def markDir (d : DirectoryOptions) : DirectoryOptions := { d with exclude := some true }

def markVar (v : VarOptions) : VarOptions := { v with exclude := some true }

def applyExclude (dir : XMLDirectory) (exclude : ExcludeEntry) (options : Options) : Options :=
  match excludedDir dir exclude, excludedVar dir exclude with
  | some found, _ => options.updateDir found.place markDir
  | none, some found => options.updateVar found.place markVar
  | none, none => options

def excludeSkipped (dir : XMLDirectory) (exclude : ExcludeEntry) : Nat :=
  exclude.sourceName.elim 0 fun _ =>
    (excludedDir dir exclude).elim ((excludedVar dir exclude).elim 1 fun _ => 0) fun _ => 0

private theorem readExcludeEntry_acts (dir : XMLDirectory) (exclude : ExcludeEntry) :
    Acts True (excludeSkipped dir exclude) (fun s : MapGenerator => { s with options := applyExclude dir exclude s.options })
      (MapGenerator.readExcludeEntry dir exclude) := by
  unfold MapGenerator.readExcludeEntry applyExclude excludeSkipped excludedDir excludedVar
  cases exclude.sourceName with
  | none => exact (Acts.pure 0).congr Iff.rfl fun _ _ => rfl
  | some sourceName =>
    simp only [Option.bind_some, rootFindVar, rootFindDir, Option.elim_some]
    cases "/*".toList.isSuffixOf sourceName with
    | true =>
      simp only [reduceIte]
      cases dir.findDir ("/root/".toList ++ sourceName.take (sourceName.length - 2)) (childPath [] dir.name) [] with
      | none => exact (Acts.pure 1).congr Iff.rfl fun _ _ => rfl
      | some found => exact ((Acts.modify _).seq (Acts.pure 0)).congr (by simp) fun _ _ => rfl
    | false =>
      simp only [Bool.false_eq_true, reduceIte]
      cases dir.findVar ("/root/".toList ++ sourceName) (childPath [] dir.name) [] with
      | none => exact (Acts.pure 1).congr Iff.rfl fun _ _ => rfl
      | some found => exact ((Acts.modify _).seq (Acts.pure 0)).congr (by simp) fun _ _ => rfl

def loadEntries (dir : XMLDirectory) (data : MapDocument) (options : Options) : Options :=
  let folders := data.folders.foldl (fun options folder => applyFolder dir folder options) options
  let pvs := data.processVariables.foldl (fun options pv => applyVariable dir pv options) folders
  data.excludes.foldl (fun options exclude => applyExclude dir exclude options) pvs

/-- Loading the file raises nothing. -/
structure Loadable (dir : XMLDirectory) (data : MapDocument) : Prop where
  tag : data.tag = "uamapping"
  config : ∀ element ∈ data.config, Config.Readable element (Config.settingsOf element)
  folders : ∀ folder ∈ data.folders, ReadableFolder dir folder

def loaded (dir : XMLDirectory) (data : MapDocument) (s : MapGenerator) : MapGenerator where
  toConfig := Config.configAfter data.config s.toConfig
  dir := some dir
  options := loadEntries dir data s.options.reset

def skipped (dir : XMLDirectory) (data : MapDocument) : List Nat :=
  [(data.folders.map fun folder => (folderTarget dir folder).elim 1 fun _ => 0).sum,
    (data.processVariables.map (variableSkipped dir)).sum, (data.excludes.map (excludeSkipped dir)).sum]

private theorem foldl_options (list : List α) (change : α → Options → Options) (s : MapGenerator) :
    list.foldl (fun s entry => { s with options := change entry s.options }) s =
      { s with options := list.foldl (fun options entry => change entry options) s.options } := by
  induction list generalizing s with
  | nil => rfl
  | cons entry rest ih => rw [List.foldl_cons, ih]; rfl

/-- The entries are read one kind after the other. -/
theorem readEntries_acts (dir : XMLDirectory) (data : MapDocument) :
    Acts (∀ folder ∈ data.folders, ReadableFolder dir folder) (skipped dir data)
      (fun s : MapGenerator => { s with options := loadEntries dir data s.options })
      (do
        let folders ← data.folders.mapM (MapGenerator.readFolderEntry dir)
        let pvs ← data.processVariables.mapM (MapGenerator.readProcessVariableEntry dir)
        let excludes ← data.excludes.mapM (MapGenerator.readExcludeEntry dir)
        return [folders.sum, pvs.sum, excludes.sum]) := by
  have excludes (folders pvs : Nat) : Acts _ [folders, pvs, (data.excludes.map (excludeSkipped dir)).sum] _
      (do
        let excludes ← data.excludes.mapM (MapGenerator.readExcludeEntry dir)
        return [folders, pvs, excludes.sum]) :=
    Acts.bind (Acts.mapM (readExcludeEntry_acts dir)) (Acts.pure _)
  have pvs (folders : Nat) : Acts _ [folders, (data.processVariables.map (variableSkipped dir)).sum,
      (data.excludes.map (excludeSkipped dir)).sum] _
      (do
        let pvs ← data.processVariables.mapM (MapGenerator.readProcessVariableEntry dir)
        let excludes ← data.excludes.mapM (MapGenerator.readExcludeEntry dir)
        return [folders, pvs.sum, excludes.sum]) :=
    Acts.bind (Acts.mapM (readProcessVariableEntry_acts dir)) (excludes folders _)
  refine (Acts.bind (Acts.mapM (readFolderEntry_acts dir)) (pvs _)).congr ?_ fun s _ => ?_
  · simp
  · rw [foldl_options, foldl_options, foldl_options]
    rfl

theorem parseMapFile_ok {dir : XMLDirectory} {data : MapDocument} {s after : MapGenerator} {counts : List Nat}
    (tree : s.dir = some dir) :
    outcome (MapGenerator.parseMapFile (some data)) s = (.ok counts, after) ↔
      Loadable dir data ∧ skipped dir data = counts ∧ loaded dir data s = after := by
  have config := MapGenerator.onConfig_acts (Config.readConfig_acts data.config)
  unfold MapGenerator.parseMapFile
  rw [outcome_seq_eq_ok]
  simp only [outcome_modify, tree, Option.isSome_some, reduceIte, Prod.mk.injEq, true_and, exists_eq_left']
  by_cases tag : data.tag = "uamapping"
  · simp only [tag, ne_eq, not_true_eq_false, reduceIte]
    rw [outcome_seq_eq_ok]
    constructor
    · rintro ⟨middle, read, rest⟩
      obtain ⟨readable, _, rfl⟩ := (config _ _ _).mp read
      obtain ⟨folders, counted, rfl⟩ := (readEntries_acts dir data _ _ _).mp rest
      exact ⟨⟨tag, readable, folders⟩, counted, rfl⟩
    · rintro ⟨⟨_, readable, folders⟩, counted, rfl⟩
      exact ⟨_, (config _ _ _).mpr ⟨readable, rfl, rfl⟩,
        (readEntries_acts dir data _ _ _).mpr ⟨folders, counted, rfl⟩⟩
  · constructor
    · intro returns
      simp only [tag, ne_eq, not_false_eq_true, reduceIte] at returns
      rw [outcome_bind] at returns
      cases returns
    · exact fun done => absurd done.1.tag tag

section

variable (dir : XMLDirectory)

/-! Which entries change a directory or variable, and how. -/

def folderPlace (folder : FolderEntry) : Option Place := (folderTarget dir folder).map (·.place)

def folderStep (folder : FolderEntry) (d : DirectoryOptions) : DirectoryOptions :=
  (folderTarget dir folder).elim d fun found => folderChange folder found d

def variablePlace (pv : ProcessVariableEntry) : Option (Place × Nat) := (variableTarget dir pv).map (·.place)

def variableStep (pv : ProcessVariableEntry) (v : VarOptions) : VarOptions :=
  (variableTarget dir pv).elim v fun found => XMLVar.readProcessVariable found.name pv v

def excludedDirPlace (exclude : ExcludeEntry) : Option Place := (excludedDir dir exclude).map (·.place)

def excludedVarPlace (exclude : ExcludeEntry) : Option (Place × Nat) := (excludedVar dir exclude).map (·.place)

theorem applyFolder_eq (folder : FolderEntry) (options : Options) :
    applyFolder dir folder options =
      { options with dir := KeyedUpdates.update (folderPlace dir) (folderStep dir) options.dir folder } := by
  unfold applyFolder KeyedUpdates.update folderPlace folderStep
  cases folderTarget dir folder with
  | none => rfl
  | some found => simp [Options.updateDir]

private theorem applyVariable_eq (pv : ProcessVariableEntry) (options : Options) :
    applyVariable dir pv options =
      { options with var := KeyedUpdates.update (variablePlace dir) (variableStep dir) options.var pv } := by
  unfold applyVariable KeyedUpdates.update variablePlace variableStep
  cases variableTarget dir pv with
  | none => rfl
  | some found => simp [Options.updateVar]

theorem excluded_one (exclude : ExcludeEntry) : excludedDir dir exclude = none ∨ excludedVar dir exclude = none := by
  unfold excludedDir excludedVar
  cases exclude.sourceName with
  | none => exact .inl rfl
  | some sourceName =>
    cases suffix : "/*".toList.isSuffixOf sourceName with
    | true => right; simp only [Option.bind_some, suffix, reduceIte]
    | false => left; simp only [Option.bind_some, suffix, Bool.false_eq_true, reduceIte]

private theorem applyExclude_eq (exclude : ExcludeEntry) (options : Options) :
    applyExclude dir exclude options = {
      dir := KeyedUpdates.update (excludedDirPlace dir) (fun _ => markDir) options.dir exclude
      var := KeyedUpdates.update (excludedVarPlace dir) (fun _ => markVar) options.var exclude } := by
  have one := excluded_one dir exclude
  unfold applyExclude KeyedUpdates.update excludedDirPlace excludedVarPlace
  cases directory : excludedDir dir exclude with
  | none =>
    cases excludedVar dir exclude with
    | none => rfl
    | some found => simp [Options.updateVar]
  | some found =>
    rw [directory] at one
    rw [one.resolve_left (by simp)]
    simp [Options.updateDir]

private theorem foldl_applyFolder (folders : List FolderEntry) (options : Options) :
    folders.foldl (fun options folder => applyFolder dir folder options) options =
      { options with dir := KeyedUpdates.run (folderPlace dir) (folderStep dir) folders options.dir } := by
  induction folders generalizing options with
  | nil => rfl
  | cons folder rest ih => rw [List.foldl_cons, applyFolder_eq, ih]; rfl

private theorem foldl_applyVariable (pvs : List ProcessVariableEntry) (options : Options) :
    pvs.foldl (fun options pv => applyVariable dir pv options) options =
      { options with var := KeyedUpdates.run (variablePlace dir) (variableStep dir) pvs options.var } := by
  induction pvs generalizing options with
  | nil => rfl
  | cons pv rest ih => rw [List.foldl_cons, applyVariable_eq, ih]; rfl

private theorem foldl_applyExclude (excludes : List ExcludeEntry) (options : Options) :
    excludes.foldl (fun options exclude => applyExclude dir exclude options) options = {
      dir := KeyedUpdates.run (excludedDirPlace dir) (fun _ => markDir) excludes options.dir
      var := KeyedUpdates.run (excludedVarPlace dir) (fun _ => markVar) excludes options.var } := by
  induction excludes generalizing options with
  | nil => rfl
  | cons exclude rest ih => rw [List.foldl_cons, applyExclude_eq, ih]; rfl

variable (data : MapDocument)

def foldersFor (place : Place) : List FolderEntry := data.folders.filter fun folder => folderPlace dir folder = some place

def variablesFor (place : Place × Nat) : List ProcessVariableEntry :=
  data.processVariables.filter fun pv => variablePlace dir pv = some place

def dirExcludesFor (place : Place) : List ExcludeEntry :=
  data.excludes.filter fun exclude => excludedDirPlace dir exclude = some place

def varExcludesFor (place : Place × Nat) : List ExcludeEntry :=
  data.excludes.filter fun exclude => excludedVarPlace dir exclude = some place

/-- A directory is changed by the folder entries that find it and then by the exclude entries. -/
theorem loadEntries_dir (options : Options) (place : Place) :
    (loadEntries dir data options).dir place =
      (dirExcludesFor dir data place).foldl (fun d _ => markDir d)
        ((foldersFor dir data place).foldl (fun d folder => folderStep dir folder d) (options.dir place)) := by
  unfold loadEntries
  dsimp only
  rw [foldl_applyExclude, foldl_applyVariable, foldl_applyFolder]
  dsimp only
  rw [KeyedUpdates.run_apply, KeyedUpdates.run_apply]
  rfl

theorem loadEntries_var (options : Options) (place : Place × Nat) :
    (loadEntries dir data options).var place =
      (varExcludesFor dir data place).foldl (fun v _ => markVar v)
        ((variablesFor dir data place).foldl (fun v pv => variableStep dir pv v) (options.var place)) := by
  unfold loadEntries
  dsimp only
  rw [foldl_applyExclude, foldl_applyVariable, foldl_applyFolder]
  dsimp only
  rw [KeyedUpdates.run_apply, KeyedUpdates.run_apply]
  rfl

end

end OpcUaAdapter.Generator
