import OpcUaAdapter.Proofs.ConfigReloading
import OpcUaAdapter.Proofs.ExcludeCoverage
import OpcUaAdapter.Proofs.MapLoading

/-! Loading one map file after another: what the first one leaves behind. -/

namespace OpcUaAdapter.Generator
open Effects XMLDirectory

/-- Assigned name, description and destination are the same. -/
def DirectoryOptions.SameChanges (first second : DirectoryOptions) : Prop :=
  first.newName = second.newName ∧ first.newDescription = second.newDescription ∧
    first.newDestination = second.newDestination

def VarOptions.SameChanges (first second : VarOptions) : Prop :=
  first.newName = second.newName ∧ first.newUnit = second.newUnit ∧ first.newDescription = second.newDescription ∧
    first.newDestination = second.newDestination

section

variable (dir : XMLDirectory) (data : MapDocument)

/-- The file assigns a history to the directory, or marks it as excluded. -/
def AssignsDirHistory (place : Place) : Prop :=
  ∃ folder ∈ data.folders, folderPlace dir folder = some place ∧ folder.sourceName.isSome ∧ folder.history.isSome

def MarksDir (place : Place) : Prop := ∃ exclude ∈ data.excludes, excludedDirPlace dir exclude = some place

def AssignsVarHistory (place : Place × Nat) : Prop :=
  ∃ pv ∈ data.processVariables, variablePlace dir pv = some place ∧ pv.history.isSome

def MarksVar (place : Place × Nat) : Prop := ∃ exclude ∈ data.excludes, excludedVarPlace dir exclude = some place

theorem folderStep_historizing (folder : FolderEntry) (d : DirectoryOptions) :
    (folderStep dir folder d).historizing =
      (if folder.sourceName.isSome ∧ (folderTarget dir folder).isSome then folder.history else none).or d.historizing := by
  unfold folderStep folderChange
  cases folderTarget dir folder with
  | none => simp
  | some found =>
    cases folder.sourceName with
    | some sourceName => simp [afterFolder]
    | none => cases folder.description <;> simp

theorem folderStep_exclude (folder : FolderEntry) (d : DirectoryOptions) :
    (folderStep dir folder d).exclude = d.exclude := by
  unfold folderStep folderChange
  cases folderTarget dir folder with
  | none => rfl
  | some found =>
    cases folder.sourceName with
    | some sourceName => rfl
    | none => cases folder.description <;> rfl

theorem folderStep_sameChanges (folder : FolderEntry) {first second : DirectoryOptions}
    (same : first.SameChanges second) : (folderStep dir folder first).SameChanges (folderStep dir folder second) := by
  obtain ⟨name, description, destination⟩ := same
  unfold folderStep folderChange
  cases folderTarget dir folder with
  | none => exact ⟨name, description, destination⟩
  | some found =>
    cases folder.sourceName with
    | some sourceName =>
      refine ⟨?_, ?_, ?_⟩
      · simp [afterFolder, name]
      · simp [afterFolder, description]
      · simp [afterFolder, destination]
    | none =>
      cases folder.description with
      | none => exact ⟨name, description, destination⟩
      | some text => exact ⟨name, rfl, destination⟩

theorem variableStep_historizing (pv : ProcessVariableEntry) (v : VarOptions) :
    (variableStep dir pv v).historizing =
      (if (variableTarget dir pv).isSome then pv.history else none).or v.historizing := by
  unfold variableStep
  cases variableTarget dir pv with
  | none => simp
  | some found =>
    simp only [Option.elim_some, XMLVar.readProcessVariable, XMLVar.moveToRoot]
    split <;> rfl

theorem variableStep_exclude (pv : ProcessVariableEntry) (v : VarOptions) :
    (variableStep dir pv v).exclude = v.exclude := by
  unfold variableStep
  cases variableTarget dir pv with
  | none => rfl
  | some found =>
    simp only [Option.elim_some, XMLVar.readProcessVariable, XMLVar.moveToRoot]
    split <;> rfl

private theorem variableStep_sameChanges (pv : ProcessVariableEntry) {first second : VarOptions}
    (same : first.SameChanges second) : (variableStep dir pv first).SameChanges (variableStep dir pv second) := by
  unfold variableStep
  cases variableTarget dir pv with
  | none => exact same
  | some found =>
    obtain ⟨name, unit, description, destination⟩ : (XMLVar.assignVariable pv first).SameChanges
        (XMLVar.assignVariable pv second) := by
      obtain ⟨name, unit, description, destination⟩ := same
      simp [XMLVar.assignVariable, VarOptions.SameChanges, name, unit, description, destination]
    simp only [Option.elim_some, XMLVar.readProcessVariable, XMLVar.moveToRoot, name, destination]
    split
    · exact ⟨rfl, unit, description, rfl⟩
    · exact ⟨name, unit, description, destination⟩

private theorem foldl_markDir (excludes : List ExcludeEntry) (d : DirectoryOptions) :
    excludes.foldl (fun d _ => markDir d) d = if excludes = [] then d else markDir d := by
  induction excludes generalizing d with
  | nil => rfl
  | cons exclude rest ih =>
    rw [List.foldl_cons, ih, if_neg (List.cons_ne_nil _ _)]
    split <;> rfl

private theorem foldl_markVar (excludes : List ExcludeEntry) (v : VarOptions) :
    excludes.foldl (fun v _ => markVar v) v = if excludes = [] then v else markVar v := by
  induction excludes generalizing v with
  | nil => rfl
  | cons exclude rest ih =>
    rw [List.foldl_cons, ih, if_neg (List.cons_ne_nil _ _)]
    split <;> rfl

def loadDir (place : Place) (d : DirectoryOptions) : DirectoryOptions :=
  (dirExcludesFor dir data place).foldl (fun d _ => markDir d)
    ((foldersFor dir data place).foldl (fun d folder => folderStep dir folder d) d)

def loadVar (place : Place × Nat) (v : VarOptions) : VarOptions :=
  (varExcludesFor dir data place).foldl (fun v _ => markVar v)
    ((variablesFor dir data place).foldl (fun v pv => variableStep dir pv v) v)

private theorem loadDir_historizing (place : Place) : ∃ history : Option Text,
    (∀ d, (loadDir dir data place d).historizing = history.or d.historizing) ∧
      (history.isSome ↔ AssignsDirHistory dir data place) := by
  obtain ⟨last, final, present, _⟩ := KeyedUpdates.foldl_or DirectoryOptions.historizing _
    (folderStep_historizing dir) (foldersFor dir data place)
  refine ⟨last, fun d => ?_, present.trans ?_⟩
  · rw [loadDir, foldl_markDir, ← final]
    split <;> rfl
  · unfold AssignsDirHistory foldersFor folderPlace
    constructor
    · rintro ⟨folder, member, assigned⟩
      obtain ⟨there, found⟩ := List.mem_filter.mp member
      split at assigned
      next sourced => exact ⟨folder, there, of_decide_eq_true found, sourced.1, assigned⟩
      next => cases assigned
    · rintro ⟨folder, there, found, sourced, history⟩
      refine ⟨folder, List.mem_filter.mpr ⟨there, decide_eq_true found⟩, ?_⟩
      have target : (folderTarget dir folder).isSome := by
        obtain ⟨target, shape, _⟩ := Option.map_eq_some_iff.mp found
        rw [shape]
        rfl
      rw [if_pos ⟨sourced, target⟩]
      exact history

private theorem loadDir_exclude (place : Place) (d : DirectoryOptions) :
    (loadDir dir data place d).exclude = if dirExcludesFor dir data place = [] then d.exclude else some true := by
  rw [loadDir, foldl_markDir]
  split
  · exact KeyedUpdates.foldl_same (folderStep_exclude dir) _ _
  · rfl

private theorem dirExcludesFor_eq_nil_iff (place : Place) : dirExcludesFor dir data place = [] ↔ ¬ MarksDir dir data place := by
  simp [dirExcludesFor, MarksDir]

private theorem loadDir_sameChanges (place : Place) {first second : DirectoryOptions} (same : first.SameChanges second) :
    (loadDir dir data place first).SameChanges (loadDir dir data place second) := by
  have folders := KeyedUpdates.foldl_related (folderStep_sameChanges dir) (foldersFor dir data place) same
  rw [loadDir, loadDir, foldl_markDir, foldl_markDir]
  split
  · exact folders
  · exact folders

private theorem loadVar_historizing (place : Place × Nat) : ∃ history : Option Text,
    (∀ v, (loadVar dir data place v).historizing = history.or v.historizing) ∧
      (history.isSome ↔ AssignsVarHistory dir data place) := by
  obtain ⟨last, final, present, _⟩ := KeyedUpdates.foldl_or VarOptions.historizing _
    (variableStep_historizing dir) (variablesFor dir data place)
  refine ⟨last, fun v => ?_, present.trans ?_⟩
  · rw [loadVar, foldl_markVar, ← final]
    split <;> rfl
  · unfold AssignsVarHistory variablesFor variablePlace
    constructor
    · rintro ⟨pv, member, assigned⟩
      obtain ⟨there, found⟩ := List.mem_filter.mp member
      split at assigned
      next => exact ⟨pv, there, of_decide_eq_true found, assigned⟩
      next => cases assigned
    · rintro ⟨pv, there, found, history⟩
      refine ⟨pv, List.mem_filter.mpr ⟨there, decide_eq_true found⟩, ?_⟩
      obtain ⟨target, shape, _⟩ := Option.map_eq_some_iff.mp found
      rw [shape]
      exact history

private theorem loadVar_exclude (place : Place × Nat) (v : VarOptions) :
    (loadVar dir data place v).exclude = if varExcludesFor dir data place = [] then v.exclude else some true := by
  rw [loadVar, foldl_markVar]
  split
  · exact KeyedUpdates.foldl_same (variableStep_exclude dir) _ _
  · rfl

private theorem varExcludesFor_eq_nil_iff (place : Place × Nat) : varExcludesFor dir data place = [] ↔ ¬ MarksVar dir data place := by
  simp [varExcludesFor, MarksVar]

private theorem loadVar_sameChanges (place : Place × Nat) {first second : VarOptions} (same : first.SameChanges second) :
    (loadVar dir data place first).SameChanges (loadVar dir data place second) := by
  have pvs := KeyedUpdates.foldl_related (variableStep_sameChanges dir) (variablesFor dir data place) same
  rw [loadVar, loadVar, foldl_markVar, foldl_markVar]
  split
  · exact pvs
  · exact pvs

end

section

variable (dir : XMLDirectory) (f g : MapDocument)

/-- Whatever history or flag the first file assigns in the tree, the second one assigns too. -/
structure TreeOverwritten : Prop where
  dirHistories : ∀ place, AssignsDirHistory dir f place → AssignsDirHistory dir g place
  dirExcludes : ∀ place, MarksDir dir f place → MarksDir dir g place
  varHistories : ∀ place, AssignsVarHistory dir f place → AssignsVarHistory dir g place
  varExcludes : ∀ place, MarksVar dir f place → MarksVar dir g place

theorem flag_twice_iff {before now : Prop} [Decidable before] [Decidable now] :
    ((if ¬ now then (if ¬ before then none else some true) else some true) =
      (if ¬ now then none else some true : Option Bool)) ↔ (before → now) := by
  by_cases earlier : before <;> by_cases later : now <;> simp [earlier, later]

theorem reloaded_dir_iff (place : Place) :
    loadDir dir g place { loadDir dir f place {} with newName := none, newDescription := none, newDestination := none } =
      loadDir dir g place {} ↔
      (AssignsDirHistory dir f place → AssignsDirHistory dir g place) ∧ (MarksDir dir f place → MarksDir dir g place) := by
  classical
  obtain ⟨before, beforeSets, beforePresent⟩ := loadDir_historizing dir f place
  obtain ⟨now, nowSets, nowPresent⟩ := loadDir_historizing dir g place
  obtain ⟨name, description, destination⟩ := loadDir_sameChanges dir g place
    (show DirectoryOptions.SameChanges
      { loadDir dir f place {} with newName := none, newDescription := none, newDestination := none } {} from
      ⟨rfl, rfl, rfl⟩)
  rw [DirectoryOptions.ext_iff, nowSets, nowSets, beforeSets, loadDir_exclude, loadDir_exclude, loadDir_exclude]
  simp only [dirExcludesFor_eq_nil_iff, name, description, destination, and_true, Option.or_none]
  rw [flag_twice_iff, or_or_eq_iff, beforePresent, nowPresent, and_comm]

private theorem reloaded_var_iff (place : Place × Nat) :
    loadVar dir g place { loadVar dir f place {} with
        newName := none, newUnit := none, newDescription := none, newDestination := none } =
      loadVar dir g place {} ↔
      (AssignsVarHistory dir f place → AssignsVarHistory dir g place) ∧ (MarksVar dir f place → MarksVar dir g place) := by
  classical
  obtain ⟨before, beforeSets, beforePresent⟩ := loadVar_historizing dir f place
  obtain ⟨now, nowSets, nowPresent⟩ := loadVar_historizing dir g place
  obtain ⟨name, unit, description, destination⟩ := loadVar_sameChanges dir g place
    (show VarOptions.SameChanges
      { loadVar dir f place {} with newName := none, newUnit := none, newDescription := none, newDestination := none } {}
      from ⟨rfl, rfl, rfl, rfl⟩)
  rw [VarOptions.ext_iff, nowSets, nowSets, beforeSets, loadVar_exclude, loadVar_exclude, loadVar_exclude]
  simp only [varExcludesFor_eq_nil_iff, name, unit, description, destination, and_true, Option.or_none]
  rw [flag_twice_iff, or_or_eq_iff, beforePresent, nowPresent, and_comm]

theorem reloaded_options_iff :
    loadEntries dir g (loadEntries dir f {}).reset = loadEntries dir g {} ↔ TreeOverwritten dir f g := by
  have dirs (place : Place) : (loadEntries dir g (loadEntries dir f {}).reset).dir place = (loadEntries dir g {}).dir place ↔
      (AssignsDirHistory dir f place → AssignsDirHistory dir g place) ∧ (MarksDir dir f place → MarksDir dir g place) := by
    have first := loadEntries_dir dir f {} place
    have kept : (loadEntries dir f {}).reset.dir place = { loadDir dir f place {} with
        newName := none, newDescription := none, newDestination := none } :=
      congrArg (fun d : DirectoryOptions =>
        { d with newName := none, newDescription := none, newDestination := none }) first
    rw [loadEntries_dir, loadEntries_dir, kept]
    exact reloaded_dir_iff dir f g place
  have vars (place : Place × Nat) :
      (loadEntries dir g (loadEntries dir f {}).reset).var place = (loadEntries dir g {}).var place ↔
      (AssignsVarHistory dir f place → AssignsVarHistory dir g place) ∧ (MarksVar dir f place → MarksVar dir g place) := by
    have first := loadEntries_var dir f {} place
    have kept : (loadEntries dir f {}).reset.var place = { loadVar dir f place {} with
        newName := none, newUnit := none, newDescription := none, newDestination := none } :=
      congrArg (fun v : VarOptions =>
        { v with newName := none, newUnit := none, newDescription := none, newDestination := none }) first
    rw [loadEntries_var, loadEntries_var, kept]
    exact reloaded_var_iff dir f g place
  rw [Options.ext_iff, funext_iff, funext_iff]
  simp only [dirs, vars]
  constructor
  · rintro ⟨forDirs, forVars⟩
    exact ⟨fun place => (forDirs place).1, fun place => (forDirs place).2, fun place => (forVars place).1,
      fun place => (forVars place).2⟩
  · rintro ⟨dirHistories, dirExcludes, varHistories, varExcludes⟩
    exact ⟨fun place => ⟨dirHistories place, dirExcludes place⟩, fun place => ⟨varHistories place, varExcludes place⟩⟩

end

/-- Loading the second file over the first one gives what it gives alone. -/
theorem MapGenerator.reloaded_iff {file : ApplicationFile} {f g : MapDocument} {countsF countsG : List Nat}
    {first alone : MapGenerator}
    (loadsF : outcome (parseMapFile (some f)) file.parseChimeraTK = (.ok countsF, first))
    (loadsG : outcome (parseMapFile (some g)) file.parseChimeraTK = (.ok countsG, alone)) :
    outcome (parseMapFile (some g)) first = (.ok countsG, alone) ↔
      Config.ElementOverwritten file.name f.config g.config ∧ TreeOverwritten file.root f g := by
  obtain ⟨loadableF, _, rfl⟩ := (parseMapFile_ok rfl).mp loadsF
  obtain ⟨loadableG, counted, rfl⟩ := (parseMapFile_ok rfl).mp loadsG
  rw [parseMapFile_ok rfl, ← Config.reloaded_element_iff loadableF.config loadableG.config, ← reloaded_options_iff]
  unfold loaded
  simp only [loadableG, counted, true_and, MapGenerator.mk.injEq]
  rfl

def driveHistory (rootFolder history : Text) : MapDocument where
  config := some { rootFolder := some rootFolder, description := some [] }
  entries := [.folder { sourceName := some "control/drive", history := some history }]

private theorem driveHistory_loads {rootFolder history : Text}
    (counted : skipped driveApplication.root (driveHistory rootFolder history) = [0, 0, 0]) :
    outcome (MapGenerator.parseMapFile (some (driveHistory rootFolder history))) driveApplication.parseChimeraTK =
      (.ok [0, 0, 0], loaded driveApplication.root (driveHistory rootFolder history) driveApplication.parseChimeraTK) := by
  refine (parseMapFile_ok rfl).mpr ⟨⟨rfl, ?_, ?_⟩, counted, rfl⟩
  · rintro element ⟨⟩
    exact ⟨fun _ => rfl, by simp, rfl⟩
  · intro folder member
    cases List.mem_singleton.mp member
    exact fun found => by simp

theorem drive_reloaded :
    outcome (MapGenerator.parseMapFile (some (driveHistory "second" "slow")))
        (loaded driveApplication.root (driveHistory "first" "fast") driveApplication.parseChimeraTK) =
      (.ok [0, 0, 0], loaded driveApplication.root (driveHistory "second" "slow") driveApplication.parseChimeraTK) := by
  refine (MapGenerator.reloaded_iff (driveHistory_loads (by decide +kernel)) (driveHistory_loads (by decide +kernel))).mpr
    ⟨?_, ?_⟩
  · change Config.Overwritten _ { rootFolder := some "first", description := some [] }
      { rootFolder := some "second", description := some [] }
    constructor <;> simp [Config.settingsOf, Config.readSetups, pure, Except.pure]
  · refine ⟨?_, ?_, ?_, ?_⟩
    · rintro place ⟨folder, member, found, sourced, _⟩
      cases List.mem_singleton.mp member
      exact ⟨_, List.mem_singleton_self _, found, rfl, rfl⟩
    · rintro place ⟨exclude, ⟨⟩, _⟩
    · rintro place ⟨pv, ⟨⟩, _⟩
    · rintro place ⟨exclude, ⟨⟩, _⟩

def driveExclude : MapDocument where
  entries := [.exclude { sourceName := some "control/drive/*" }]

/-- The exclude flag of the first file is still set after the second one. -/
theorem exclude_kept_by_reloading : ¬ ∀ (file : ApplicationFile) (f g : MapDocument) (countsF countsG : List Nat)
    (first alone : MapGenerator),
    outcome (MapGenerator.parseMapFile (some f)) file.parseChimeraTK = (.ok countsF, first) →
    outcome (MapGenerator.parseMapFile (some g)) file.parseChimeraTK = (.ok countsG, alone) →
    outcome (MapGenerator.parseMapFile (some g)) first = (.ok countsG, alone) := by
  intro same
  have loads := same driveApplication driveExclude {} [0, 0, 0] [0, 0, 0] _ _
    ((parseMapFile_ok rfl).mpr ⟨⟨rfl, by rintro element ⟨⟩, by rintro folder ⟨⟩⟩, by decide +kernel, rfl⟩)
    ((parseMapFile_ok rfl).mpr ⟨⟨rfl, by rintro element ⟨⟩, by rintro folder ⟨⟩⟩, by decide +kernel, rfl⟩)
  have flags := congrArg (fun result => (result.2.options.dir [0, 0]).exclude) loads
  exact absurd flags (by decide +kernel)

end OpcUaAdapter.Generator
