import OpcUaAdapter.Proofs.ComponentReferences
import OpcUaAdapter.Proofs.ErrorReports
import OpcUaAdapter.Proofs.FolderNodes
import OpcUaAdapter.Proofs.HistoryIndependence
import OpcUaAdapter.Proofs.VariableIds

/-! The additional variables and the names that are taken in their folders. The check for a
name asks for node ids that it builds from texts. Which of them are there follows from the ids
of the variables, and so does whether the check is right. -/

namespace OpcUaAdapter

open Effects

instance : LocalSteps (SameView UaAdapter.additionalVariables) where
  aside same := same.additionalVariables
  writeDescription _ _ _ := rfl
  writeDisplayName _ _ _ := rfl

instance : FaultSteps (SameView UaAdapter.additionalVariables) where
  fault _ _ := rfl

instance : RootSteps (SameView UaAdapter.additionalVariables) where
  move _ _ := rfl

instance (server : UaServer) : LinkSteps server (SameView UaAdapter.additionalVariables) where
  addReference _ _ := rfl

instance (server : UaServer) : ServerSteps server (SameView UaAdapter.additionalVariables) where
  addComponent _ _ _ := rfl
  createFolder adapter base folderName := (adapter.createFolder_grows server base folderName []).notes.additionalVariables
  enroll adapter path separator := (adapter.enrollFolderPathFromString_grows server path separator).notes.additionalVariables
  newProcessVariable adapter base oneProcessVariable namePV overwriteNodeString :=
    (adapter.newProcessVariable_grows server base oneProcessVariable namePV overwriteNodeString).notes.additionalVariables
  newAdditionalVariable adapter base name value description :=
    (adapter.newAdditionalVariable_grows server base name value description).notes.additionalVariables

/-- The adapter's folders are nodes with the ids that their paths give. -/
structure PlacesFolders (rootFolder : Text) (adapter : UaAdapter) : Prop where
  own : adapter.ownNodeId = folderId rootFolder []
  named : NamesFolders adapter
  known : FoldersKnown adapter

theorem PlacesFolders.later {rootFolder : Text} {before after : UaAdapter} (places : PlacesFolders rootFolder before)
    (names : NamesOn before after) (kept : KeepsFolders before after) : PlacesFolders rootFolder after :=
  ⟨names.1.trans places.own, names.2 places.named, kept places.known⟩

theorem PlacesFolders.keeps {rootFolder : Text} {adapter : UaAdapter} (places : PlacesFolders rootFolder adapter)
    {α : Type} {effect : Mapping α} (names : Keeps NamesOn effect) (kept : Keeps KeepsFolders effect) :
    PlacesFolders rootFolder (outcome effect adapter).2 := places.later (names adapter) (kept adapter)

private theorem mappedAdapter_placesFolders {server : UaServer} (law : AddsNewBelow server) (csManager : ControlSystemPVManager)
    (serverConfig : ServerConfig) (pvSeparator : Text) (mappingExceptions : Bool) (mapFile : MapFile) :
    PlacesFolders serverConfig.rootFolder
      (mappedAdapter server csManager serverConfig pvSeparator mappingExceptions mapFile) := by
  refine PlacesFolders.later ?_ (Mapping.implicitMapping_keeps server csManager _ mapFile)
    (Mapping.implicitMapping_keeps server csManager _ mapFile)
  have fresh : AddressSpace.initial.hasNode (.string (serverConfig.rootFolder ++ "Dir")) = false := by
    rw [← Bool.not_eq_true, AddressSpace.hasNode_iff]
    rintro ⟨node, member, same⟩
    have suffix {text : Text} (named : NodeId.string text = .string (serverConfig.rootFolder ++ "Dir")) :
        ("Dir" : Text) <:+ text := NodeId.string.inj named ▸ List.suffix_append _ _
    simp only [AddressSpace.initial, List.mem_cons, List.not_mem_nil, or_false] at member
    rcases member with rfl | rfl | rfl
    · cases same
    · exact absurd (suffix same) (by decide)
    · exact absurd (suffix same) (by decide)
  have granted (node : UaNode) (named : node.nodeId = .string (serverConfig.rootFolder ++ "Dir")) :
      server.addsNode .initial node objectsFolder = true := by
    rw [law, named, fresh]
    rfl
  unfold UaAdapter.mapSelfToNamespace
  extract_lets config root configNode logLevel
  have own : root.1 = .string (serverConfig.rootFolder ++ "Dir") := by
    change (ite (server.addsNode .initial _ objectsFolder = true) _ _ : NodeId × AddressSpace).1 = _
    rw [if_pos (granted _ rfl)]
  have known : root.2.space.hasNode root.1 = true := addNode_known _ _ _ _ _ (congrArg NodeId.isNull own)
  have grown : Grows root.2 logLevel.2 := (UaAdapter.addNode_grows server _ _ _ _ _).trans (UaAdapter.addNode_grows server _ _ _ _ _)
  refine ⟨own.trans ?_, ⟨fun i member => absurd member List.not_mem_nil, fun i member => absurd member List.not_mem_nil⟩,
    grown.nodes _ known, fun i member => absurd member List.not_mem_nil⟩
  exact congrArg (fun text => NodeId.string (text ++ "Dir")) (List.append_nil serverConfig.rootFolder).symm

namespace AdditionalVariableEntry

variable (entry : AdditionalVariableEntry) (rootFolder : Text)

def folderNode : NodeId := .string (entry.place rootFolder ++ "Dir")

def ownNode : NodeId := .string (entry.place rootFolder ++ '/' :: entry.variableName ++ "AdditionalVariable")

variable (server : UaServer) (adapter : UaAdapter)

/-- A process variable or an earlier additional variable has the name in the folder. -/
def NameTaken : Prop :=
  (∃ processVariable ∈ adapter.variableVector,
      processVariable.ownNodeId = .string (entry.place rootFolder ++ '/' :: entry.variableName)) ∨
    ∃ additionalVariable ∈ adapter.additionalVariables,
      additionalVariable.baseNodeId = entry.folderNode rootFolder ∧ additionalVariable.name = entry.variableName

/-- An entry with a name, and with a destination of parts with single slashes between them,
whose folders are there or can be created. -/
structure Proper : Prop where
  named : entry.variableName ≠ []
  plain : entry.folder = [] ∨ ((parseVariablePath entry.folder "/").flatMap fun part => '/' :: part) = '/' :: entry.folder
  placed : (entry.base server adapter).1.isNull = false

def Skips : Prop :=
  ∃ errorMessage, outcome (Mapping.addAdditionalVariable server entry) adapter =
    outcome (Mapping.raiseError errorMessage ("Skipping additional variable " ++ entry.variableName) entry.line) adapter

def Creates : Prop :=
  ∃ additionalVariable after, outcome (Mapping.addAdditionalVariable server entry) adapter = (.ok (), after) ∧
    after.additionalVariables = adapter.additionalVariables ++ [additionalVariable] ∧
    additionalVariable.name = entry.variableName ∧
    additionalVariable.baseNodeId = entry.folderNode rootFolder ∧
    additionalVariable.ownNodeId = entry.ownNode rootFolder ∧
    after.space.hasNode (entry.ownNode rootFolder) = true ∧
    ⟨entry.folderNode rootFolder, .hasComponent, entry.ownNode rootFolder⟩ ∈ after.space.references

/-- The variable is created unless its name is taken, and the entry skipped otherwise. -/
structure CreatesUnlessTaken : Prop where
  taken : entry.NameTaken rootFolder adapter → entry.Skips server adapter
  free : ¬ entry.NameTaken rootFolder adapter → entry.Creates rootFolder server adapter

/-- What the check has to see, and what is left to the root folder's name and to the server. -/
structure Checked : Prop where
  seen : entry.NameTaken rootFolder adapter ↔ entry.Refused adapter
  rooted : ¬ entry.Refused adapter → entry.folder = [] → rootFolderOf adapter = rootFolder
  unused : ¬ entry.Refused adapter → adapter.space.hasNode (entry.ownNode rootFolder) = false

/-- A variable has one of the two ids that end like those the check asks for. -/
def Held : Prop :=
  adapter.HasId (.string (entry.place rootFolder ++ '/' :: entry.variableName ++ "Value")) ∨
    adapter.HasId (entry.ownNode rootFolder)

/-- While the root folder has its name, a process variable of the entry's name comes with a
variable that has one of the ids, and none of that name with none of them, unless there is an
additional variable of the name. In a root folder whose name has changed, the ids are others. -/
structure ToldApart : Prop where
  kept : rootFolderOf adapter = rootFolder →
    (∃ additionalVariable ∈ adapter.additionalVariables,
      additionalVariable.baseNodeId = entry.folderNode rootFolder ∧ additionalVariable.name = entry.variableName) ∨
      ((∃ processVariable ∈ adapter.variableVector,
        processVariable.ownNodeId = .string (entry.place rootFolder ++ '/' :: entry.variableName)) ↔
          entry.Held rootFolder adapter)
  moved : rootFolderOf adapter ≠ rootFolder →
    (entry.Held (rootFolderOf adapter) adapter → entry.NameTaken rootFolder adapter) ∧
    (¬ entry.Held (rootFolderOf adapter) adapter → ¬ entry.NameTaken rootFolder adapter ∧ entry.folder ≠ [] ∧
      ¬ adapter.HasId (entry.ownNode rootFolder))

end AdditionalVariableEntry

section Steps

variable {server : UaServer} {rootFolder : Text} {adapter : UaAdapter} {entry : AdditionalVariableEntry}

open Mapping

theorem AdditionalVariableEntry.Refused.skips (refused : entry.Refused adapter) (named : entry.variableName ≠ []) :
    entry.Skips server adapter := by
  unfold Skips addAdditionalVariable
  rw [outcome_bind_ok (outcome_get adapter)]
  dsimp only
  have filled : ¬ (elementContent entry.name).isEmpty = true := fun empty => named (List.isEmpty_iff.mp empty)
  rw [if_neg filled]
  rcases refused with additional | value
  · exact ⟨_, congrArg (outcome · adapter) (if_pos additional)⟩
  · by_cases additional : adapter.space.hasNode (.string (entry.place (rootFolderOf adapter) ++ '/' :: entry.variableName ++
        "AdditionalVariable")) = true
    · exact ⟨_, congrArg (outcome · adapter) (if_pos additional)⟩
    · refine ⟨_, congrArg (outcome · adapter) ((if_neg additional).trans (if_pos value))⟩

private theorem outcome_unnamed (unnamed : entry.variableName = []) :
    outcome (addAdditionalVariable server entry) adapter = outcome (raiseError
      "Additional variable node creation failed. Additional variable name is mandatory." "Skipping additional variable."
      entry.line) adapter := by
  unfold addAdditionalVariable
  have empty : (elementContent entry.name).isEmpty = true := List.isEmpty_iff.mpr unnamed
  rw [outcome_bind_ok (outcome_get adapter)]
  exact congrArg (outcome · adapter) (if_pos empty)

theorem outcome_free (free : ¬ entry.Refused adapter) (named : entry.variableName ≠ []) :
    outcome (addAdditionalVariable server entry) adapter =
      if (entry.base server adapter).1.isNull then outcome (raiseError "Creation of additional variable folder failed."
        "Skipping additional variable." entry.line) (entry.base server adapter).2
      else (.ok (), { (entry.made server adapter).2 with
        additionalVariables := (entry.made server adapter).2.additionalVariables ++ [(entry.made server adapter).1] }) := by
  unfold addAdditionalVariable
  rw [outcome_bind_ok (outcome_get adapter)]
  dsimp only
  obtain ⟨additional, value⟩ := not_or.mp free
  have filled : ¬ (elementContent entry.name).isEmpty = true := fun empty => named (List.isEmpty_iff.mp empty)
  rw [if_neg filled]
  refine (congrArg (outcome · adapter) ((if_neg additional).trans (if_neg value))).trans ?_
  have enrolled : outcome (if !(elementContent entry.destination).isEmpty then
      enrollFolderPathFromString server (elementContent entry.destination ++ "/removePart") "/"
      else pure (.string (adapter.serverConfig.rootFolder ++ "Dir")) : Mapping NodeId) adapter =
        (.ok (entry.base server adapter).1, (entry.base server adapter).2) := by
    unfold AdditionalVariableEntry.base AdditionalVariableEntry.folder
    split
    · rfl
    · rfl
  rw [outcome_bind_ok enrolled]
  split
  · rfl
  · rfl

private theorem outcome_unrefused (free : ¬ entry.Refused adapter) (named : entry.variableName ≠ [])
    (placed : (entry.base server adapter).1.isNull = false) :
    outcome (addAdditionalVariable server entry) adapter = (.ok (),
      { (entry.made server adapter).2 with
        additionalVariables := (entry.made server adapter).2.additionalVariables ++ [(entry.made server adapter).1] }) := by
  rw [outcome_free free named, if_neg (Bool.eq_false_iff.mp placed)]

private theorem base_ofRoot (empty : entry.folder = []) :
    entry.base server adapter = (.string (rootFolderOf adapter ++ "Dir"), adapter) := by
  unfold AdditionalVariableEntry.base
  rw [empty]
  rfl

private theorem base_ofFolder (places : PlacesFolders rootFolder adapter) (proper : entry.Proper server adapter)
    (nested : entry.folder ≠ []) : (entry.base server adapter).1 = entry.folderNode rootFolder := by
  have filled : entry.folder.isEmpty = false := List.isEmpty_eq_false_iff.mpr nested
  have enrolled := @NamesFolders.enroll_fst server _ _ places.named (.inr places.own) (entry.folder ++ '/' :: "removePart")
  rw [parseVariablePath_concat entry.folder (by decide) (by decide), List.dropLast_concat] at enrolled
  have placed := proper.placed
  unfold AdditionalVariableEntry.base at placed ⊢
  rw [filled] at placed ⊢
  have here := enrolled.resolve_left fun null => by
    have null : (adapter.enrollFolderPathFromString server (entry.folder ++ "/removePart") "/").1 = .null := null
    rw [if_pos (by rfl), null] at placed
    cases placed
  refine Eq.trans here ?_
  unfold folderId treePath AdditionalVariableEntry.folderNode AdditionalVariableEntry.place
  rw [proper.plain.resolve_left nested, filled]
  rfl

theorem base_hasNode (entry : AdditionalVariableEntry) (adapter : UaAdapter) (rootFolder : Text) :
    (entry.base server adapter).2.space.hasNode (entry.ownNode rootFolder) =
      adapter.space.hasNode (entry.ownNode rootFolder) := by
  unfold AdditionalVariableEntry.base
  split
  · exact (unprobed_steps server).enroll adapter _ _ _ (.inl (List.suffix_append _ _))
  · rfl

private theorem base_known (places : PlacesFolders rootFolder adapter) (placed : (entry.base server adapter).1.isNull = false)
    (rooted : entry.folder = [] → rootFolderOf adapter = rootFolder) :
    (entry.base server adapter).2.space.hasNode (entry.base server adapter).1 = true := by
  by_cases nested : entry.folder = []
  · have own := places.known.own
    rw [places.own] at own
    rw [base_ofRoot nested, rooted nested]
    have root : treePath rootFolder [] = rootFolder := List.append_nil _
    rwa [folderId, root] at own
  · have enrolled := (@FoldersKnown.enroll server _ places.known (entry.folder ++ "/removePart") "/").2
    have base : entry.base server adapter = adapter.enrollFolderPathFromString server (entry.folder ++ "/removePart") "/" := by
      unfold AdditionalVariableEntry.base
      rw [List.isEmpty_eq_false_iff.mpr nested]
      rfl
    rw [base] at placed ⊢
    refine enrolled.resolve_left fun null => ?_
    rw [null] at placed
    cases placed

theorem newAdditionalVariable_used (law : AddsNewBelow server) {base : NodeId} (placed : base.isNull = false)
    (known : adapter.space.hasNode base = true) (name value description : Text) :
    (adapter.newAdditionalVariable server base name value description).2.space.hasNode
      (.string (base.baseName ++ '/' :: name ++ "AdditionalVariable")) = true := by
  by_cases used : adapter.space.hasNode (.string (base.baseName ++ '/' :: name ++ "AdditionalVariable")) = true
  · exact (adapter.newAdditionalVariable_grows server base name value description).nodes _ used
  have granted (node : UaNode) (named : node.nodeId = .string (base.baseName ++ '/' :: name ++ "AdditionalVariable")) :
      server.addsNode adapter.space node base = true := by
    rw [law, named, known, Bool.eq_false_iff.mpr used]
    rfl
  unfold UaAdapter.newAdditionalVariable UaAdapter.mapAdditionalVariable
  rw [placed]
  apply (UaAdapter.addNode_grows server _ _ _ _ _).nodes
  exact (addNode_nodes adapter _ base .hasComponent _ (granted _ rfl) _).mpr (.inr rfl)

theorem made_own (law : AddsNewBelow server) (here : (entry.base server adapter).1 = entry.folderNode rootFolder)
    (known : (entry.base server adapter).2.space.hasNode (entry.folderNode rootFolder) = true) :
    if adapter.space.hasNode (entry.ownNode rootFolder) then (entry.made server adapter).1.ownNodeId = .null
    else (entry.made server adapter).1.ownNodeId = entry.ownNode rootFolder ∧
      (entry.made server adapter).2.space.hasNode (entry.ownNode rootFolder) = true ∧
      ⟨entry.folderNode rootFolder, .hasComponent, entry.ownNode rootFolder⟩ ∈ (entry.made server adapter).2.space.references := by
  have used := @base_hasNode server entry adapter rootFolder
  unfold AdditionalVariableEntry.made
  generalize (entry.base server adapter).2 = enrolled at used known ⊢
  rw [here, ← used]
  have base_name : (entry.folderNode rootFolder).baseName = entry.place rootFolder := cutDir_append _
  simp only [UaAdapter.newAdditionalVariable, show (entry.folderNode rootFolder).isNull = false from rfl,
    Bool.false_eq_true, if_false, UaAdapter.mapAdditionalVariable, base_name]
  let node : UaNode :=
    { nodeId := entry.ownNode rootFolder, nodeClass := .variable, browseName := entry.variableName
      displayName := entry.variableName, description := elementContent entry.description }
  have asked : server.addsNode enrolled.space node (entry.folderNode rootFolder) =
      !enrolled.space.hasNode (entry.ownNode rootFolder) := by
    rw [law, known, Bool.and_true]
  have answer := addNode_id server enrolled node (entry.folderNode rootFolder) .hasComponent (some ctkAdditionalVariable)
  rw [asked] at answer
  split
  next taken =>
    rw [taken] at answer
    exact answer
  next free =>
    rw [Bool.eq_false_iff.mpr free] at answer
    have grants : server.addsNode enrolled.space node (entry.folderNode rootFolder) = true := by
      rw [asked, Bool.eq_false_iff.mpr free]
      rfl
    have grown (adapter : UaAdapter) (node : UaNode) (parent : NodeId) := adapter.addNode_grows server node parent
      .hasComponent (some baseDataVariableType)
    refine ⟨answer, (grown _ _ _).nodes _ ?_, (grown _ _ _).references _ ?_⟩
    · exact (addNode_nodes enrolled node _ .hasComponent _ grants _).mpr (.inr rfl)
    · exact mem_references_addNode.mpr (.inr ⟨grants, rfl, rfl, rfl⟩)

private theorem base_grows (entry : AdditionalVariableEntry) (adapter : UaAdapter) :
    Grows adapter (entry.base server adapter).2 := by
  unfold AdditionalVariableEntry.base
  split
  · exact adapter.enrollFolderPathFromString_grows server _ _
  · exact .refl adapter

private theorem made_tables (entry : AdditionalVariableEntry) (adapter : UaAdapter) :
    (entry.made server adapter).2.additionalVariables = adapter.additionalVariables ∧
      (entry.made server adapter).2.variableVector = adapter.variableVector := by
  have vector : (entry.base server adapter).2.variableVector = adapter.variableVector := by
    unfold AdditionalVariableEntry.base
    split
    · exact adapter.enroll_variableVector server _ _
    · rfl
  have base := (@base_grows server entry adapter).notes.additionalVariables
  unfold AdditionalVariableEntry.made UaAdapter.newAdditionalVariable
  dsimp only
  split
  · exact ⟨base, vector⟩
  · exact ⟨base, vector⟩

private theorem creates_iff (law : AddsNewBelow server) (places : PlacesFolders rootFolder adapter)
    (proper : entry.Proper server adapter) (free : ¬ entry.Refused adapter) :
    entry.Creates rootFolder server adapter ↔ (entry.folder = [] → rootFolderOf adapter = rootFolder) ∧
      adapter.space.hasNode (entry.ownNode rootFolder) = false := by
  have entered := outcome_unrefused free proper.named proper.placed
  have tables := (@made_tables server entry adapter).1
  constructor
  · rintro ⟨additionalVariable, after, same, appended, -, base, own, -, -⟩
    rw [entered] at same
    obtain rfl := (Prod.mk.inj same).2
    obtain rfl : (entry.made server adapter).1 = additionalVariable := by simpa [tables] using appended
    have here : (entry.base server adapter).1 = entry.folderNode rootFolder := base
    have rooted (empty : entry.folder = []) : rootFolderOf adapter = rootFolder := by
      rw [base_ofRoot empty, AdditionalVariableEntry.folderNode, AdditionalVariableEntry.place, empty] at here
      exact List.append_cancel_right (NodeId.string.inj here)
    have made := made_own law here (here ▸ base_known places proper.placed rooted)
    refine ⟨rooted, ?_⟩
    split at made
    next =>
      rw [made] at own
      cases own
    next unused => exact Bool.eq_false_iff.mpr unused
  · rintro ⟨rooted, unused⟩
    have here : (entry.base server adapter).1 = entry.folderNode rootFolder := by
      by_cases nested : entry.folder = []
      · rw [base_ofRoot nested, AdditionalVariableEntry.folderNode, AdditionalVariableEntry.place, nested, rooted nested]
        rfl
      · exact base_ofFolder places proper nested
    have made := made_own law here (here ▸ base_known places proper.placed rooted)
    rw [if_neg (Bool.eq_false_iff.mp unused)] at made
    exact ⟨_, _, entered, congrArg (· ++ _) tables, rfl, here, made.1, made.2.1, made.2.2⟩

theorem AdditionalVariableEntry.Skips.alike (skips : entry.Skips server adapter) :
    Alike adapter (outcome (addAdditionalVariable server entry) adapter).2 := by
  obtain ⟨errorMessage, same⟩ := skips
  rw [same]
  exact (raiseError_alike adapter errorMessage _ _).symm.states

theorem Alike.additionalVariables {first second : UaAdapter} (alike : Alike first second) :
    second.additionalVariables = first.additionalVariables := by
  obtain ⟨histories, warnings, steps, rfl⟩ := alike
  rfl

/-- The step lemma: an entry is created unless its name is taken, just when what the mapping
checks says whether it is. -/
theorem createsUnlessTaken_iff (law : AddsNewBelow server) (places : PlacesFolders rootFolder adapter)
    (proper : entry.Proper server adapter) :
    entry.CreatesUnlessTaken rootFolder server adapter ↔ entry.Checked rootFolder adapter := by
  have created (creates : entry.Creates rootFolder server adapter) :
      (outcome (addAdditionalVariable server entry) adapter).2.additionalVariables ≠ adapter.additionalVariables := by
    obtain ⟨additionalVariable, after, same, appended, -⟩ := creates
    rw [same, appended]
    simp
  by_cases refused : entry.Refused adapter
  · have skips := @AdditionalVariableEntry.Refused.skips server _ _ refused proper.named
    constructor
    · intro holds
      have taken : entry.NameTaken rootFolder adapter := by
        by_contra free
        exact created (holds.free free) skips.alike.additionalVariables
      exact ⟨iff_of_true taken refused, fun free => absurd refused free, fun free => absurd refused free⟩
    · exact fun checked => ⟨fun _ => skips, fun free => absurd (checked.seen.mpr refused) free⟩
  · constructor
    · intro holds
      have free : ¬ entry.NameTaken rootFolder adapter := by
        intro taken
        have kept := (holds.taken taken).alike.additionalVariables
        rw [outcome_unrefused refused proper.named proper.placed, (@made_tables server entry adapter).1] at kept
        simp at kept
      obtain ⟨rooted, unused⟩ := (creates_iff law places proper refused).mp (holds.free free)
      exact ⟨iff_of_false free refused, fun _ => rooted, fun _ => unused⟩
    · intro checked
      refine ⟨fun taken => absurd (checked.seen.mp taken) refused, fun _ => ?_⟩
      exact (creates_iff law places proper refused).mpr ⟨checked.rooted refused, checked.unused refused⟩

/-- The folders and the variables of the adapter have their ids, and while the root folder has
its name, the ids of all additional variables are in use. -/
structure GivesIds (rootFolder : Text) (adapter : UaAdapter) : Prop where
  places : PlacesFolders rootFolder adapter
  ids : VariableIds adapter
  used : rootFolderOf adapter = rootFolder → ∀ additionalVariable ∈ adapter.additionalVariables,
    adapter.space.hasNode (.string (additionalVariable.baseNodeId.baseName ++ '/' :: additionalVariable.name ++
      "AdditionalVariable")) = true

theorem additionalVariables_cases (entry : AdditionalVariableEntry) (adapter : UaAdapter) :
    ((outcome (addAdditionalVariable server entry) adapter).2.additionalVariables = adapter.additionalVariables ∧
      ∀ nodeId, adapter.space.hasNode nodeId = true →
        (outcome (addAdditionalVariable server entry) adapter).2.space.hasNode nodeId = true) ∨
    (entry.base server adapter).1.isNull = false ∧ outcome (addAdditionalVariable server entry) adapter = (.ok (),
      { (entry.made server adapter).2 with
        additionalVariables := (entry.made server adapter).2.additionalVariables ++ [(entry.made server adapter).1] }) := by
  have left {reached : UaAdapter} (errorMessage consequenceMessage : Text)
      (additional : reached.additionalVariables = adapter.additionalVariables)
      (nodes : ∀ nodeId, adapter.space.hasNode nodeId = true → reached.space.hasNode nodeId = true) :
      let after := (outcome (raiseError errorMessage consequenceMessage entry.line) reached).2
      after.additionalVariables = adapter.additionalVariables ∧
        ∀ nodeId, adapter.space.hasNode nodeId = true → after.space.hasNode nodeId = true := by
    intro after
    obtain ⟨histories, warnings, steps, same⟩ := (raiseError_alike reached errorMessage consequenceMessage entry.line).symm.states
    change after = _ at same
    rw [same]
    exact ⟨additional, nodes⟩
  by_cases named : entry.variableName = []
  · left
    rw [outcome_unnamed named]
    exact left _ _ rfl fun _ => id
  by_cases refused : entry.Refused adapter
  · left
    obtain ⟨errorMessage, same⟩ := @AdditionalVariableEntry.Refused.skips server _ _ refused named
    rw [same]
    exact left _ _ rfl fun _ => id
  cases placed : (entry.base server adapter).1.isNull with
  | false => exact .inr ⟨rfl, outcome_unrefused refused named placed⟩
  | true =>
    left
    rw [outcome_free refused named, if_pos placed]
    have grown := @base_grows server entry adapter
    exact left _ _ grown.notes.additionalVariables grown.nodes

theorem GivesIds.round (law : AddsNewBelow server) (gives : GivesIds rootFolder adapter) (entry : AdditionalVariableEntry)
    (csManager : ControlSystemPVManager) : GivesIds rootFolder (outcome (addAdditionalVariable server entry) adapter).2 := by
  have places := gives.places.keeps (addAdditionalVariable_keeps server entry) (addAdditionalVariable_keeps server entry)
  have ids := (addAdditionalVariable_stays (variableIds_steps server csManager) entry).outcome gives.ids
  have root : rootFolderOf (outcome (addAdditionalVariable server entry) adapter).2 = rootFolderOf adapter :=
    KeepsRoot.same (addAdditionalVariable_keeps server entry) adapter
  refine ⟨places, ids, fun rooted => ?_⟩
  rw [root] at rooted
  have used := gives.used rooted
  rcases @additionalVariables_cases server entry adapter with ⟨additional, nodes⟩ | ⟨placed, same⟩
  · rw [additional]
    exact fun additionalVariable member => nodes _ (used additionalVariable member)
  · have grown : Grows adapter (entry.made server adapter).2 :=
      (base_grows entry adapter).trans (UaAdapter.newAdditionalVariable_grows server _ _ _ _ _)
    rw [same]
    dsimp only
    rw [(@made_tables server entry adapter).1]
    refine List.forall_mem_append.mpr ⟨fun additionalVariable member => ?_, List.forall_mem_singleton.mpr ?_⟩
    · exact grown.nodes _ (used additionalVariable member)
    · exact newAdditionalVariable_used law placed (base_known gives.places placed fun _ => rooted) _ _ _

theorem refused_iff (ids : VariableIds adapter) (entry : AdditionalVariableEntry) :
    entry.Refused adapter ↔ entry.Held (rootFolderOf adapter) adapter :=
  (or_congr (ids.nodes _ (.inl (List.suffix_append _ _))) (ids.nodes _ (.inr (List.suffix_append _ _)))).trans or_comm

/-- An additional variable of the entry's name is one that the check sees. -/
theorem GivesIds.held (gives : GivesIds rootFolder adapter) (rooted : rootFolderOf adapter = rootFolder)
    {additionalVariable : UaAdditionalVariable} (member : additionalVariable ∈ adapter.additionalVariables)
    (base : additionalVariable.baseNodeId = entry.folderNode rootFolder) (named : additionalVariable.name = entry.variableName) :
    entry.Held rootFolder adapter := by
  have used := gives.used rooted additionalVariable member
  have base_name : (entry.folderNode rootFolder).baseName = entry.place rootFolder := cutDir_append _
  rw [base, base_name, named] at used
  exact .inr ((gives.ids.nodes _ (.inl (List.suffix_append _ _))).mp used)

theorem toldApart_iff_checked (gives : GivesIds rootFolder adapter) (entry : AdditionalVariableEntry) :
    entry.ToldApart rootFolder adapter ↔ entry.Checked rootFolder adapter := by
  have refused := refused_iff gives.ids entry
  have own := gives.ids.nodes (entry.place rootFolder ++ '/' :: entry.variableName ++ "AdditionalVariable")
    (.inl (List.suffix_append _ _))
  have unused : adapter.space.hasNode (entry.ownNode rootFolder) = false ↔ ¬ adapter.HasId (entry.ownNode rootFolder) := by
    rw [← Bool.not_eq_true]
    exact not_congr own
  by_cases rooted : rootFolderOf adapter = rootFolder
  · rw [rooted] at refused
    have kept : entry.ToldApart rootFolder adapter ↔ (entry.NameTaken rootFolder adapter ↔ entry.Held rootFolder adapter) := by
      by_cases earlier : ∃ additionalVariable ∈ adapter.additionalVariables,
          additionalVariable.baseNodeId = entry.folderNode rootFolder ∧ additionalVariable.name = entry.variableName
      · obtain ⟨additionalVariable, member, base, named⟩ := earlier
        have held := gives.held rooted member base named
        refine iff_of_true ⟨fun _ => .inl ⟨_, member, base, named⟩, fun moved => absurd rooted moved⟩ ?_
        exact iff_of_true (.inr ⟨_, member, base, named⟩) held
      · rw [AdditionalVariableEntry.NameTaken, or_iff_left earlier]
        exact ⟨fun told => (told.kept rooted).resolve_left earlier, fun same => ⟨fun _ => .inr same, fun moved => absurd rooted moved⟩⟩
    rw [kept, ← refused]
    refine ⟨fun seen => ⟨seen, fun _ _ => rooted, fun free => unused.mpr fun own => free (refused.mpr (.inr own))⟩, ?_⟩
    exact AdditionalVariableEntry.Checked.seen
  · constructor
    · intro told
      obtain ⟨here, there⟩ := told.moved rooted
      rw [← refused] at here there
      refine ⟨⟨fun taken => ?_, here⟩, fun free empty => absurd empty (there free).2.1, fun free => unused.mpr (there free).2.2⟩
      by_contra free
      exact (there free).1 taken
    · intro checked
      refine ⟨fun same => absurd same rooted, fun _ => ?_⟩
      rw [← refused]
      refine ⟨checked.seen.mpr, fun free => ⟨fun taken => free (checked.seen.mp taken), fun empty => ?_, ?_⟩⟩
      · exact rooted (checked.rooted free empty)
      · exact unused.mp (checked.unused free)

/-- No additional variable has the name of another variable in its folder. -/
structure NamedApart (adapter : UaAdapter) : Prop where
  processVariables : ∀ additionalVariable ∈ adapter.additionalVariables, ∀ processVariable ∈ adapter.variableVector,
    processVariable.ownNodeId ≠ .string (additionalVariable.baseNodeId.baseName ++ '/' :: additionalVariable.name)
  additionalVariables : adapter.additionalVariables.Pairwise fun first second =>
    ¬ (first.baseNodeId = second.baseNodeId ∧ first.name = second.name)

theorem NamedApart.alike {first second : UaAdapter} (apart : NamedApart first) (alike : Alike first second) :
    NamedApart second := by
  obtain ⟨histories, warnings, steps, rfl⟩ := alike
  exact ⟨apart.processVariables, apart.additionalVariables⟩

/-- A round for an entry that is checked, or has no name. -/
theorem NamedApart.round (law : AddsNewBelow server) (places : PlacesFolders rootFolder adapter) (apart : NamedApart adapter)
    (each : entry.variableName ≠ [] → entry.Proper server adapter ∧ entry.Checked rootFolder adapter) :
    NamedApart (outcome (addAdditionalVariable server entry) adapter).2 := by
  by_cases named : entry.variableName = []
  · rw [outcome_unnamed named]
    exact apart.alike (raiseError_alike adapter _ _ _).symm.states
  obtain ⟨proper, checked⟩ := each named
  by_cases refused : entry.Refused adapter
  · exact apart.alike (refused.skips named).alike
  have free : ¬ entry.NameTaken rootFolder adapter := fun taken => refused (checked.seen.mp taken)
  obtain ⟨additionalVariable, after, same, appended, name, base, -⟩ :=
    (creates_iff law places proper refused).mpr ⟨checked.rooted refused, checked.unused refused⟩
  have vector : after.variableVector = adapter.variableVector := by
    rw [outcome_unrefused refused proper.named proper.placed] at same
    obtain rfl := (Prod.mk.inj same).2
    exact (@made_tables server entry adapter).2
  have base_name : (entry.folderNode rootFolder).baseName = entry.place rootFolder := cutDir_append _
  rw [same]
  constructor
  · rw [appended, vector]
    intro other member processVariable listed
    rcases List.mem_append.mp member with old | new
    · exact apart.processVariables other old processVariable listed
    · rw [List.mem_singleton.mp new, base, name, base_name]
      exact fun own => free (.inl ⟨processVariable, listed, own⟩)
  · rw [appended]
    refine List.pairwise_append.mpr ⟨apart.additionalVariables, List.pairwise_singleton _ _, fun first member second new => ?_⟩
    rw [List.mem_singleton.mp new, base, name]
    exact fun same => free (.inr ⟨first, member, same⟩)

end Steps

/-- An entry with a proper name and destination creates its variable unless the name is taken,
just when the ids of the variables tell whether it is; while they do for each entry that is
reached, no additional variable has the name of another variable in its folder. -/
theorem additional_variables_named_apart (server : UaServer) (law : AddsNewBelow server)
    (csManager : ControlSystemPVManager) (serverConfig : ServerConfig) (pvSeparator : Text) (mappingExceptions : Bool)
    (fuel : Nat) (mapFile : MapFile) (middle last : UaAdapter) :
    let start := mappedAdapter server csManager serverConfig pvSeparator mappingExceptions mapFile
    outcome (Mapping.buildFolderStructure server csManager fuel mapFile.folders) start = (.ok (), middle) →
      outcome (Mapping.explicitVarMapping server csManager mapFile.processVariables) middle = (.ok (), last) →
      Rounds (Mapping.addAdditionalVariable server) (fun entry state => entry.Proper server state →
        (entry.CreatesUnlessTaken serverConfig.rootFolder server state ↔ entry.ToldApart serverConfig.rootFolder state))
        last mapFile.additionalVariables ∧
      (Rounds (Mapping.addAdditionalVariable server) (fun entry state => entry.variableName ≠ [] →
          entry.Proper server state ∧ entry.ToldApart serverConfig.rootFolder state) last mapFile.additionalVariables →
        NamedApart (outcome (Mapping.addAdditionalVariables server mapFile.additionalVariables) last).2) := by
  intro start built mapped
  have begins : last.additionalVariables = [] := by
    have folders : SameView UaAdapter.additionalVariables start _ :=
      Mapping.buildFolderStructure_keeps server csManager fuel mapFile.folders start
    rw [built] at folders
    have listed : SameView UaAdapter.additionalVariables middle _ :=
      Mapping.explicitVarMapping_keeps server csManager mapFile.processVariables middle
    rw [mapped] at listed
    exact listed.trans (folders.trans (UaAdapter.foldl_grows server _ _).notes.additionalVariables)
  have gives : GivesIds serverConfig.rootFolder last := by
    have places := (mappedAdapter_placesFolders law csManager serverConfig pvSeparator mappingExceptions mapFile).keeps
      (Mapping.buildFolderStructure_keeps server csManager fuel mapFile.folders)
      (Mapping.buildFolderStructure_keeps server csManager fuel mapFile.folders)
    rw [built] at places
    have placed := places.keeps (Mapping.explicitVarMapping_keeps server csManager mapFile.processVariables)
      (Mapping.explicitVarMapping_keeps server csManager mapFile.processVariables)
    rw [mapped] at placed
    have steps := variableIds_steps server csManager
    have ids := (Mapping.buildFolderStructure_stays steps fuel mapFile.folders).outcome
      (mappedAdapter_variableIds server csManager serverConfig pvSeparator mappingExceptions mapFile)
    rw [built] at ids
    have named := (Mapping.explicitVarMapping_stays steps mapFile.processVariables).outcome ids
    rw [mapped] at named
    exact ⟨placed, named, fun _ => begins ▸ fun _ member => absurd member List.not_mem_nil⟩
  constructor
  · intro done entry rest state split reached proper
    have always : Rounds (Mapping.addAdditionalVariable server) (fun _ _ => True) last done := fun _ _ _ _ _ _ => trivial
    have later := Rounds.invariant
      (fun entry state (holds : GivesIds serverConfig.rootFolder state) _ => holds.round law entry csManager) gives always
    rw [reached] at later
    exact (createsUnlessTaken_iff law later.places proper).trans (toldApart_iff_checked later entry).symm
  · intro each
    have apart : NamedApart last := by
      constructor
      · rw [begins]
        exact fun _ member => absurd member List.not_mem_nil
      · rw [begins]
        exact List.Pairwise.nil
    have both := Rounds.invariant
      (fun entry state (holds : GivesIds serverConfig.rootFolder state ∧ NamedApart state) condition =>
        ⟨holds.1.round law entry csManager, holds.2.round law holds.1.places fun named =>
          ⟨(condition named).1, (toldApart_iff_checked holds.1 entry).mp (condition named).2⟩⟩) ⟨gives, apart⟩ each
    exact both.2

/-- A new variable in the folder of `/b/w`. -/
def besideVariable : AdditionalVariableEntry where
  destination := some "b"
  name := some "note"

def besideAdapter : UaAdapter := mappedAdapter belowServer nestedFolder { rootFolder := "r" } "/" false
  { additionalVariables := [besideVariable, besideVariable] }

/-- The adapter when the first of the two entries is done. -/
def noteAdapter : UaAdapter := (outcome (Mapping.addAdditionalVariable belowServer besideVariable) besideAdapter).2

theorem besideVariable_created : besideVariable.CreatesUnlessTaken "r" belowServer besideAdapter ∧
    besideVariable.CreatesUnlessTaken "r" belowServer noteAdapter := by
  obtain ⟨rounds, -⟩ := additional_variables_named_apart belowServer (fun _ _ _ => rfl) nestedFolder { rootFolder := "r" }
    "/" false 1 { additionalVariables := [besideVariable, besideVariable] } besideAdapter besideAdapter rfl rfl
  have first : Reaches (Mapping.addAdditionalVariable belowServer) besideAdapter [besideVariable] noteAdapter := by
    have ends : (outcome (Mapping.addAdditionalVariable belowServer besideVariable) besideAdapter).1 = .ok () := by
      decide +kernel
    exact reaches_cons.mpr ⟨noteAdapter, Prod.ext ends rfl, rfl⟩
  constructor
  · refine (rounds [] besideVariable [besideVariable] besideAdapter rfl rfl ⟨by decide, .inr (by decide), ?_⟩).mpr ?_
    · decide +kernel
    · refine ⟨fun _ => .inr (iff_of_false ?_ ?_), fun moved => absurd rfl moved⟩
      · decide +kernel
      · unfold AdditionalVariableEntry.Held UaAdapter.HasId
        decide +kernel
  · refine (rounds [besideVariable] besideVariable [] noteAdapter rfl first ⟨by decide, .inr (by decide), ?_⟩).mpr ?_
    · decide +kernel
    · refine ⟨fun _ => .inl ?_, fun moved => absurd (by decide +kernel) moved⟩
      decide +kernel

/-- The name of the process variable `/b/w` is given to an additional variable. -/
theorem taken_name_given :
    let entry : AdditionalVariableEntry := { destination := some "b", name := some "w" }
    let start := mappedAdapter belowServer nestedFolder { rootFolder := "r" } "/" false { additionalVariables := [entry] }
    entry.Proper belowServer start ∧ ¬ entry.CreatesUnlessTaken "r" belowServer start ∧
      ¬ NamedApart (outcome (Mapping.addAdditionalVariables belowServer [entry]) start).2 := by
  intro entry start
  have taken : entry.NameTaken "r" start := by
    unfold AdditionalVariableEntry.NameTaken
    decide +kernel
  refine ⟨⟨by decide, .inr (by decide), by decide +kernel⟩, fun holds => ?_, fun apart => ?_⟩
  · have kept := (holds.taken taken).alike.additionalVariables
    revert kept
    decide +kernel
  · have apart := apart.processVariables
    revert apart
    decide +kernel

end OpcUaAdapter
