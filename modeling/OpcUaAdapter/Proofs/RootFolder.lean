import Mathlib.Data.List.Infix
import OpcUaAdapter.Proofs.AdapterGrowth
import OpcUaAdapter.Proofs.MappingSteps

/-! The root folder while the map file is applied. One branch of the folder entries adds
to it; everything else leaves it alone. -/

namespace OpcUaAdapter

open Effects

abbrev KeepsRoot {α : Type} (effect : Mapping α) : Prop := Keeps (SameView rootFolderOf) effect

theorem KeepsRoot.same {α : Type} {effect : Mapping α} (kept : KeepsRoot effect) (adapter : UaAdapter) :
    rootFolderOf (outcome effect adapter).2 = rootFolderOf adapter := kept adapter

private theorem Grows.sameRoot {before after : UaAdapter} (grows : Grows before after) :
    SameView rootFolderOf before after := congrArg ServerConfig.rootFolder grows.config

instance : LocalSteps (SameView rootFolderOf) where
  aside same := same.root
  writeDescription _ _ _ := rfl
  writeDisplayName _ _ _ := rfl

instance : FaultSteps (SameView rootFolderOf) where
  fault _ _ := rfl

instance : AdditionalSteps (SameView rootFolderOf) where
  enter _ _ := rfl

instance (server : UaServer) : LinkSteps server (SameView rootFolderOf) where
  addReference _ _ := rfl

instance (server : UaServer) : ServerSteps server (SameView rootFolderOf) where
  addComponent _ _ _ := rfl
  createFolder adapter base folderName := (adapter.createFolder_grows server base folderName []).sameRoot
  enroll adapter path separator := (adapter.enrollFolderPathFromString_grows server path separator).sameRoot
  newProcessVariable adapter base oneProcessVariable namePV overwriteNodeString :=
    (adapter.newProcessVariable_grows server base oneProcessVariable namePV overwriteNodeString).sameRoot
  newAdditionalVariable adapter base name value description :=
    (adapter.newAdditionalVariable_grows server base name value description).sameRoot

namespace Mapping

section Copies

variable {server : UaServer} {csManager : ControlSystemPVManager} {adapter : UaAdapter}

def targetFolder (rootFolder destination folder : Text) : Text :=
  rootFolder ++ '/' :: destination ++ '/' :: folder ++ "Dir"

private theorem createFolder_isNull_iff {base : NodeId} (known : base.isNull = false) (folder : Text) :
    (adapter.createFolder server base folder).1.isNull = true ↔
      (adapter.existFolder base folder).isNull = false ∨
        (adapter.createUAFolder server base folder []).1.isNull = true := by
  unfold UaAdapter.createFolder
  cases existing : (adapter.existFolder base folder).isNull with
  | true => simp [known]
  | false => simp [NodeId.isNull]

theorem outcome_createFolder (base : NodeId) (folder : Text) :
    outcome (createFolder server base folder) adapter =
      (.ok (adapter.createFolder server base folder).1, (adapter.createFolder server base folder).2) := rfl

private theorem existingDestination_root (destination folder : Text) :
    rootFolderOf (outcome (existingDestination destination folder) adapter).2 =
      if destination ≠ [] then targetFolder (rootFolderOf adapter) destination folder else rootFolderOf adapter := by
  have noted : outcome (note .danglingNodeId) adapter = (.ok (), _) := rfl
  unfold existingDestination
  rw [outcome_bind_ok noted]
  cases destination with
  | nil => rfl
  | cons c rest => rfl

theorem copyFolder_root (fuel : Nat) (sourceFolderId base : NodeId) (destination folder description : Text) :
    rootFolderOf (outcome (copyFolder server csManager fuel sourceFolderId base destination folder description)
        adapter).2 =
      if (adapter.createFolder server base folder).1.isNull = true ∧ destination ≠ [] then
        targetFolder (rootFolderOf adapter) destination folder
      else rootFolderOf adapter := by
  have same : rootFolderOf (adapter.createFolder server base folder).2 = rootFolderOf adapter :=
    (adapter.createFolder_grows server base folder []).sameRoot
  unfold copyFolder
  rw [outcome_bind_ok (outcome_createFolder base folder), view_bind rootFolderOf fun copyRoot => ?_]
  · cases (adapter.createFolder server base folder).1.isNull with
    | false => simpa using same
    | true =>
      simp only [if_true, true_and]
      rw [existingDestination_root, same]
  · refine Keeps.bind (deepCopyHierarchicalLayer_keeps server csManager fuel _ _) fun _ => ?_
    exact Keeps.bind (when_keeps (writeDescription_keeps _ _) _) fun _ => Keeps.pure _

/-- The root folder after a step: the target of the copy when an existing folder is
reused, the one before otherwise. -/
def RootAfter (reuses : Prop) (destination folder : Text) (before after : UaAdapter) : Prop :=
  reuses ∧ rootFolderOf after = targetFolder (rootFolderOf before) destination folder ∨
    ¬ reuses ∧ rootFolderOf after = rootFolderOf before

/-- A folder is copied to one that is in the folder table already, or that the server refuses. -/
structure CopiesOver (server : UaServer) (adapter : UaAdapter) (base : NodeId)
    (sourceName copy destination folder : Text) : Prop where
  nested : destination ≠ []
  elsewhere : sourceName ≠ destination ++ '/' :: folder
  source : adapter.space.isFolder (.string (rootFolderOf adapter ++ '/' :: sourceName ++ "Dir")) = true
  copies : copy = "TRUE"
  kept : (adapter.existFolder base folder).isNull = false ∨
    (adapter.createUAFolder server base folder []).1.isNull = true

private theorem mapSourceFolder_root (fuel : Nat) (entry : FolderEntry) {base : NodeId} (known : base.isNull = false)
    (sourceName copy destination folder description : Text) :
    RootAfter (CopiesOver server adapter base sourceName copy destination folder) destination folder adapter
      (outcome (mapSourceFolder server csManager fuel entry base sourceName copy destination folder description)
        adapter).2 := by
  have raised (errorMessage : Text) (reuses : ¬ CopiesOver server adapter base sourceName copy destination folder) :
      RootAfter (CopiesOver server adapter base sourceName copy destination folder) destination folder adapter
        (outcome (raiseError errorMessage "Skipping Folder." entry.line) adapter).2 :=
    .inr ⟨reuses, KeepsRoot.same (raiseError_keeps _ _ _) adapter⟩
  unfold mapSourceFolder
  split
  next equal =>
    apply raised
    intro copied
    obtain ⟨nested, elsewhere, _⟩ := copied
    simp [nested, elsewhere] at equal
  next different =>
    rw [outcome_bind_ok (outcome_get adapter), outcome_bind_ok (outcome_get adapter)]
    split
    next missing =>
      apply raised
      intro copied
      have source := copied.source
      rw [rootFolderOf] at source
      rw [source] at missing
      cases missing
    next present =>
      split
      next equal =>
        apply raised
        intro copied
        obtain ⟨nested, elsewhere, _⟩ := copied
        simp [sourceAndDestinationEqual, nested, elsewhere] at equal
      next =>
        rw [RootAfter, view_bind rootFolderOf fun foundMethod => when_keeps (linkFolder_keeps server _ _ _ _ _ _) _]
        by_cases copies : copy = "TRUE"
        · have created := @createFolder_isNull_iff server adapter base known folder
          rw [if_pos copies, copyFolder_root]
          by_cases copied : CopiesOver server adapter base sourceName copy destination folder
          · exact .inl ⟨copied, if_pos ⟨created.mpr copied.kept, copied.nested⟩⟩
          · refine .inr ⟨copied, if_neg fun reached => copied ⟨reached.2, ?_, ?_, copies, created.mp reached.1⟩⟩
            · intro equal
              simp [reached.2, equal] at different
            · rwa [Bool.not_eq_true', Bool.not_eq_false] at present
        · rw [if_neg copies]
          exact .inr ⟨fun copied => copies copied.copies, rfl⟩

def enrolledDestination (server : UaServer) (adapter : UaAdapter) (destination : Text) : NodeId × UaAdapter :=
  let enrolled := adapter.enrollFolderPathFromString server (destination ++ "/replacePart") "/"
  if enrolled.1.isNull then
    (.string (rootFolderOf enrolled.2 ++ "Dir"),
      { enrolled.2 with undefinedSteps := enrolled.2.undefinedSteps ++ [.danglingNodeId] })
  else enrolled

theorem outcome_enrollDestination (destination : Text) :
    outcome (enrollDestination server destination) adapter =
      (.ok (enrolledDestination server adapter destination).1, (enrolledDestination server adapter destination).2) := by
  unfold enrollDestination enrollFolderPathFromString
  rw [outcome_bind_ok (outcome_modifyGet _ adapter)]
  unfold enrolledDestination
  dsimp only
  split
  · rfl
  · rfl

theorem enrolledDestination_space (destination : Text) :
    (enrolledDestination server adapter destination).2.space =
      (adapter.enrollFolderPathFromString server (destination ++ "/replacePart") "/").2.space := by
  unfold enrolledDestination
  dsimp only
  split
  · rfl
  · rfl

theorem enrolledDestination_known (destination : Text) :
    (enrolledDestination server adapter destination).1.isNull = false := by
  unfold enrolledDestination
  dsimp only
  split
  next => rfl
  next known => rwa [Bool.not_eq_true] at known

theorem enrolledDestination_root (destination : Text) :
    rootFolderOf (enrolledDestination server adapter destination).2 = rootFolderOf adapter := by
  have same : rootFolderOf (adapter.enrollFolderPathFromString server (destination ++ "/replacePart") "/").2 =
      rootFolderOf adapter := (adapter.enrollFolderPathFromString_grows server _ _).sameRoot
  unfold enrolledDestination
  dsimp only
  split
  · exact same
  · exact same

/-- An entry copies its source to a folder that is there under another node id. -/
structure ReusesFolder (server : UaServer) (adapter : UaAdapter) (sourceName copy destination folder : Text) :
    Prop where
  sourced : sourceName ≠ []
  free : adapter.space.hasNode (.string (targetFolder (rootFolderOf adapter) destination folder)) = false
  copied : CopiesOver server (enrolledDestination server adapter destination).2
    (enrolledDestination server adapter destination).1 sourceName copy destination folder

private theorem placeFolder_root (fuel : Nat) (entry : FolderEntry) (sourceName copy destination folder description : Text) :
    RootAfter (ReusesFolder server adapter sourceName copy destination folder) destination folder adapter
      (outcome (placeFolder server csManager fuel entry sourceName copy destination folder description) adapter).2 := by
  have same := @enrolledDestination_root server adapter destination
  unfold placeFolder
  rw [outcome_bind_ok (outcome_get adapter)]
  dsimp only
  generalize target : (if destination.isEmpty = true then
    NodeId.string (adapter.serverConfig.rootFolder ++ '/' :: folder ++ "Dir")
    else .string (adapter.serverConfig.rootFolder ++ '/' :: destination ++ '/' :: folder ++ "Dir")) = pvNode
  have nested_target (nested : destination ≠ []) :
      pvNode = .string (targetFolder (rootFolderOf adapter) destination folder) := by
    rw [← target, if_neg (by simpa using nested)]
    rfl
  split
  next taken =>
    refine .inr ⟨fun reuses => ?_, KeepsRoot.same (Keeps.ite (writeDescription_keeps _ _) (raiseError_keeps _ _ _)) adapter⟩
    rw [nested_target reuses.copied.nested, reuses.free] at taken
    cases taken
  next free =>
    split
    next unsourced =>
      refine .inr ⟨fun reuses => ?_, KeepsRoot.same (raiseError_keeps _ _ _) adapter⟩
      simp [reuses.sourced] at unsourced
    next =>
      rw [outcome_bind_ok (outcome_enrollDestination destination)]
      split
      next sourced =>
        rcases mapSourceFolder_root fuel entry (enrolledDestination_known destination) sourceName copy destination folder
          description with ⟨copied, root⟩ | ⟨copied, root⟩
        · refine .inl ⟨⟨by simpa using sourced, ?_, copied⟩, same ▸ root⟩
          rw [nested_target copied.nested] at free
          exact Bool.eq_false_iff.mpr free
        · exact .inr ⟨fun reuses => copied reuses.copied, same ▸ root⟩
      next unsourced =>
        refine .inr ⟨fun reuses => ?_, ?_⟩
        · simp [reuses.sourced] at unsourced
        · have kept : KeepsRoot (createFolder server (enrolledDestination server adapter destination).1 folder >>=
              fun retnode => when (copy.isEmpty && sourceName.isEmpty && !description.isEmpty)
                (writeDescription retnode description)) :=
            Keeps.bind (createFolder_keeps server _ _) fun _ => when_keeps (writeDescription_keeps _ _) _
          exact Eq.trans (kept _) same

/-- The adapter with the history of an entry that has a name, a source and a destination. -/
def withFolderHistory (entry : FolderEntry) (adapter : UaAdapter) : UaAdapter :=
  let history := getAttributeValueFromNode entry.history
  if history.isEmpty then adapter
  else
    { adapter with
      serverConfig.historyfolders := adapter.serverConfig.historyfolders ++
        [⟨history, .string (targetFolder (rootFolderOf adapter) (elementContent entry.destination)
          (elementContent entry.name))⟩] }

private theorem withFolderHistory_root (entry : FolderEntry) :
    rootFolderOf (withFolderHistory entry adapter) = rootFolderOf adapter := by
  unfold withFolderHistory
  dsimp only
  split
  · rfl
  · rfl

/-- The entry copies its source to a folder that is there under another node id. -/
def ReusedBy (server : UaServer) (entry : FolderEntry) (adapter : UaAdapter) : Prop :=
  elementContent entry.name ≠ [] ∧
    ReusesFolder server (withFolderHistory entry adapter) (getAttributeValueFromNode entry.sourceName)
      (toupper (getAttributeValueFromNode entry.copy)) (elementContent entry.destination) (elementContent entry.name)

private theorem isSome_of_elementContent {element : Option Text} (filled : elementContent element ≠ []) :
    element.isSome = true := by
  cases element with
  | none => exact absurd rfl filled
  | some content => rfl

def folderHistory (entry : FolderEntry) : Mapping Unit :=
  when (!(getAttributeValueFromNode entry.history).isEmpty)
    (addFolderHistory entry (getAttributeValueFromNode entry.sourceName)
      (toupper (getAttributeValueFromNode entry.copy)) (elementContent entry.destination)
      (elementContent entry.name) (getAttributeValueFromNode entry.history))

private theorem folderHistory_root (entry : FolderEntry) : KeepsRoot (folderHistory entry) :=
  when_keeps (addFolderHistory_keeps _ _ _ _ _ _) _

theorem buildFolder_eq (fuel : Nat) (entry : FolderEntry) :
    buildFolder server csManager fuel entry = folderHistory entry >>= fun _ =>
      if (elementContent entry.name).isEmpty then
        when (getAttributeValueFromNode entry.history).isEmpty
          (raiseError "Folder creation failed. Name or history assignment is missing." "Skipping Folder." entry.line)
      else
        placeFolder server csManager fuel entry (getAttributeValueFromNode entry.sourceName)
          (toupper (getAttributeValueFromNode entry.copy)) (elementContent entry.destination)
          (elementContent entry.name) (elementContent entry.description) := rfl

private theorem outcome_folderHistory {entry : FolderEntry} (sourced : getAttributeValueFromNode entry.sourceName ≠ [])
    (nested : elementContent entry.destination ≠ []) (named : elementContent entry.name ≠ []) :
    outcome (folderHistory entry) adapter = (.ok (), withFolderHistory entry adapter) := by
  unfold folderHistory
  unfold withFolderHistory
  dsimp only
  cases (getAttributeValueFromNode entry.history).isEmpty with
  | true => rfl
  | false =>
    have unraised : outcome (when (getAttributeValueFromNode entry.sourceName).isEmpty
        (raiseError "Can not add history if no sourceName attribute is set." [] entry.line)) adapter =
          (.ok (), adapter) := by
      rw [List.isEmpty_eq_false_iff.mpr sourced]
      rfl
    have chosen (effect : Mapping Unit) : when (!false) effect = effect := rfl
    rw [chosen, addFolderHistory, outcome_bind_ok unraised, outcome_bind_ok (outcome_get adapter)]
    have filled : (elementContent entry.destination).isEmpty = false := List.isEmpty_eq_false_iff.mpr nested
    simp only [isSome_of_elementContent named, isSome_of_elementContent nested, filled, if_true]
    rfl

private theorem buildFolder_root (fuel : Nat) (entry : FolderEntry) :
    RootAfter (ReusedBy server entry adapter) (elementContent entry.destination) (elementContent entry.name) adapter
      (outcome (buildFolder server csManager fuel entry) adapter).2 := by
  rw [buildFolder_eq]
  by_cases named : elementContent entry.name = []
  · refine .inr ⟨fun reuses => reuses.1 named, ?_⟩
    refine Keeps.bind (folderHistory_root entry) (fun _ => ?_) adapter
    rw [if_pos (List.isEmpty_iff.mpr named)]
    exact when_keeps (raiseError_keeps _ _ _) _
  · simp only [List.isEmpty_iff, named, if_false]
    by_cases sourced : getAttributeValueFromNode entry.sourceName ≠ [] ∧ elementContent entry.destination ≠ []
    · have same := @withFolderHistory_root adapter entry
      rw [outcome_bind_ok (outcome_folderHistory sourced.1 sourced.2 named)]
      rcases placeFolder_root fuel entry _ _ _ _ _ with ⟨reuses, root⟩ | ⟨reuses, root⟩
      · exact .inl ⟨⟨named, reuses⟩, same ▸ root⟩
      · exact .inr ⟨fun other => reuses other.2, same ▸ root⟩
    · refine .inr ⟨fun reuses => sourced ⟨reuses.2.sourced, reuses.2.copied.nested⟩, ?_⟩
      have before := folderHistory_root entry adapter
      rw [outcome_bind]
      revert before
      rcases outcome _ adapter with ⟨_ | _, after⟩
      · exact id
      · intro before
        rcases @placeFolder_root server csManager after fuel entry (getAttributeValueFromNode entry.sourceName)
          (toupper (getAttributeValueFromNode entry.copy)) (elementContent entry.destination)
          (elementContent entry.name) (elementContent entry.description) with ⟨reuses, _⟩ | ⟨_, root⟩
        · exact absurd ⟨reuses.sourced, reuses.copied.nested⟩ sourced
        · exact root.trans before

private theorem buildFolder_raises (server : UaServer) (csManager : ControlSystemPVManager) (fuel : Nat) (entry : FolderEntry) :
    Keeps (Raises (· <+: ·) rootFolderOf) (buildFolder server csManager fuel entry) := by
  intro adapter
  rcases buildFolder_root fuel entry with ⟨_, root⟩ | ⟨_, root⟩
  · rw [Raises, root, targetFolder, List.append_assoc, List.append_assoc]
    exact List.prefix_append _ _
  · rw [Raises, root]

private theorem sameRoot_buildFolder_iff (fuel : Nat) (entry : FolderEntry) :
    SameView rootFolderOf adapter (outcome (buildFolder server csManager fuel entry) adapter).2 ↔
      ¬ ReusedBy server entry adapter := by
  rcases @buildFolder_root server csManager adapter fuel entry with ⟨reuses, root⟩ | ⟨reuses, root⟩
  · refine iff_of_false (fun same => ?_) (not_not_intro reuses)
    have lengths := congrArg List.length (root.symm.trans same)
    simp [targetFolder] at lengths
  · exact iff_of_true root reuses

end Copies

end Mapping

open Mapping

/-- The mapping leaves the root folder as it was exactly when no folder entry it reaches
copies to an existing folder. -/
theorem rootFolder_kept_iff (server : UaServer) (csManager : ControlSystemPVManager) (fuel : Nat) (mapFile : MapFile)
    (adapter : UaAdapter) :
    (outcome (applyMapping server csManager fuel mapFile) adapter).2.serverConfig.rootFolder =
        adapter.serverConfig.rootFolder ↔
      ∀ done entry rest state, mapFile.folders = done ++ entry :: rest →
        Reaches (buildFolder server csManager fuel) adapter done state → ¬ ReusedBy server entry state := by
  have variables_kept : KeepsRoot (explicitVarMapping server csManager mapFile.processVariables >>= fun _ =>
      addAdditionalVariables server mapFile.additionalVariables) :=
    Keeps.bind (explicitVarMapping_keeps server csManager _) fun _ => addAdditionalVariables_keeps server _
  have folders : rootFolderOf (outcome (applyMapping server csManager fuel mapFile) adapter).2 =
      rootFolderOf (outcome (buildFolderStructure server csManager fuel mapFile.folders) adapter).2 :=
    view_bind rootFolderOf (fun _ => variables_kept) adapter
  have rounds := forM_sameView_iff (buildFolder_raises server csManager fuel) mapFile.folders adapter
  simp only [Undisturbed, sameRoot_buildFolder_iff] at rounds
  rw [← rounds]
  exact Eq.congr_left folders

def slashedDestination : ControlSystemPVManager where
  getAllProcessVariables := [⟨"/a/x/v", .int32, true, 1, []⟩, ⟨"/s/w", .int32, true, 1, []⟩]
  getProcessVariable name :=
    if name = "a/x/v" then some ⟨"/a/x/v", .int32, true, 1, []⟩
    else if name = "s/w" then some ⟨"/s/w", .int32, true, 1, []⟩
    else none
  finds := by decide

/-- The folder `x` of `/a` exists, but not under the node id with the two slashes. -/
theorem slashed_destination_moves_root :
    let start : UaAdapter :=
      ({ serverConfig := { rootFolder := "r" } } : UaAdapter).mapSelfToNamespace unusedServer
        |>.implicitMapping unusedServer slashedDestination {}
    let entry : FolderEntry :=
      { sourceName := some "s", copy := some "true", destination := some "/a", name := some "x" }
    start.serverConfig.rootFolder = "r" ∧
      (outcome (applyMapping unusedServer slashedDestination 4 { folders := [entry] }) start).1.isOk = true ∧
      (outcome (applyMapping unusedServer slashedDestination 4 { folders := [entry] }) start).2.serverConfig.rootFolder =
        "r//a/xDir" :=
  ⟨by decide +kernel, by decide +kernel, by decide +kernel⟩

end OpcUaAdapter
