import OpcUaAdapter.Proofs.CopiedNames

/-! The folder entries and the last elements of empty sequences: a history that cannot be
assigned is reported without a second message, and a copy takes the last part of the name of
each variable it comes to. -/

namespace OpcUaAdapter

open Effects

def KeepsSources (before after : UaAdapter) : Prop := SourcesKnown before.space → SourcesKnown after.space

theorem KeepsSources.of_same {before after : UaAdapter}
    (nodes : ∀ nodeId, before.space.hasNode nodeId = true → after.space.hasNode nodeId = true)
    (references : after.space.references = before.space.references) : KeepsSources before after :=
  fun known => known.of_same nodes references

instance : LocalSteps KeepsSources where
  refl _ := id
  trans _ _ _ first rest := rest ∘ first
  aside same := .of_same (fun _ has => same.space ▸ has) (congrArg _ same.space)
  writeDescription _ _ _ := .of_same (fun _ has => (AddressSpace.hasNode_writeDescription _ _ _ _).trans has) rfl
  writeDisplayName _ _ _ := .of_same (fun _ has => (AddressSpace.hasNode_writeDisplayName _ _ _ _).trans has) rfl

instance : FaultSteps KeepsSources where
  fault _ _ := id

instance : RootSteps KeepsSources where
  move _ _ := id

instance : AdditionalSteps KeepsSources where
  enter _ _ := id

section Served

variable {server : UaServer} (law : ChecksNodes server)

include law

theorem linkSteps_sources : LinkSteps server KeepsSources where
  addReference adapter reference := by
    intro known
    unfold AddressSpace.addReference
    split
    next grants =>
      intro other member
      rcases List.mem_append.mp member with old | new
      · exact known other old
      · rw [List.mem_singleton.mp new]
        exact law.sources adapter.space reference grants
    next => exact known

theorem serverSteps_sources : ServerSteps server KeepsSources where
  addComponent adapter _ _ := (linkSteps_sources law).addReference adapter _
  createFolder adapter base folderName := (SourcesKnown.steps law.below).createFolder adapter base folderName []
  enroll adapter path separator := (SourcesKnown.steps law.below).enroll adapter path separator
  newProcessVariable adapter base oneProcessVariable _ _ :=
    (SourcesKnown.steps law.below).newProcessVariable adapter base oneProcessVariable rfl
      (fun _ _ _ => trivial) fun _ _ _ _ => trivial
  newAdditionalVariable adapter base name value description known := by
    have steps := SourcesKnown.steps law.below
    simp only [UaAdapter.newAdditionalVariable]
    split
    next => exact known
    next => exact steps.addNode _ trivial _ (steps.addNode _ trivial _ known)

/-- The sources are known when the map file is applied. -/
theorem mappedAdapter_sources (csManager : ControlSystemPVManager) (serverConfig : ServerConfig) (pvSeparator : Text)
    (mappingExceptions : Bool) (mapFile : MapFile) :
    SourcesKnown (mappedAdapter server csManager serverConfig pvSeparator mappingExceptions mapFile).space := by
  have steps := SourcesKnown.steps law.below
  have mapped (adapter : UaAdapter) (oneProcessVariable : ProcessVariable) (known : SourcesKnown adapter.space) :
      SourcesKnown (adapter.implicitVarMapping server oneProcessVariable).space := by
    have enrolled := steps.enroll adapter oneProcessVariable.name adapter.pvSeparator known
    have entered (base : NodeId) (name : Text) :=
      (steps.newProcessVariable (adapter.enrollFolderPathFromString server oneProcessVariable.name adapter.pvSeparator).2
        base oneProcessVariable (@rfl _ (if name.isEmpty then oneProcessVariable.name.drop 1 else name))
        (fun _ _ _ => trivial) fun _ _ _ _ => trivial) enrolled
    simp only [UaAdapter.implicitVarMapping]
    split
    next => exact (entered _ _).of_same (fun _ has => (AddressSpace.hasNode_writeDisplayName _ _ _ _).trans has) rfl
    next => exact (entered _ _).of_same (fun _ has => (AddressSpace.hasNode_writeDisplayName _ _ _ _).trans has) rfl
  have start : SourcesKnown (({ serverConfig, pvSeparator, mappingExceptions } : UaAdapter).mapSelfToNamespace server).space :=
    steps.addNode _ trivial _ (steps.addNode _ trivial _ (steps.addNode _ trivial _ fun _ member =>
      absurd member List.not_mem_nil))
  have fold (processVariables : List ProcessVariable) (adapter : UaAdapter) (known : SourcesKnown adapter.space) :
      SourcesKnown (processVariables.foldl (UaAdapter.implicitVarMapping server) adapter).space := by
    induction processVariables generalizing adapter with
    | nil => exact known
    | cons pv processVariables ih => exact ih _ (mapped adapter pv known)
  exact fold _ _ start

end Served

/-- The history of the entry is given without a source, or with a copy that has no name. -/
def FolderEntry.HistoryMisplaced (entry : FolderEntry) : Prop :=
  getAttributeValueFromNode entry.history ≠ [] ∧
    (getAttributeValueFromNode entry.sourceName = [] ∨
      entry.name = none ∧ toupper (getAttributeValueFromNode entry.copy) ≠ [] ∧
        toupper (getAttributeValueFromNode entry.copy) ≠ "FALSE")

namespace Mapping

theorem folderHistory_faults_iff (entry : FolderEntry) (adapter : UaAdapter) :
    SameView accessFaults adapter (outcome (folderHistory entry) adapter).2 ↔ ¬ entry.HistoryMisplaced := by
  unfold folderHistory
  cases given : (getAttributeValueFromNode entry.history).isEmpty with
  | true => exact iff_of_true rfl fun misplaced => misplaced.1 (List.isEmpty_iff.mp given)
  | false =>
    have history : getAttributeValueFromNode entry.history ≠ [] := List.isEmpty_eq_false_iff.mp given
    have chosen (effect : Mapping Unit) : when (!false) effect = effect := rfl
    rw [chosen]
    have added (setups : UaAdapter → List AdapterFolderHistorySetup) :
        Keeps (SameView accessFaults) (modify fun adapter =>
          { adapter with serverConfig.historyfolders := setups adapter } : Mapping Unit) :=
      aside_keeps fun _ => ⟨rfl, rfl, rfl, rfl, rfl, rfl, List.prefix_rfl, rfl⟩
    unfold addFolderHistory
    by_cases sourced : getAttributeValueFromNode entry.sourceName = []
    · refine iff_of_false ?_ (not_not_intro ⟨history, .inl sourced⟩)
      rw [List.isEmpty_iff.mpr sourced]
      have raises : Keeps AddsFaults (when true
          (raiseError "Can not add history if no sourceName attribute is set." [] entry.line)) := raiseError_keeps _ _ _
      refine raised_bind raises (fun _ => Keeps.read fun current => ?_) (raiseError_faults _ _ adapter)
      dsimp only
      split
      · split
        · exact (added _).raises
        · exact (added _).raises
      · split
        · exact (added _).raises
        · exact raiseError_keeps _ _ _
    · have unraised (effect : Mapping Unit) : outcome (when (getAttributeValueFromNode entry.sourceName).isEmpty effect)
          adapter = (.ok (), adapter) := by
        rw [List.isEmpty_eq_false_iff.mpr sourced]
        rfl
      rw [outcome_bind_ok (unraised _), outcome_bind_ok (outcome_get adapter)]
      cases named : entry.name with
      | some name =>
        have free : ¬ entry.HistoryMisplaced := by simp [FolderEntry.HistoryMisplaced, sourced, named]
        simp only [Option.isSome_some, if_true]
        split
        · exact iff_of_true (added _ adapter) free
        · exact iff_of_true (added _ adapter) free
      | none =>
        simp only [Option.isSome_none, Bool.false_eq_true, if_false]
        split
        next kept =>
          refine iff_of_true (added _ adapter) ?_
          rintro ⟨-, unsourced | ⟨-, given, copies⟩⟩
          · exact sourced unsourced
          · exact copies (by simpa [given] using kept)
        next copies =>
          refine iff_of_false (raiseError_faults _ _ adapter) (not_not_intro ⟨history, .inr ⟨named, ?_⟩⟩)
          simpa using copies

section Copies

variable {server : UaServer} (law : AddsBelow server) (csManager : ControlSystemPVManager) {adapter : UaAdapter}
  (known : SourcesKnown adapter.space)

include law known

theorem copyFolder_faults (fuel : Nat) {source : NodeId} (names : adapter.space.NamesBelow source) (base : NodeId)
    (destination folder description : Text) :
    SameView accessFaults adapter
      (outcome (copyFolder server csManager fuel source base destination folder description) adapter).2 := by
  have start : Copying (accessFaults adapter) source (· = source) adapter :=
    ⟨rfl, known, names, fun layer same => same ▸ .refl⟩
  have carried : Carries (accessFaults adapter) source (· = source)
      (copyFolder server csManager fuel source base destination folder description) := by
    have created : Carries (accessFaults adapter) source (· = source) (createFolder server base folder) :=
      Yields.modifyGet fun _ copying => copying.createFolder law base folder
    have existing : Carries (accessFaults adapter) source (· = source) (existingDestination destination folder) := by
      have noted : Carries (accessFaults adapter) source (· = source) (note .danglingNodeId) :=
        Yields.modify fun _ copying => ⟨by simpa [accessFaults] using copying.faults, copying.known, copying.names,
          copying.reached⟩
      have moved : Carries (accessFaults adapter) source (· = source) (modify fun adapter =>
          { adapter with
            serverConfig.rootFolder :=
              adapter.serverConfig.rootFolder ++ '/' :: destination ++ '/' :: folder ++ "Dir" } : Mapping Unit) :=
        Yields.modify fun _ copying => copying.of_same rfl rfl
      refine Yields.bind noted fun _ => Yields.ite ?_ (Yields.bind moved fun _ => ?_)
      · exact Yields.read fun _ copying => Yields.pure fun _ same => same ▸ copying
      · exact Yields.read fun _ copying => Yields.pure fun _ same => same ▸ copying
    refine Yields.bind created fun folderId => ?_
    refine Yields.bind (Yields.ite existing (Yields.pure fun _ => id)) fun copyRoot => ?_
    refine Yields.bind (deepCopy_carries law csManager fuel copyRoot rfl) fun found => ?_
    exact Yields.bind (describe_carries copyRoot description) fun _ => Yields.pure fun _ => id
  have ends := carried adapter start
  revert ends
  rcases outcome (copyFolder server csManager fuel source base destination folder description) adapter with ⟨_ | _, last⟩
  · exact Copying.faults
  · exact Copying.faults

private theorem mapSourceFolder_faults (fuel : Nat) (entry : FolderEntry) (base : NodeId)
    (sourceName copy destination folder description : Text)
    (names : copy = "TRUE" → sourceName ≠ (if destination.isEmpty then folder else destination ++ '/' :: folder) →
      adapter.space.isFolder (.string (rootFolderOf adapter ++ '/' :: sourceName ++ "Dir")) = true →
        adapter.space.NamesBelow (.string (rootFolderOf adapter ++ '/' :: sourceName ++ "Dir"))) :
    SameView accessFaults adapter
      (outcome (mapSourceFolder server csManager fuel entry base sourceName copy destination folder description)
        adapter).2 := by
  have raised (errorMessage : Text) (filled : errorMessage ≠ []) :
      SameView accessFaults adapter (outcome (raiseError errorMessage "Skipping Folder." entry.line) adapter).2 :=
    report_keeps filled (by simp) _ adapter
  unfold mapSourceFolder
  split
  next => exact raised _ (by simp)
  next elsewhere =>
  rw [outcome_bind_ok (outcome_get adapter), outcome_bind_ok (outcome_get adapter)]
  split
  next => exact raised _ (by simp)
  next source =>
  split
  next => exact raised _ (by simp)
  next =>
  have linked (foundMethod : Bool) : Keeps (SameView accessFaults) (when (copy ≠ "TRUE" || foundMethod)
      (linkFolder server (.string (adapter.serverConfig.rootFolder ++ '/' :: sourceName ++ "Dir")) base destination
        folder description foundMethod)) := when_keeps (linkFolder_keeps server _ _ _ _ _ _) _
  rw [SameView, view_bind accessFaults linked]
  split
  next copies =>
    refine copyFolder_faults law csManager known fuel (names copies ?_ (by simpa [rootFolderOf] using source)) base _ _ _
    split
    next empty => simpa [empty] using elsewhere
    next nested => simpa [nested] using elsewhere
  next => rfl

private theorem placeFolder_faults (fuel : Nat) (entry : FolderEntry) {sourceName copy destination folder : Text}
    (named : folder ≠ []) (description : Text)
    (names : copy = "TRUE" → MapsSource server adapter sourceName destination folder →
      adapter.space.NamesBelow (.string (rootFolderOf adapter ++ '/' :: sourceName ++ "Dir"))) :
    SameView accessFaults adapter
      (outcome (placeFolder server csManager fuel entry sourceName copy destination folder description) adapter).2 := by
  have root := @enrolledDestination_root server adapter destination
  have kept : Keeps (SameView accessFaults) (enrollDestination server destination) := enrollDestination_keeps server _
  have enrolled : accessFaults (enrolledDestination server adapter destination).2 = accessFaults adapter := by
    have same := kept adapter
    rwa [outcome_enrollDestination] at same
  unfold placeFolder
  rw [outcome_bind_ok (outcome_get adapter)]
  dsimp only
  generalize pvNode_eq : (if destination.isEmpty = true then
    NodeId.string (adapter.serverConfig.rootFolder ++ '/' :: folder ++ "Dir")
    else .string (adapter.serverConfig.rootFolder ++ '/' :: destination ++ '/' :: folder ++ "Dir")) = pvNode
  split
  next => exact Keeps.ite (writeDescription_keeps _ _) (report_keeps (by simp) (by simp) _) adapter
  next free =>
  split
  next => exact report_keeps (by simp) (by simp) _ adapter
  next =>
  rw [outcome_bind_ok (outcome_enrollDestination destination), SameView, ← enrolled]
  split
  next sourced =>
    have space := @enrolledDestination_space server adapter destination
    have later : SourcesKnown (enrolledDestination server adapter destination).2.space := by
      rw [space]
      exact (SourcesKnown.steps law).enroll adapter _ _ known
    refine mapSourceFolder_faults law csManager later fuel entry _ _ _ _ _ _ fun copies elsewhere source => ?_
    rw [root] at source ⊢
    rw [space]
    refine ((namesBelow_steps law _).enroll adapter _ _ ⟨known, names copies ⟨named, by simpa using sourced, ?_, elsewhere,
      source⟩⟩).2
    rw [Bool.not_eq_true] at free
    rw [← free, ← pvNode_eq, rootFolderOf, targetFolder]
    split
    · rfl
    · rfl
  next =>
    have plain : Keeps (SameView accessFaults) (createFolder server (enrolledDestination server adapter destination).1
        folder >>= fun retnode => when (copy.isEmpty && sourceName.isEmpty && !description.isEmpty)
          (writeDescription retnode description)) :=
      Keeps.bind (createFolder_keeps server _ _) fun _ => when_keeps (writeDescription_keeps _ _) _
    exact plain _

/-- The source that an entry copies shows names with parts when its history is assigned. -/
def CopiesShown (server : UaServer) (entry : FolderEntry) (adapter : UaAdapter) : Prop :=
  let sourceName := getAttributeValueFromNode entry.sourceName
  ∀ recorded, outcome (folderHistory entry) adapter = (.ok (), recorded) →
    toupper (getAttributeValueFromNode entry.copy) = "TRUE" →
    MapsSource server recorded sourceName (elementContent entry.destination) (elementContent entry.name) →
      recorded.space.NamesBelow (.string (rootFolderOf recorded ++ '/' :: sourceName ++ "Dir"))

/-- The step lemma: one folder entry. -/
theorem buildFolder_faults (fuel : Nat) {entry : FolderEntry} (placed : ¬ entry.HistoryMisplaced)
    (shown : CopiesShown server entry adapter) :
    SameView accessFaults adapter (outcome (buildFolder server csManager fuel entry) adapter).2 := by
  have recorded := (folderHistory_faults_iff entry adapter).mpr placed
  have sources : Keeps KeepsSources (folderHistory entry) := when_keeps (addFolderHistory_keeps _ _ _ _ _ _) _
  have later := sources adapter known
  rw [buildFolder_eq, outcome_bind]
  unfold CopiesShown at shown
  revert shown recorded later
  rcases outcome (folderHistory entry) adapter with ⟨_ | _, middle⟩
  · exact fun _ recorded _ => recorded
  · intro shown recorded later
    dsimp only
    rw [SameView, ← recorded]
    split
    next =>
      have raised : Keeps (SameView accessFaults) (when (getAttributeValueFromNode entry.history).isEmpty
          (raiseError "Folder creation failed. Name or history assignment is missing." "Skipping Folder." entry.line)) :=
        when_keeps (report_keeps (by simp) (by simp) _) _
      exact raised middle
    next named =>
      exact placeFolder_faults law csManager later fuel entry (by simpa using named) _ (shown middle rfl)

end Copies

end Mapping

end OpcUaAdapter
