import OpcUaAdapter.Proofs.VariableSorting
import OpcUaAdapter.Proofs.VariableUpdates

/-! An invariant of the mapping: what each of the steps keeps that the mapping is made of, each
entry of the map file keeps, wherever it ends. -/

namespace OpcUaAdapter

open Effects

def UaAdapter.withVariable (adapter : UaAdapter) (processVariable : UaProcessVariable) : UaAdapter :=
  { adapter with variableVector := adapter.variableVector ++ [processVariable] }

/-- A process variable that is made comes to the others, or is dropped when it has no node. -/
structure VariableSteps (server : UaServer) (csManager : ControlSystemPVManager) (invariant : UaAdapter → Prop) : Prop where
  aside : ∀ {before after : UaAdapter}, after.variableVector = before.variableVector →
    after.additionalVariables = before.additionalVariables → after.space = before.space → invariant before → invariant after
  writeDescription : ∀ {adapter : UaAdapter} (nodeId description), invariant adapter →
    invariant { adapter with space := adapter.space.writeDescription nodeId description }
  writeDisplayName : ∀ {adapter : UaAdapter} (nodeId displayName), invariant adapter →
    invariant { adapter with space := adapter.space.writeDisplayName nodeId displayName }
  relabel : ∀ {adapter : UaAdapter} (nodeId unit description), invariant adapter →
    invariant { adapter with variableVector := adapter.variableVector.map (·.relabel nodeId unit description) }
  addReference : ∀ {adapter : UaAdapter} (reference), invariant adapter →
    invariant { adapter with space := adapter.space.addReference server reference }
  createFolder : ∀ {adapter : UaAdapter} (base folderName), invariant adapter →
    invariant (adapter.createFolder server base folderName).2
  enroll : ∀ {adapter : UaAdapter} (path separator), invariant adapter →
    invariant (adapter.enrollFolderPathFromString server path separator).2
  newProcessVariable : ∀ {adapter : UaAdapter} {namePV : Text} {oneProcessVariable : ProcessVariable},
    csManager.getProcessVariable namePV = some oneProcessVariable → ∀ base overwriteNodeString, invariant adapter →
      let created := adapter.newProcessVariable server base oneProcessVariable namePV overwriteNodeString
      invariant (created.2.withVariable created.1) ∧ (created.1.ownNodeId.isNull = true → invariant created.2)
  newAdditionalVariable : ∀ {adapter : UaAdapter} (base name value description), invariant adapter →
    let created := adapter.newAdditionalVariable server base name value description
    invariant { created.2 with additionalVariables := created.2.additionalVariables ++ [created.1] }

namespace Mapping

/-- The computation keeps the invariant, also where it fails. -/
def Stays {α : Type} (invariant : UaAdapter → Prop) (effect : Mapping α) : Prop :=
  Yields invariant effect (fun _ => invariant) fun _ => invariant

section Parts

variable {invariant : UaAdapter → Prop} {α β : Type}

theorem Stays.pure (value : α) : Stays invariant (Pure.pure value) := Yields.pure fun _ => id

theorem Stays.throw (error : MappingError) : Stays invariant (MonadExcept.throw error : Mapping α) :=
  Yields.throw fun _ => id

theorem Stays.bind {effect : Mapping α} {next : α → Mapping β} (first : Stays invariant effect)
    (second : ∀ value, Stays invariant (next value)) : Stays invariant (effect >>= next) := Yields.bind first second

theorem Stays.read {next : UaAdapter → Mapping β} (each : ∀ adapter, Stays invariant (next adapter)) :
    Stays invariant (MonadState.get >>= next) :=
  Yields.read fun adapter holds => Yields.weaken (each adapter) fun _ same => same ▸ holds

theorem Stays.ite {condition : Prop} [Decidable condition] {first second : Mapping α} (here : Stays invariant first)
    (there : Stays invariant second) : Stays invariant (if condition then first else second) := Yields.ite here there

theorem Stays.when {effect : Mapping Unit} (stays : Stays invariant effect) (condition : Bool) :
    Stays invariant (when condition effect) := Stays.ite stays (Stays.pure ())

theorem Stays.forM {list : List α} {effect : α → Mapping PUnit} (each : ∀ value, Stays invariant (effect value)) :
    Stays invariant (list.forM effect) := Yields.forM fun value _ => each value

theorem Stays.outcome {effect : Mapping α} (stays : Stays invariant effect) {adapter : UaAdapter}
    (holds : invariant adapter) : invariant (outcome effect adapter).2 := by
  have reached := stays adapter holds
  revert reached
  rcases Effects.outcome effect adapter with ⟨_ | _, last⟩
  · exact id
  · exact id

end Parts

section Served

variable {server : UaServer} {csManager : ControlSystemPVManager} {invariant : UaAdapter → Prop}
  (steps : VariableSteps server csManager invariant)

include steps

/-- Neither the variables nor the address space change. -/
theorem Stays.aside {change : UaAdapter → UaAdapter}
    (same : ∀ adapter, (change adapter).variableVector = adapter.variableVector ∧
      (change adapter).additionalVariables = adapter.additionalVariables ∧ (change adapter).space = adapter.space) :
    Stays invariant (modify change : Mapping Unit) :=
  Yields.modify fun adapter => steps.aside (same adapter).1 (same adapter).2.1 (same adapter).2.2

theorem note_stays (step : UndefinedStep) : Stays invariant (note step) := .aside steps fun _ => ⟨rfl, rfl, rfl⟩

theorem raiseError_stays (errorMessage consequenceMessage : Text) (line : Int) :
    Stays invariant (raiseError errorMessage consequenceMessage line) :=
  .bind (.when (note_stays steps _) _) fun _ => .read fun _ => .ite (.throw _) (.aside steps fun _ => ⟨rfl, rfl, rfl⟩)

theorem lastToken_stays (path : Text) : Stays invariant (lastToken path) := .bind (.when (note_stays steps _) _) fun _ => .pure _

theorem writeDescription_stays (nodeId : NodeId) (description : Text) : Stays invariant (writeDescription nodeId description) :=
  Yields.modify fun _ => steps.writeDescription nodeId description

theorem writeDisplayName_stays (nodeId : NodeId) (displayName : Text) : Stays invariant (writeDisplayName nodeId displayName) :=
  Yields.modify fun _ => steps.writeDisplayName nodeId displayName

theorem addReference_stays (reference : UaReference) : Stays invariant (addReference server reference) :=
  Yields.modify fun _ => steps.addReference reference

theorem createFolder_stays (base : NodeId) (folderName : Text) : Stays invariant (createFolder server base folderName) :=
  Yields.modifyGet fun _ => steps.createFolder base folderName

theorem enrollFolderPathFromString_stays (path separator : Text) :
    Stays invariant (enrollFolderPathFromString server path separator) :=
  Yields.modifyGet fun _ => steps.enroll path separator

theorem readSourceName_stays (nodeId : NodeId) : Stays invariant (readSourceName nodeId) := by
  unfold readSourceName
  refine .read fun adapter => ?_
  dsimp only
  split
  · exact .pure _
  · exact .bind (note_stays steps _) fun _ => .pure _

theorem newProcessVariable_stays (base : NodeId) (namePV overwriteNodeString : Text) :
    Yields invariant (newProcessVariable server csManager base namePV overwriteNodeString)
      (fun created adapter => invariant (adapter.withVariable created) ∧
        (created.ownNodeId.isNull = true → invariant adapter))
      fun _ => invariant := by
  unfold newProcessVariable
  split
  · exact Yields.throw fun _ => id
  next oneProcessVariable known =>
    exact Yields.modifyGet fun adapter => steps.newProcessVariable known base overwriteNodeString

omit steps in
theorem pushVariable_stays (processVariable : UaProcessVariable) :
    Yields (fun adapter => invariant (adapter.withVariable processVariable)) (pushVariable processVariable)
      (fun _ => invariant) fun _ => invariant := Yields.modify fun _ => id

section Folders

theorem addFolderHistory_stays (entry : FolderEntry) (sourceName copy destination folder history : Text) :
    Stays invariant (addFolderHistory entry sourceName copy destination folder history) := by
  refine .bind (.when (raiseError_stays steps _ _ _) _) fun _ => .read fun adapter => ?_
  have add (folderNodeId : NodeId) : Stays invariant (modify fun adapter : UaAdapter =>
      { adapter with
        serverConfig.historyfolders := adapter.serverConfig.historyfolders ++ [⟨history, folderNodeId⟩] }) :=
    .aside steps fun _ => ⟨rfl, rfl, rfl⟩
  exact .ite (.ite (add _) (add _)) (.ite (add _) (raiseError_stays steps _ _ _))

theorem copyComponent_stays (target : NodeId) (rd : UaNode) : Stays invariant (copyComponent server csManager target rd) := by
  refine .ite (.bind (readSourceName_stays steps _) fun sourceName => .bind (lastToken_stays steps _) fun name => ?_) (.pure _)
  refine Yields.bind (newProcessVariable_stays steps _ _ _) fun created => ?_
  exact Yields.weaken (pushVariable_stays created) fun _ => And.left

theorem deepCopyHierarchicalLayer_stays (fuel : Nat) (layer target : NodeId) :
    Stays invariant (deepCopyHierarchicalLayer server csManager fuel layer target) := by
  induction fuel generalizing layer target with
  | zero => exact .throw _
  | succ fuel ih =>
    refine .read fun adapter => .bind (.forM fun rd => copyComponent_stays steps target rd) fun _ => ?_
    refine .read fun copied => .bind (Yields.mapM fun rd _ => ?_) fun _ => .pure _
    refine Stays.read fun current => ?_
    split
    · exact .pure _
    · refine .bind (createFolder_stays steps _ _) fun created => ?_
      exact .bind (.when (writeDescription_stays steps _ _) _) fun _ => ih _ _

theorem enrollDestination_stays (destination : Text) : Stays invariant (enrollDestination server destination) := by
  refine .bind (enrollFolderPathFromString_stays steps _ _) fun folder => ?_
  exact .ite (.bind (note_stays steps _) fun _ => .read fun _ => .pure _) (.pure _)

theorem existingDestination_stays (destination folder : Text) : Stays invariant (existingDestination destination folder) := by
  refine .bind (note_stays steps _) fun _ => .ite (.read fun _ => .pure _) ?_
  exact .bind (.aside steps fun _ => ⟨rfl, rfl, rfl⟩) fun _ => .read fun _ => .pure _

theorem copyFolder_stays (fuel : Nat) (sourceFolderId folderPathNodeId : NodeId) (destination folder description : Text) :
    Stays invariant (copyFolder server csManager fuel sourceFolderId folderPathNodeId destination folder description) := by
  refine .bind (createFolder_stays steps _ _) fun created => ?_
  refine .bind (.ite (existingDestination_stays steps _ _) (.pure _)) fun copyRoot => ?_
  refine .bind (deepCopyHierarchicalLayer_stays steps _ _ _) fun foundMethod => ?_
  exact .bind (.when (writeDescription_stays steps _ _) _) fun _ => .pure _

theorem linkFolder_stays (sourceFolderId folderPathNodeId : NodeId) (destination folder description : Text) (foundMethod : Bool) :
    Stays invariant (linkFolder server sourceFolderId folderPathNodeId destination folder description foundMethod) := by
  refine .read fun adapter => .bind (.ite (createFolder_stays steps _ _) (.pure _)) fun created => ?_
  refine .bind (.when (writeDescription_stays steps _ _) _) fun _ => .read fun linked => .read fun before => ?_
  refine .bind (.forM fun rd => addReference_stays steps _) fun _ => .read fun after => ?_
  exact .forM fun rd => addReference_stays steps _

theorem mapSourceFolder_stays (fuel : Nat) (entry : FolderEntry) (folderPathNodeId : NodeId)
    (sourceName copy destination folder description : Text) :
    Stays invariant (mapSourceFolder server csManager fuel entry folderPathNodeId sourceName copy destination folder
      description) := by
  unfold mapSourceFolder
  refine .ite (raiseError_stays steps _ _ _) (.read fun adapter => .read fun same => ?_)
  refine .ite (raiseError_stays steps _ _ _) (.ite (raiseError_stays steps _ _ _) ?_)
  refine .bind (.ite (copyFolder_stays steps _ _ _ _ _ _) (.pure _)) fun foundMethod => ?_
  exact .when (linkFolder_stays steps _ _ _ _ _ _) _

theorem placeFolder_stays (fuel : Nat) (entry : FolderEntry) (sourceName copy destination folder description : Text) :
    Stays invariant (placeFolder server csManager fuel entry sourceName copy destination folder description) := by
  unfold placeFolder
  refine .read fun adapter => .ite (.ite (writeDescription_stays steps _ _) (raiseError_stays steps _ _ _)) ?_
  refine .ite (raiseError_stays steps _ _ _) (.bind (enrollDestination_stays steps _) fun base => ?_)
  refine .ite (mapSourceFolder_stays steps _ _ _ _ _ _ _ _) ?_
  exact .bind (createFolder_stays steps _ _) fun _ => .when (writeDescription_stays steps _ _) _

theorem buildFolder_stays (fuel : Nat) (entry : FolderEntry) : Stays invariant (buildFolder server csManager fuel entry) := by
  refine .bind (.when (addFolderHistory_stays steps _ _ _ _ _ _) _) fun _ => .ite (.when (raiseError_stays steps _ _ _) _) ?_
  exact placeFolder_stays steps _ _ _ _ _ _ _

end Folders

section Variables

theorem addVariableHistory_stays (entry : ProcessVariableEntry) (sourceName copy history : Text) :
    Stays invariant (addVariableHistory entry sourceName copy history) := by
  refine .read fun adapter => ?_
  have add (targetNodeId : NodeId) : Stays invariant (modify fun adapter : UaAdapter =>
      { adapter with
        serverConfig.historyvariables := adapter.serverConfig.historyvariables ++ [⟨history, targetNodeId⟩] }) :=
    .aside steps fun _ => ⟨rfl, rfl, rfl⟩
  refine .bind ?_ fun _ => .when (add _) _
  split
  · exact add _
  · exact add _
  · exact .pure _

theorem setUnitAndDescription_stays (nodeId : NodeId) (unit description : Text) :
    Stays invariant (setUnitAndDescription nodeId unit description) := by
  intro adapter holds
  rw [outcome_setUnitAndDescription]
  exact steps.relabel nodeId unit description holds

theorem finishVariable_stays (createdNodeId : NodeId) (name unit description : Text) :
    Stays invariant (finishVariable createdNodeId name unit description) :=
  .bind (setUnitAndDescription_stays steps _ _ _) fun _ => writeDisplayName_stays steps _ _

theorem updateVariable_stays (line : Nat) (sourceName name unit description : Text) :
    Stays invariant (updateVariable line sourceName name unit description) := by
  refine .bind (lastToken_stays steps _) fun last => .bind (.when (note_stays steps _) _) fun _ => .read fun adapter => ?_
  dsimp only
  split
  · exact .ite (raiseError_stays steps _ _ _) (raiseError_stays steps _ _ _)
  · exact setUnitAndDescription_stays steps _ _ _

theorem variableDestination_stays (destination unrollPath : Text) :
    Stays invariant (variableDestination server destination unrollPath) := by
  unfold variableDestination
  refine .ite (.read fun _ => .pure _) (.ite (enrollFolderPathFromString_stays steps _ _) (.ite ?_ ?_))
  · exact .read fun _ => .ite (.pure _) (enrollFolderPathFromString_stays steps _ _)
  · exact enrollFolderPathFromString_stays steps _ _

theorem copyVariable_stays (line : Nat) (sourceName destination unrollPath name unit description : Text) :
    Stays invariant (copyVariable server csManager line sourceName destination unrollPath name unit description) := by
  unfold copyVariable
  refine .ite (raiseError_stays steps _ _ _) (.bind (variableDestination_stays steps _ _) fun base => ?_)
  refine .ite (raiseError_stays steps _ _ _) (Yields.bind (newProcessVariable_stays steps _ _ _) fun created => ?_)
  split
  next null => exact Yields.weaken (raiseError_stays steps _ _ _) fun _ made => made.2 null
  next =>
    exact Yields.bind (Yields.weaken (pushVariable_stays created) fun _ => And.left) fun _ => finishVariable_stays steps _ _ _ _

theorem linkVariable_stays (parentSourceId : NodeId) (sourceName destination name unit description history : Text) :
    Stays invariant (linkVariable server parentSourceId sourceName destination name unit description history) := by
  refine .bind (lastToken_stays steps _) fun last => .ite (.when (raiseError_stays steps _ _ _) _) ?_
  refine .bind (enrollFolderPathFromString_stays steps _ _) fun base => ?_
  exact .bind (addReference_stays steps _) fun _ => finishVariable_stays steps _ _ _ _

theorem mapProcessVariable_stays (entry : ProcessVariableEntry) : Stays invariant (mapProcessVariable server csManager entry) := by
  refine .bind (.when (addVariableHistory_stays steps _ _ _ _) _) fun _ => ?_
  refine .ite (.ite (raiseError_stays steps _ _ _) (raiseError_stays steps _ _ _)) (.ite (updateVariable_stays steps _ _ _ _ _) ?_)
  refine .read fun adapter => .ite (.ite (raiseError_stays steps _ _ _) (raiseError_stays steps _ _ _)) ?_
  exact .ite (copyVariable_stays steps _ _ _ _ _ _ _) (linkVariable_stays steps _ _ _ _ _ _ _)

/-- The variable is entered where the step before it makes it. -/
theorem addAdditionalVariable_stays (entry : AdditionalVariableEntry) : Stays invariant (addAdditionalVariable server entry) := by
  refine .read fun adapter =>
    .ite (raiseError_stays steps _ _ _) (.ite (raiseError_stays steps _ _ _) (.ite (raiseError_stays steps _ _ _) ?_))
  refine .bind (.ite (enrollFolderPathFromString_stays steps _ _) (.pure _)) fun base => .ite (raiseError_stays steps _ _ _) ?_
  have made (name value description : Text) : Yields invariant
      (modifyGet fun adapter => adapter.newAdditionalVariable server base name value description : Mapping _)
      (fun created adapter => invariant { adapter with additionalVariables := adapter.additionalVariables ++ [created] })
      fun _ => invariant := Yields.modifyGet fun _ => steps.newAdditionalVariable base name value description
  exact Yields.bind (made _ _ _) fun created => Yields.modify fun _ => id

end Variables

theorem buildFolderStructure_stays (fuel : Nat) (folders : List FolderEntry) :
    Stays invariant (buildFolderStructure server csManager fuel folders) := .forM fun entry => buildFolder_stays steps fuel entry

theorem explicitVarMapping_stays (processVariables : List ProcessVariableEntry) :
    Stays invariant (explicitVarMapping server csManager processVariables) := .forM fun entry => mapProcessVariable_stays steps entry

theorem addAdditionalVariables_stays (additionalVariables : List AdditionalVariableEntry) :
    Stays invariant (addAdditionalVariables server additionalVariables) :=
  .forM fun entry => addAdditionalVariable_stays steps entry

theorem applyMapping_stays (fuel : Nat) (mapFile : MapFile) : Stays invariant (applyMapping server csManager fuel mapFile) :=
  .bind (buildFolderStructure_stays steps fuel _) fun _ =>
    .bind (explicitVarMapping_stays steps _) fun _ => addAdditionalVariables_stays steps _

end Served

end Mapping

namespace VariableSteps

variable {server : UaServer} {csManager : ControlSystemPVManager} {invariant : UaAdapter → Prop}
  (steps : VariableSteps server csManager invariant)

include steps

theorem implicitVarMapping {adapter : UaAdapter} {oneProcessVariable : ProcessVariable}
    (known : csManager.getProcessVariable (oneProcessVariable.name.drop 1) = some oneProcessVariable)
    (holds : invariant adapter) : invariant (adapter.implicitVarMapping server oneProcessVariable) := by
  have enrolled := steps.enroll oneProcessVariable.name adapter.pvSeparator holds
  have entered (base : NodeId) (overwriteNodeString displayName : Text) :=
    steps.writeDisplayName ((adapter.enrollFolderPathFromString server oneProcessVariable.name
      adapter.pvSeparator).2.newProcessVariable server base oneProcessVariable (oneProcessVariable.name.drop 1)
      overwriteNodeString).1.ownNodeId displayName (steps.newProcessVariable known base overwriteNodeString enrolled).1
  simp only [UaAdapter.implicitVarMapping]
  split
  · exact entered _ _ _
  · exact entered _ _ _

theorem implicitMapping {adapter : UaAdapter} (mapFile : MapFile) (holds : invariant adapter) :
    invariant (adapter.implicitMapping server csManager mapFile) := by
  have listed := (implicitlyMapped_sublist mapFile csManager.getAllProcessVariables).subset
  unfold UaAdapter.implicitMapping
  refine List.foldlRecOn _ _ holds fun before here oneProcessVariable member => ?_
  obtain ⟨name, mapped, found⟩ := List.mem_filterMap.mp member
  obtain ⟨pv, there, rfl⟩ := List.mem_map.mp (listed mapped)
  obtain rfl : pv = oneProcessVariable := Option.some.inj ((csManager.finds pv there).symm.trans found)
  exact steps.implicitVarMapping found here

end VariableSteps

end OpcUaAdapter
