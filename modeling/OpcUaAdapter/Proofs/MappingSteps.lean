import OpcUaAdapter.ExplicitMapping
import OpcUaAdapter.Library.Effects

/-! What the mapping keeps because each of its steps does: a relation between adapters is
shown once for the steps, and then holds for all that is built from them. The entering of
additional variables, the linking of folders, the reuse of a copy's folder and the notes of
empty sequences are steps of their own, which fewer relations are kept by. -/

namespace OpcUaAdapter

open Effects

def rootFolderOf (adapter : UaAdapter) : Text := adapter.serverConfig.rootFolder

/-- The notes of steps that take the last element of an empty sequence or a length below zero. -/
def accessFaults (adapter : UaAdapter) : List UndefinedStep :=
  adapter.undefinedSteps.filter fun step => step = .emptyBack || step = .sizeUnderflow

/-- Neither the nodes, the references, the folder table, the root folder nor the additional
variables have changed, nor how errors are raised, and only other steps have been noted. -/
structure SameTables (before after : UaAdapter) : Prop where
  space : after.space = before.space
  folders : after.folderVector = before.folderVector
  root : rootFolderOf after = rootFolderOf before
  own : after.ownNodeId = before.ownNodeId
  additionalVariables : after.additionalVariables = before.additionalVariables
  exceptions : after.mappingExceptions = before.mappingExceptions
  warnings : before.warnings <+: after.warnings
  faults : accessFaults after = accessFaults before

/-- The relations that are kept where these tables are. -/
class LocalSteps (relation : UaAdapter → UaAdapter → Prop) : Prop extends
    Std.Refl relation, IsTrans UaAdapter relation where
  aside : ∀ {before after : UaAdapter}, SameTables before after → relation before after
  writeDescription : ∀ (adapter : UaAdapter) nodeId description,
    relation adapter { adapter with space := adapter.space.writeDescription nodeId description }
  writeDisplayName : ∀ (adapter : UaAdapter) nodeId displayName,
    relation adapter { adapter with space := adapter.space.writeDisplayName nodeId displayName }

/-- The relations that are kept when any step without defined behaviour is noted. -/
class FaultSteps (relation : UaAdapter → UaAdapter → Prop) : Prop where
  fault : ∀ (adapter : UaAdapter) step,
    relation adapter { adapter with undefinedSteps := adapter.undefinedSteps ++ [step] }

/-- The relations that are kept when the server is asked for nodes and components. -/
class ServerSteps (server : UaServer) (relation : UaAdapter → UaAdapter → Prop) : Prop where
  addComponent : ∀ (adapter : UaAdapter) source target,
    relation adapter { adapter with space := adapter.space.addReference server ⟨source, .hasComponent, target⟩ }
  createFolder : ∀ (adapter : UaAdapter) base folderName, relation adapter (adapter.createFolder server base folderName).2
  enroll : ∀ (adapter : UaAdapter) path separator,
    relation adapter (adapter.enrollFolderPathFromString server path separator).2
  newProcessVariable : ∀ (adapter : UaAdapter) base oneProcessVariable namePV overwriteNodeString,
    relation adapter (adapter.newProcessVariable server base oneProcessVariable namePV overwriteNodeString).2
  newAdditionalVariable : ∀ (adapter : UaAdapter) base name value description,
    relation adapter (adapter.newAdditionalVariable server base name value description).2

/-- The relations that are kept when an additional variable is entered. -/
class AdditionalSteps (relation : UaAdapter → UaAdapter → Prop) : Prop where
  enter : ∀ (adapter : UaAdapter) additionalVariable,
    relation adapter { adapter with additionalVariables := adapter.additionalVariables ++ [additionalVariable] }

/-- The relations that are kept when a folder is linked. -/
class LinkSteps (server : UaServer) (relation : UaAdapter → UaAdapter → Prop) : Prop where
  addReference : ∀ (adapter : UaAdapter) reference,
    relation adapter { adapter with space := adapter.space.addReference server reference }

/-- The relations that are kept when the root folder gets another name. -/
class RootSteps (relation : UaAdapter → UaAdapter → Prop) : Prop where
  move : ∀ (adapter : UaAdapter) rootFolder, relation adapter { adapter with serverConfig.rootFolder := rootFolder }

namespace Mapping

section Local

variable {relation : UaAdapter → UaAdapter → Prop} [LocalSteps relation]

theorem aside_keeps {change : UaAdapter → UaAdapter} (same : ∀ adapter, SameTables adapter (change adapter)) :
    Keeps relation (modify change : Mapping Unit) := Keeps.modify fun adapter => LocalSteps.aside (same adapter)

theorem noteOther_keeps {step : UndefinedStep} (other : step ≠ .emptyBack ∧ step ≠ .sizeUnderflow) :
    Keeps relation (note step) :=
  aside_keeps fun adapter => ⟨rfl, rfl, rfl, rfl, rfl, rfl, List.prefix_rfl, by simp [accessFaults, other]⟩

theorem when_keeps {effect : Mapping Unit} (kept : Keeps relation effect) (condition : Bool) :
    Keeps relation (when condition effect) := by
  cases condition with
  | true => exact kept
  | false => exact Keeps.pure _

theorem unless_keeps {condition : Bool} (never : condition = false) (effect : Mapping Unit) :
    Keeps relation (when condition effect) := by
  rw [never]
  exact Keeps.pure _

theorem raiseError_keeps_of {errorMessage consequenceMessage : Text}
    (noted : Keeps relation (when (errorMessage.isEmpty || consequenceMessage.isEmpty) (note .emptyBack))) (line : Int) :
    Keeps relation (raiseError errorMessage consequenceMessage line) := by
  unfold raiseError
  refine Keeps.bind noted fun _ => ?_
  apply Keeps.read
  intro adapter
  split
  · exact Keeps.throw _
  · exact aside_keeps fun _ => ⟨rfl, rfl, rfl, rfl, rfl, rfl, List.prefix_append _ _, rfl⟩

/-- An error whose messages both have a text. -/
theorem report_keeps {errorMessage consequenceMessage : Text} (error : errorMessage ≠ [])
    (consequence : consequenceMessage ≠ []) (line : Int) :
    Keeps relation (raiseError errorMessage consequenceMessage line) := by
  refine raiseError_keeps_of (unless_keeps ?_ _) line
  rw [List.isEmpty_eq_false_iff.mpr error, List.isEmpty_eq_false_iff.mpr consequence]
  rfl

theorem writeDescription_keeps (nodeId : NodeId) (description : Text) :
    Keeps relation (writeDescription nodeId description) :=
  Keeps.modify fun adapter => LocalSteps.writeDescription adapter nodeId description

theorem writeDisplayName_keeps (nodeId : NodeId) (displayName : Text) :
    Keeps relation (writeDisplayName nodeId displayName) :=
  Keeps.modify fun adapter => LocalSteps.writeDisplayName adapter nodeId displayName

theorem pushVariable_keeps (processVariable : UaProcessVariable) : Keeps relation (pushVariable processVariable) :=
  aside_keeps fun _ => ⟨rfl, rfl, rfl, rfl, rfl, rfl, List.prefix_rfl, rfl⟩

theorem readSourceName_keeps (nodeId : NodeId) : Keeps relation (readSourceName nodeId) := by
  unfold readSourceName
  apply Keeps.read
  intro adapter
  dsimp only
  split
  · exact Keeps.pure _
  · exact Keeps.bind (noteOther_keeps (by decide)) fun _ => Keeps.pure _

theorem addVariableHistory_keeps (entry : ProcessVariableEntry) (sourceName copy history : Text) :
    Keeps relation (addVariableHistory entry sourceName copy history) := by
  unfold addVariableHistory
  apply Keeps.read
  intro adapter
  refine Keeps.bind ?_ fun _ => when_keeps ?_ _
  · split
    · exact aside_keeps fun _ => ⟨rfl, rfl, rfl, rfl, rfl, rfl, List.prefix_rfl, rfl⟩
    · exact aside_keeps fun _ => ⟨rfl, rfl, rfl, rfl, rfl, rfl, List.prefix_rfl, rfl⟩
    · exact Keeps.pure _
  · exact aside_keeps fun _ => ⟨rfl, rfl, rfl, rfl, rfl, rfl, List.prefix_rfl, rfl⟩

theorem setUnitAndDescription_keeps (nodeId : NodeId) (unit description : Text) :
    Keeps relation (setUnitAndDescription nodeId unit description) := by
  refine Keeps.bind (when_keeps ?_ _) fun _ => when_keeps ?_ _
  · exact aside_keeps fun _ => ⟨rfl, rfl, rfl, rfl, rfl, rfl, List.prefix_rfl, rfl⟩
  · exact aside_keeps fun _ => ⟨rfl, rfl, rfl, rfl, rfl, rfl, List.prefix_rfl, rfl⟩

theorem finishVariable_keeps (createdNodeId : NodeId) (name unit description : Text) :
    Keeps relation (finishVariable createdNodeId name unit description) :=
  Keeps.bind (setUnitAndDescription_keeps _ _ _) fun _ => writeDisplayName_keeps _ _

section Faulty

variable [FaultSteps relation]

omit [LocalSteps relation] in
theorem note_keeps (step : UndefinedStep) : Keeps relation (note step) :=
  Keeps.modify fun adapter => FaultSteps.fault adapter step

theorem raiseError_keeps (errorMessage consequenceMessage : Text) (line : Int) :
    Keeps relation (raiseError errorMessage consequenceMessage line) :=
  raiseError_keeps_of (when_keeps (note_keeps _) _) line

theorem lastToken_keeps (path : Text) : Keeps relation (lastToken path) :=
  Keeps.bind (when_keeps (note_keeps _) _) fun _ => Keeps.pure _

theorem addFolderHistory_keeps (entry : FolderEntry) (sourceName copy destination folder history : Text) :
    Keeps relation (addFolderHistory entry sourceName copy destination folder history) := by
  unfold addFolderHistory
  refine Keeps.bind (when_keeps (raiseError_keeps _ _ _) _) fun _ => ?_
  apply Keeps.read
  intro adapter
  apply Keeps.ite
  · apply Keeps.ite
    · exact aside_keeps fun _ => ⟨rfl, rfl, rfl, rfl, rfl, rfl, List.prefix_rfl, rfl⟩
    · exact aside_keeps fun _ => ⟨rfl, rfl, rfl, rfl, rfl, rfl, List.prefix_rfl, rfl⟩
  · exact Keeps.ite (aside_keeps fun _ => ⟨rfl, rfl, rfl, rfl, rfl, rfl, List.prefix_rfl, rfl⟩) (raiseError_keeps _ _ _)

theorem updateVariable_keeps (line : Nat) (sourceName name unit description : Text) :
    Keeps relation (updateVariable line sourceName name unit description) := by
  unfold updateVariable
  refine Keeps.bind (lastToken_keeps _) fun last => ?_
  refine Keeps.bind (when_keeps (note_keeps _) _) fun _ => ?_
  apply Keeps.read
  intro adapter
  dsimp only
  split
  · exact Keeps.ite (raiseError_keeps _ _ _) (raiseError_keeps _ _ _)
  · exact setUnitAndDescription_keeps _ _ _

end Faulty

end Local

section Served

variable (server : UaServer) (csManager : ControlSystemPVManager) {relation : UaAdapter → UaAdapter → Prop}
  [ServerSteps server relation]

theorem addComponent_keeps (source target : NodeId) :
    Keeps relation (addReference server ⟨source, .hasComponent, target⟩) :=
  Keeps.modify fun adapter => ServerSteps.addComponent adapter source target

theorem createFolder_keeps (base : NodeId) (folderName : Text) : Keeps relation (createFolder server base folderName) :=
  fun adapter => ServerSteps.createFolder adapter base folderName

theorem enrollFolderPathFromString_keeps (path separator : Text) :
    Keeps relation (enrollFolderPathFromString server path separator) :=
  fun adapter => ServerSteps.enroll adapter path separator

variable [LocalSteps relation]

theorem newProcessVariable_keeps (base : NodeId) (namePV overwriteNodeString : Text) :
    Keeps relation (newProcessVariable server csManager base namePV overwriteNodeString) := by
  unfold newProcessVariable
  split
  · exact Keeps.throw _
  next oneProcessVariable _ =>
    exact fun adapter => ServerSteps.newProcessVariable adapter base oneProcessVariable namePV overwriteNodeString

theorem implicitVarMapping_keeps (adapter : UaAdapter) (oneProcessVariable : ProcessVariable) :
    relation adapter (adapter.implicitVarMapping server oneProcessVariable) := by
  have entered (before : UaAdapter) (base : NodeId) (namePV overwriteNodeString lastToken : Text) :
      let created := before.newProcessVariable server base oneProcessVariable namePV overwriteNodeString
      relation before { created.2 with
        variableVector := created.2.variableVector ++ [created.1]
        space := created.2.space.writeDisplayName created.1.ownNodeId lastToken } := by
    intro created
    have first : relation before created.2 := ServerSteps.newProcessVariable before base oneProcessVariable _ _
    have named := @LocalSteps.writeDisplayName relation _ created.2 created.1.ownNodeId lastToken
    exact IsTrans.trans _ _ _ first (IsTrans.trans _ _ _ named
      (LocalSteps.aside ⟨rfl, rfl, rfl, rfl, rfl, rfl, List.prefix_rfl, rfl⟩))
  have enrolled : relation adapter
      (adapter.enrollFolderPathFromString server oneProcessVariable.name adapter.pvSeparator).2 :=
    ServerSteps.enroll adapter oneProcessVariable.name adapter.pvSeparator
  simp only [UaAdapter.implicitVarMapping]
  split
  next => exact IsTrans.trans _ _ _ enrolled (entered _ _ _ _ _)
  next => exact IsTrans.trans _ _ _ enrolled (entered _ _ _ _ _)

theorem implicitMapping_keeps (adapter : UaAdapter) (mapFile : MapFile) :
    relation adapter (adapter.implicitMapping server csManager mapFile) := by
  unfold UaAdapter.implicitMapping
  generalize List.filterMap _ _ = processVariables
  induction processVariables generalizing adapter with
  | nil => exact Std.Refl.refl adapter
  | cons pv processVariables ih => exact IsTrans.trans _ _ _ (implicitVarMapping_keeps server adapter pv) (ih _)

theorem variableDestination_keeps (destination unrollPath : Text) :
    Keeps relation (variableDestination server destination unrollPath) := by
  unfold variableDestination
  apply Keeps.ite
  · exact Keeps.read fun _ => Keeps.pure _
  refine Keeps.ite (enrollFolderPathFromString_keeps server _ _) ?_
  apply Keeps.ite
  · apply Keeps.read
    intro adapter
    exact Keeps.ite (Keeps.pure _) (enrollFolderPathFromString_keeps server _ _)
  · exact enrollFolderPathFromString_keeps server _ _

theorem copyVariable_keeps (line : Nat) (sourceName destination unrollPath name unit description : Text) :
    Keeps relation (copyVariable server csManager line sourceName destination unrollPath name unit description) := by
  unfold copyVariable
  refine Keeps.ite (report_keeps (by simp) (by simp) _) ?_
  refine Keeps.bind (variableDestination_keeps server _ _) fun base => ?_
  refine Keeps.ite (report_keeps (by simp) (by simp) _) ?_
  refine Keeps.bind (newProcessVariable_keeps server csManager _ _ _) fun created => ?_
  refine Keeps.ite (report_keeps (by simp) (by simp) _) ?_
  exact Keeps.bind (pushVariable_keeps _) fun _ => finishVariable_keeps _ _ _ _

theorem addAdditionalVariable_keeps [AdditionalSteps relation] (entry : AdditionalVariableEntry) :
    Keeps relation (addAdditionalVariable server entry) := by
  unfold addAdditionalVariable
  apply Keeps.read
  intro adapter
  refine Keeps.ite (report_keeps (by simp) (by simp) _) ?_
  refine Keeps.ite (report_keeps (by simp) (by simp) _) ?_
  refine Keeps.ite (report_keeps (by simp) (by simp) _) ?_
  refine Keeps.bind (Keeps.ite (enrollFolderPathFromString_keeps server _ _) (Keeps.pure _)) fun base => ?_
  refine Keeps.ite (report_keeps (by simp) (by simp) _) ?_
  refine Keeps.bind (Keeps.modifyGet fun before => ?_) fun _ => Keeps.modify fun after => AdditionalSteps.enter after _
  exact ServerSteps.newAdditionalVariable before base (elementContent entry.name) (elementContent entry.value)
    (elementContent entry.description)

theorem addAdditionalVariables_keeps [AdditionalSteps relation] (additionalVariables : List AdditionalVariableEntry) :
    Keeps relation (addAdditionalVariables server additionalVariables) :=
  Keeps.forM fun entry _ => addAdditionalVariable_keeps server entry

theorem linkFolder_keeps [LinkSteps server relation] (sourceFolderId folderPathNodeId : NodeId)
    (destination folder description : Text) (foundMethod : Bool) :
    Keeps relation (linkFolder server sourceFolderId folderPathNodeId destination folder description foundMethod) := by
  unfold linkFolder
  apply Keeps.read
  intro adapter
  refine Keeps.bind (Keeps.ite (createFolder_keeps server _ _) (Keeps.pure _)) fun created => ?_
  refine Keeps.bind (when_keeps (writeDescription_keeps _ _) _) fun _ => ?_
  apply Keeps.read
  intro linked
  apply Keeps.read
  intro before
  refine Keeps.bind (Keeps.forM fun _ _ => Keeps.modify fun state => LinkSteps.addReference state _) fun _ => ?_
  apply Keeps.read
  intro after
  exact Keeps.forM fun _ _ => Keeps.modify fun state => LinkSteps.addReference state _

theorem enrollDestination_keeps (destination : Text) : Keeps relation (enrollDestination server destination) := by
  refine Keeps.bind (enrollFolderPathFromString_keeps server _ _) fun folder => ?_
  refine Keeps.ite (Keeps.bind (noteOther_keeps (by decide)) fun _ => ?_) (Keeps.pure _)
  exact Keeps.read fun _ => Keeps.pure _

theorem existingDestination_keeps [RootSteps relation] (destination folder : Text) :
    Keeps relation (existingDestination destination folder) := by
  refine Keeps.bind (noteOther_keeps (by decide)) fun _ => Keeps.ite (Keeps.read fun _ => Keeps.pure _) ?_
  refine Keeps.bind (Keeps.modify fun adapter => RootSteps.move adapter _) fun _ => ?_
  exact Keeps.read fun _ => Keeps.pure _

section Faulty

variable [FaultSteps relation]

theorem copyComponent_keeps (target : NodeId) (rd : UaNode) : Keeps relation (copyComponent server csManager target rd) := by
  unfold copyComponent
  split
  · refine Keeps.bind (readSourceName_keeps _) fun sourceName => ?_
    refine Keeps.bind (lastToken_keeps _) fun name => ?_
    exact Keeps.bind (newProcessVariable_keeps server csManager _ _ _) fun _ => pushVariable_keeps _
  · exact Keeps.pure _

theorem deepCopyHierarchicalLayer_keeps (fuel : Nat) (layer target : NodeId) :
    Keeps relation (deepCopyHierarchicalLayer server csManager fuel layer target) := by
  induction fuel generalizing layer target with
  | zero => exact Keeps.throw _
  | succ fuel ih =>
    apply Keeps.read
    intro adapter
    refine Keeps.bind (Keeps.forM fun rd _ => copyComponent_keeps server csManager target rd) fun _ => ?_
    apply Keeps.read
    intro copied
    refine Keeps.bind (Keeps.mapM fun rd _ => ?_) fun _ => Keeps.pure _
    apply Keeps.read
    intro current
    split
    · exact Keeps.pure _
    · refine Keeps.bind (createFolder_keeps server _ _) fun created => ?_
      exact Keeps.bind (when_keeps (writeDescription_keeps _ _) _) fun _ => ih _ _

theorem linkVariable_keeps (parentSourceId : NodeId) (sourceName destination name unit description history : Text) :
    Keeps relation (linkVariable server parentSourceId sourceName destination name unit description history) := by
  unfold linkVariable
  refine Keeps.bind (lastToken_keeps _) fun sourceVarName => ?_
  refine Keeps.ite (when_keeps (raiseError_keeps _ _ _) _) ?_
  refine Keeps.bind (enrollFolderPathFromString_keeps server _ _) fun base => ?_
  exact Keeps.bind (addComponent_keeps server _ _) fun _ => finishVariable_keeps _ _ _ _

theorem mapProcessVariable_keeps (entry : ProcessVariableEntry) :
    Keeps relation (mapProcessVariable server csManager entry) := by
  unfold mapProcessVariable
  refine Keeps.bind (when_keeps (addVariableHistory_keeps _ _ _ _) _) fun _ => ?_
  refine Keeps.ite (Keeps.ite (raiseError_keeps _ _ _) (raiseError_keeps _ _ _)) ?_
  refine Keeps.ite (updateVariable_keeps _ _ _ _ _) ?_
  apply Keeps.read
  intro adapter
  refine Keeps.ite (Keeps.ite (raiseError_keeps _ _ _) (raiseError_keeps _ _ _)) ?_
  exact Keeps.ite (copyVariable_keeps server csManager _ _ _ _ _ _ _) (linkVariable_keeps server _ _ _ _ _ _ _)

theorem explicitVarMapping_keeps (processVariables : List ProcessVariableEntry) :
    Keeps relation (explicitVarMapping server csManager processVariables) :=
  Keeps.forM fun entry _ => mapProcessVariable_keeps server csManager entry

variable [RootSteps relation]

theorem copyFolder_keeps (fuel : Nat) (sourceFolderId folderPathNodeId : NodeId) (destination folder description : Text) :
    Keeps relation (copyFolder server csManager fuel sourceFolderId folderPathNodeId destination folder description) := by
  refine Keeps.bind (createFolder_keeps server _ _) fun created => ?_
  refine Keeps.bind (Keeps.ite (existingDestination_keeps _ _) (Keeps.pure _)) fun copyRoot => ?_
  refine Keeps.bind (deepCopyHierarchicalLayer_keeps server csManager _ _ _) fun foundMethod => ?_
  exact Keeps.bind (when_keeps (writeDescription_keeps _ _) _) fun _ => Keeps.pure _

variable [LinkSteps server relation]

theorem mapSourceFolder_keeps (fuel : Nat) (entry : FolderEntry) (folderPathNodeId : NodeId)
    (sourceName copy destination folder description : Text) :
    Keeps relation (mapSourceFolder server csManager fuel entry folderPathNodeId sourceName copy destination folder
      description) := by
  unfold mapSourceFolder
  refine Keeps.ite (raiseError_keeps _ _ _) ?_
  apply Keeps.read
  intro adapter
  apply Keeps.read
  intro same
  refine Keeps.ite (raiseError_keeps _ _ _) (Keeps.ite (raiseError_keeps _ _ _) ?_)
  refine Keeps.bind (Keeps.ite (copyFolder_keeps server csManager _ _ _ _ _ _) (Keeps.pure _)) fun foundMethod => ?_
  exact when_keeps (linkFolder_keeps server _ _ _ _ _ _) _

theorem placeFolder_keeps (fuel : Nat) (entry : FolderEntry) (sourceName copy destination folder description : Text) :
    Keeps relation (placeFolder server csManager fuel entry sourceName copy destination folder description) := by
  unfold placeFolder
  apply Keeps.read
  intro adapter
  refine Keeps.ite (Keeps.ite (writeDescription_keeps _ _) (raiseError_keeps _ _ _)) ?_
  refine Keeps.ite (raiseError_keeps _ _ _) (Keeps.bind (enrollDestination_keeps server _) fun base => ?_)
  refine Keeps.ite (mapSourceFolder_keeps server csManager _ _ _ _ _ _ _ _) ?_
  exact Keeps.bind (createFolder_keeps server _ _) fun _ => when_keeps (writeDescription_keeps _ _) _

theorem buildFolder_keeps (fuel : Nat) (entry : FolderEntry) :
    Keeps relation (buildFolder server csManager fuel entry) := by
  unfold buildFolder
  refine Keeps.bind (when_keeps (addFolderHistory_keeps _ _ _ _ _ _) _) fun _ => ?_
  refine Keeps.ite (when_keeps (raiseError_keeps _ _ _) _) ?_
  exact placeFolder_keeps server csManager _ _ _ _ _ _ _

theorem buildFolderStructure_keeps (fuel : Nat) (folders : List FolderEntry) :
    Keeps relation (buildFolderStructure server csManager fuel folders) :=
  Keeps.forM fun entry _ => buildFolder_keeps server csManager fuel entry

end Faulty

end Served

end Mapping

end OpcUaAdapter
