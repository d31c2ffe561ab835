import OpcUaAdapter.UaAdapter

/-! What the mapping leaves alone: nodes, references, requests and variables are only
added, and the configuration is not touched. -/

namespace OpcUaAdapter

namespace AddressSpace

theorem hasNode_iff {space : AddressSpace} {nodeId : NodeId} :
    space.hasNode nodeId = true ↔ ∃ node ∈ space.nodes, node.nodeId = nodeId := by
  simp [hasNode, find?, List.find?_isSome]

theorem hasNode_of_hasDataType {space : AddressSpace} {nodeId : NodeId} (typed : space.hasDataType nodeId = true) :
    space.hasNode nodeId = true := by
  unfold hasDataType at typed
  unfold hasNode
  cases found : space.find? nodeId with
  | none => rw [found] at typed; cases typed
  | some node => rfl

theorem hasNode_update {space : AddressSpace} {changed nodeId : NodeId} {change : UaNode → UaNode}
    (kept : ∀ node, (change node).nodeId = node.nodeId) :
    (space.update changed change).hasNode nodeId = space.hasNode nodeId := by
  rw [Bool.eq_iff_iff, hasNode_iff, hasNode_iff]
  have same (node : UaNode) : (if node.nodeId = changed then change node else node).nodeId = node.nodeId := by
    split
    · exact kept node
    · rfl
  simp [update, same]

@[simp] theorem hasNode_writeDisplayName (space : AddressSpace) (changed nodeId : NodeId) (displayName : Text) :
    (space.writeDisplayName changed displayName).hasNode nodeId = space.hasNode nodeId :=
  hasNode_update fun _ => rfl

@[simp] theorem hasNode_writeDescription (space : AddressSpace) (changed nodeId : NodeId) (description : Text) :
    (space.writeDescription changed description).hasNode nodeId = space.hasNode nodeId :=
  hasNode_update fun _ => rfl

end AddressSpace

/-- Nothing is noted or reported, no additional variable is entered, and errors are still
raised in the same way. -/
structure SameNotes (before after : UaAdapter) : Prop where
  undefinedSteps : after.undefinedSteps = before.undefinedSteps
  warnings : after.warnings = before.warnings
  mappingExceptions : after.mappingExceptions = before.mappingExceptions
  additionalVariables : after.additionalVariables = before.additionalVariables

theorem SameNotes.trans {first second third : UaAdapter} (before : SameNotes first second)
    (after : SameNotes second third) : SameNotes first third :=
  ⟨after.undefinedSteps.trans before.undefinedSteps, after.warnings.trans before.warnings,
    after.mappingExceptions.trans before.mappingExceptions, after.additionalVariables.trans before.additionalVariables⟩

/-- What the adapter keeps when it maps something more. -/
structure Grows (before after : UaAdapter) : Prop where
  config : after.serverConfig = before.serverConfig
  own : after.ownNodeId = before.ownNodeId
  separator : after.pvSeparator = before.pvSeparator
  requested : before.requested <+: after.requested
  nodes : ∀ nodeId, before.space.hasNode nodeId = true → after.space.hasNode nodeId = true
  references : ∀ reference ∈ before.space.references, reference ∈ after.space.references
  mapped : before.variableVector <+: after.variableVector
  notes : SameNotes before after

namespace Grows

theorem refl (adapter : UaAdapter) : Grows adapter adapter :=
  ⟨rfl, rfl, rfl, List.prefix_rfl, fun _ => id, fun _ => id, List.prefix_rfl, ⟨rfl, rfl, rfl, rfl⟩⟩

theorem trans {first second third : UaAdapter} (before : Grows first second) (after : Grows second third) :
    Grows first third :=
  ⟨after.config.trans before.config, after.own.trans before.own, after.separator.trans before.separator,
    before.requested.trans after.requested, fun nodeId has => after.nodes nodeId (before.nodes nodeId has),
    fun reference member => after.references reference (before.references reference member),
    before.mapped.trans after.mapped, before.notes.trans after.notes⟩

end Grows

namespace UaAdapter

variable (server : UaServer) (adapter : UaAdapter)

theorem addNode_grows (node : UaNode) (parent : NodeId) (referenceType : ReferenceType)
    (typeDefinition : Option NodeId) :
    Grows adapter (adapter.addNode server node parent referenceType typeDefinition).2 := by
  refine ⟨rfl, rfl, rfl, List.prefix_append _ _, ?_, ?_, List.prefix_rfl, ⟨rfl, rfl, rfl, rfl⟩⟩
  · intro nodeId has
    simp only [addNode, AddressSpace.addNode]
    split
    next =>
      obtain ⟨old, member, same⟩ := AddressSpace.hasNode_iff.mp has
      exact AddressSpace.hasNode_iff.mpr ⟨old, List.mem_append_left _ member, same⟩
    next => exact has
  · intro reference member
    simp only [addNode, AddressSpace.addNode]
    split
    next => exact List.mem_append_left _ member
    next => exact member

theorem createFolder_grows (base : NodeId) (folderName description : Text) :
    Grows adapter (adapter.createFolder server base folderName description).2 := by
  unfold createFolder
  split
  next => exact Grows.refl adapter
  next =>
    split
    next =>
      obtain ⟨config, own, separator, requested, nodes, references, mapped, notes⟩ :=
        adapter.addNode_grows server _ base .organizes (some folderType)
      exact ⟨config, own, separator, requested, nodes, references, mapped, ⟨notes.1, notes.2, notes.3, notes.4⟩⟩
    next => exact Grows.refl adapter

theorem createFolders_grows (base : NodeId) (path : List Text) :
    Grows adapter (adapter.createFolders server base path).2 := by
  induction path generalizing adapter base with
  | nil => exact Grows.refl adapter
  | cons folder path ih => exact (adapter.createFolder_grows server base folder []).trans (ih _ _)

theorem createFolderPath_grows (base : NodeId) (path : List Text) :
    Grows adapter (adapter.createFolderPath server base path).2 := by
  unfold createFolderPath
  split
  next => exact Grows.refl adapter
  next =>
    split
    next => exact adapter.createFolders_grows server _ _
    next => exact Grows.refl adapter

theorem enrollFolderPathFromString_grows (path separator : Text) :
    Grows adapter (adapter.enrollFolderPathFromString server path separator).2 := by
  simp only [enrollFolderPathFromString]
  generalize (if separator.isEmpty then [] else parseVariablePath path separator) = varPathVector
  split
  next => exact Grows.refl adapter
  next => exact adapter.createFolderPath_grows server _ _

theorem addPVChildNodes_grows (pvNodeId : NodeId) (pvNodePath namePV : Text) (children : List Text) :
    Grows adapter (adapter.addPVChildNodes server pvNodeId pvNodePath namePV children) := by
  induction children generalizing adapter with
  | nil => exact Grows.refl adapter
  | cons child children ih =>
    have added := adapter.addNode_grows server (pvChildNode pvNodePath namePV child) pvNodeId .hasComponent
      (some baseDataVariableType)
    simp only [addPVChildNodes]
    split
    next => exact added
    next => exact added.trans (ih _)

theorem mapVariable_grows (base : NodeId) (oneProcessVariable : ProcessVariable) (namePV nameNew : Text) :
    Grows adapter (adapter.mapVariable server base oneProcessVariable namePV nameNew).2 := by
  simp only [mapVariable]
  split
  next => exact ⟨rfl, rfl, rfl, List.prefix_append _ _, fun _ => id, fun _ => id, List.prefix_rfl, ⟨rfl, rfl, rfl, rfl⟩⟩
  next => exact (adapter.addNode_grows server _ _ _ _).trans (addPVChildNodes_grows server _ _ _ _ _)

theorem newProcessVariable_grows (base : NodeId) (oneProcessVariable : ProcessVariable)
    (namePV overwriteNodeString : Text) :
    Grows adapter (adapter.newProcessVariable server base oneProcessVariable namePV overwriteNodeString).2 := by
  simp only [newProcessVariable]
  generalize (if overwriteNodeString.isEmpty then namePV else overwriteNodeString) = nameNew
  split
  next => exact Grows.refl adapter
  next =>
    split
    next => exact adapter.addNode_grows server _ _ _ _
    next => exact adapter.mapVariable_grows server _ _ _ _

theorem newAdditionalVariable_grows (base : NodeId) (name value description : Text) :
    Grows adapter (adapter.newAdditionalVariable server base name value description).2 := by
  simp only [newAdditionalVariable]
  split
  next => exact Grows.refl adapter
  next => exact (adapter.addNode_grows server _ _ _ _).trans (addNode_grows server _ _ _ _ _)

/-- What the mapping of a variable ends with. -/
def enterVariable (created : UaProcessVariable × UaAdapter) (lastToken : Text) : UaAdapter :=
  { created.2 with
    variableVector := created.2.variableVector ++ [created.1]
    space := created.2.space.writeDisplayName created.1.ownNodeId lastToken }

theorem enterVariable_grows (created : UaProcessVariable × UaAdapter) (lastToken : Text) :
    Grows created.2 (enterVariable created lastToken) := by
  refine ⟨rfl, rfl, rfl, List.prefix_rfl, fun nodeId has => ?_, fun _ => id, List.prefix_append _ _, ⟨rfl, rfl, rfl, rfl⟩⟩
  rw [enterVariable, AddressSpace.hasNode_writeDisplayName]
  exact has

theorem implicitVarMapping_grows_enrolled (oneProcessVariable : ProcessVariable) :
    Grows (adapter.enrollFolderPathFromString server oneProcessVariable.name adapter.pvSeparator).2
      (adapter.implicitVarMapping server oneProcessVariable) := by
  simp only [implicitVarMapping]
  split
  next => exact (newProcessVariable_grows server _ _ _ _ _).trans (enterVariable_grows _ _)
  next => exact (newProcessVariable_grows server _ _ _ _ _).trans (enterVariable_grows _ _)

theorem implicitVarMapping_grows (oneProcessVariable : ProcessVariable) :
    Grows adapter (adapter.implicitVarMapping server oneProcessVariable) :=
  (adapter.enrollFolderPathFromString_grows server oneProcessVariable.name adapter.pvSeparator).trans
    (adapter.implicitVarMapping_grows_enrolled server oneProcessVariable)

theorem foldl_grows (processVariables : List ProcessVariable) :
    Grows adapter (processVariables.foldl (implicitVarMapping server) adapter) := by
  induction processVariables generalizing adapter with
  | nil => exact Grows.refl adapter
  | cons pv processVariables ih => exact (adapter.implicitVarMapping_grows server pv).trans (ih _)

end UaAdapter

end OpcUaAdapter
