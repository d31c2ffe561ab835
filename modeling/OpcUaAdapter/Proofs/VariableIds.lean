import OpcUaAdapter.Proofs.FolderNodes
import OpcUaAdapter.Proofs.SpaceSteps
import OpcUaAdapter.Proofs.VariableSteps

/-! The node ids of the variables. Of the ids that the check for an additional variable asks
for, the server has just those of the process variables and the additional variables. -/

namespace OpcUaAdapter

open Effects

/-- An id that the check for an additional variable can ask for. -/
def Probed (text : Text) : Prop := ("AdditionalVariable" : Text) <:+ text ∨ ("Value" : Text) <:+ text

private theorem not_probed_append {front ending : Text} (long : 5 ≤ ending.length)
    (other : ¬ ("Value" : Text) <:+ ending) (short : ¬ ("iable" : Text) <:+ ending) : ¬ Probed (front ++ ending) := by
  have inside {last : Text} (length : last.length = 5) (suffix : last <:+ front ++ ending) : last <:+ ending :=
    List.suffix_of_suffix_length_le suffix (List.suffix_append _ _) (length.trans_le long)
  rintro (additional | value)
  · have iable : ("iable" : Text) <:+ "AdditionalVariable" := by decide
    exact short (inside rfl (iable.trans additional))
  · exact other (inside rfl value)

private theorem not_probed_dir (front : Text) : ¬ Probed (front ++ "Dir") := by
  have last {text : Text} (probed : Probed text) : ("e" : Text) <:+ text := by
    rcases probed with additional | value
    · have inside : ("e" : Text) <:+ "AdditionalVariable" := by decide
      exact inside.trans additional
    · have inside : ("e" : Text) <:+ "Value" := by decide
      exact inside.trans value
  intro probed
  have dir : ("e" : Text) <:+ "Dir" :=
    List.suffix_of_suffix_length_le (last probed) (List.suffix_append _ _) (by decide)
  exact absurd dir (by decide)

private theorem not_probed_child (front : Text) {child : Text} (listed : child ∈ pvChildNames) :
    ¬ Probed (front ++ '/' :: child) := by
  have plain : ∀ child ∈ pvChildNames, 5 ≤ ('/' :: child).length ∧ ¬ ("Value" : Text) <:+ '/' :: child ∧
      ¬ ("iable" : Text) <:+ '/' :: child := by decide
  obtain ⟨long, other, short⟩ := plain child listed
  exact not_probed_append long other short

private theorem null_ne_string {text : Text} : NodeId.null ≠ .string text := by
  intro same
  cases same

/-- A process variable or an additional variable has the id. -/
def UaAdapter.HasId (adapter : UaAdapter) (nodeId : NodeId) : Prop :=
  (∃ processVariable ∈ adapter.variableVector, processVariable.ownNodeId = nodeId) ∨
    ∃ additionalVariable ∈ adapter.additionalVariables, additionalVariable.ownNodeId = nodeId

/-- A variable without a node has no id; the others have the id that their folder and their
name give, additional variables with an ending behind it. Where the check can ask for an id,
the server has a node with it just when a variable has it. -/
structure VariableIds (adapter : UaAdapter) : Prop where
  processVariables : ∀ processVariable ∈ adapter.variableVector, processVariable.ownNodeId = .null ∨
    processVariable.ownNodeId = .string (processVariable.baseNodeId.baseName ++ '/' :: processVariable.nameNew)
  additionalVariables : ∀ additionalVariable ∈ adapter.additionalVariables, additionalVariable.ownNodeId = .null ∨
    additionalVariable.ownNodeId =
      .string (additionalVariable.baseNodeId.baseName ++ '/' :: additionalVariable.name ++ "AdditionalVariable")
  nodes : ∀ text, Probed text → (adapter.space.hasNode (.string text) = true ↔ adapter.HasId (.string text))

section Nodes

variable {server : UaServer}

theorem addNode_id (server : UaServer) (adapter : UaAdapter) (node : UaNode) (parent : NodeId)
    (referenceType : ReferenceType) (typeDefinition : Option NodeId) :
    (adapter.addNode server node parent referenceType typeDefinition).1 =
      if server.addsNode adapter.space node parent then node.nodeId else .null := by
  unfold UaAdapter.addNode AddressSpace.addNode
  split
  · rfl
  · rfl

private theorem addNode_hasNode (adapter : UaAdapter) (node : UaNode) (parent : NodeId) (referenceType : ReferenceType)
    (typeDefinition : Option NodeId) (text : Text) :
    (adapter.addNode server node parent referenceType typeDefinition).2.space.hasNode (.string text) = true ↔
      adapter.space.hasNode (.string text) = true ∨
        (adapter.addNode server node parent referenceType typeDefinition).1 = .string text := by
  by_cases grants : server.addsNode adapter.space node parent = true
  · rw [addNode_nodes adapter node parent referenceType typeDefinition grants, addNode_id, if_pos grants]
  · rw [addNode_id, if_neg grants, UaAdapter.addNode, AddressSpace.addNode, if_neg grants, or_iff_left null_ne_string]

/-- Only the nodes of variables have ids that the check can ask for. -/
theorem unprobed_steps (server : UaServer) : NodeSteps server
    (fun node _ _ => ∀ text, node.nodeId = .string text → ¬ Probed text)
    fun before after => ∀ text, Probed text → after.hasNode (.string text) = before.hasNode (.string text) where
  refl _ _ _ := rfl
  trans first rest text probed := (rest text probed).trans (first text probed)
  addNode space node parent referenceType plain typeDefinition text probed := by
    unfold AddressSpace.addNode
    split
    next =>
      rw [Bool.eq_iff_iff, AddressSpace.hasNode_iff, AddressSpace.hasNode_iff]
      constructor
      · rintro ⟨other, member, same⟩
        rcases List.mem_append.mp member with old | new
        · exact ⟨other, old, same⟩
        · rw [List.mem_singleton.mp new] at same
          exact absurd probed (plain text same)
      · rintro ⟨other, member, same⟩
        exact ⟨other, List.mem_append_left _ member, same⟩
    next => rfl
  folder front _ _ _ text named := NodeId.string.inj named ▸ not_probed_dir front

theorem newProcessVariable_hasNode (adapter : UaAdapter) (base : NodeId) (oneProcessVariable : ProcessVariable)
    (namePV overwriteNodeString : Text) {text : Text} (probed : Probed text) :
    let created := adapter.newProcessVariable server base oneProcessVariable namePV overwriteNodeString
    created.2.space.hasNode (.string text) = true ↔
      adapter.space.hasNode (.string text) = true ∨ created.1.ownNodeId = .string text := by
  intro created
  have missing {space : AddressSpace} : space.hasNode (.string text) = true ↔
      space.hasNode (.string text) = true ∨ NodeId.null = .string text := (or_iff_left null_ne_string).symm
  unfold created UaAdapter.newProcessVariable
  dsimp only
  generalize (if overwriteNodeString.isEmpty then namePV else overwriteNodeString) = nameNew
  split
  · exact missing
  split
  · exact addNode_hasNode adapter _ _ _ _ text
  · unfold UaAdapter.mapVariable
    dsimp only
    split
    · exact missing
    · rw [← addNode_hasNode adapter _ _ _ _ text]
      refine Bool.eq_iff_iff.mp ((unprobed_steps server).addPVChildNodes _ _ _ _ ?_ text probed)
      intro child listed other named
      exact NodeId.string.inj named ▸ not_probed_child _ listed

private theorem newProcessVariable_id (adapter : UaAdapter) (base : NodeId) (oneProcessVariable : ProcessVariable)
    (namePV overwriteNodeString : Text) :
    let created := (adapter.newProcessVariable server base oneProcessVariable namePV overwriteNodeString).1
    created.ownNodeId = .null ∨ created.ownNodeId = .string (created.baseNodeId.baseName ++ '/' :: created.nameNew) := by
  have added (node : UaNode) (typeDefinition : Option NodeId) :
      (adapter.addNode server node base .hasComponent typeDefinition).1 = .null ∨
        (adapter.addNode server node base .hasComponent typeDefinition).1 = node.nodeId := by
    rw [addNode_id]
    split
    · exact .inr rfl
    · exact .inl rfl
  unfold UaAdapter.newProcessVariable
  dsimp only
  generalize (if overwriteNodeString.isEmpty then namePV else overwriteNodeString) = nameNew
  split
  · exact .inl rfl
  split
  · exact added _ _
  · unfold UaAdapter.mapVariable
    dsimp only
    split
    · exact .inl rfl
    · exact added _ _

theorem newAdditionalVariable_hasNode (adapter : UaAdapter) (base : NodeId) (name value description : Text) {text : Text}
    (probed : Probed text) :
    let created := adapter.newAdditionalVariable server base name value description
    created.2.space.hasNode (.string text) = true ↔
      adapter.space.hasNode (.string text) = true ∨ created.1.ownNodeId = .string text := by
  intro created
  simp only [created, UaAdapter.newAdditionalVariable]
  split
  · exact (or_iff_left null_ne_string).symm
  · unfold UaAdapter.mapAdditionalVariable
    dsimp only
    rw [← addNode_hasNode adapter _ _ _ _ text]
    refine Bool.eq_iff_iff.mp ((unprobed_steps server).addNode _ ?_ _ text probed)
    intro other named
    have plain : ¬ Probed (base.baseName ++ '/' :: name ++ "/Description") :=
      not_probed_append (by decide) (by decide) (by decide)
    exact NodeId.string.inj named ▸ plain

end Nodes

section Ids

variable {adapter : UaAdapter}

theorem VariableIds.later {after : UaAdapter} (ids : VariableIds adapter)
    (vector : after.variableVector = adapter.variableVector)
    (additional : after.additionalVariables = adapter.additionalVariables)
    (nodes : ∀ text, Probed text → after.space.hasNode (.string text) = adapter.space.hasNode (.string text)) :
    VariableIds after := by
  refine ⟨vector ▸ ids.processVariables, additional ▸ ids.additionalVariables, fun text probed => ?_⟩
  unfold UaAdapter.HasId
  rw [nodes text probed, vector, additional]
  exact ids.nodes text probed

theorem VariableIds.relabel (ids : VariableIds adapter) (nodeId : NodeId) (unit description : Text) :
    VariableIds { adapter with variableVector := adapter.variableVector.map (·.relabel nodeId unit description) } := by
  have same (processVariable : UaProcessVariable) :
      (processVariable.relabel nodeId unit description).ownNodeId = processVariable.ownNodeId ∧
        (processVariable.relabel nodeId unit description).baseNodeId = processVariable.baseNodeId ∧
        (processVariable.relabel nodeId unit description).nameNew = processVariable.nameNew := by
    unfold UaProcessVariable.relabel
    split
    · exact ⟨rfl, rfl, rfl⟩
    · exact ⟨rfl, rfl, rfl⟩
  refine ⟨fun processVariable member => ?_, ids.additionalVariables, fun text probed => ?_⟩
  · obtain ⟨old, listed, rfl⟩ := List.mem_map.mp member
    rw [(same old).1, (same old).2.1, (same old).2.2]
    exact ids.processVariables old listed
  · refine (ids.nodes text probed).trans (or_congr_left ?_)
    simp [same]

/-- The variable that is made, with the node it gets. -/
theorem VariableIds.withVariable {after : UaAdapter} {created : UaProcessVariable} (ids : VariableIds adapter)
    (vector : after.variableVector = adapter.variableVector)
    (additional : after.additionalVariables = adapter.additionalVariables)
    (own : created.ownNodeId = .null ∨
      created.ownNodeId = .string (created.baseNodeId.baseName ++ '/' :: created.nameNew))
    (nodes : ∀ text, Probed text → (after.space.hasNode (.string text) = true ↔
      adapter.space.hasNode (.string text) = true ∨ created.ownNodeId = .string text)) :
    VariableIds (after.withVariable created) := by
  unfold UaAdapter.withVariable
  rw [vector]
  refine ⟨List.forall_mem_append.mpr ⟨ids.processVariables, ?_⟩, additional ▸ ids.additionalVariables, fun text probed => ?_⟩
  · exact List.forall_mem_singleton.mpr own
  · unfold UaAdapter.HasId
    dsimp only
    rw [nodes text probed, ids.nodes text probed, UaAdapter.HasId, additional]
    simp [or_and_right, exists_or, or_right_comm]

private theorem VariableIds.withAdditional {after : UaAdapter} {created : UaAdditionalVariable} (ids : VariableIds adapter)
    (vector : after.variableVector = adapter.variableVector)
    (additional : after.additionalVariables = adapter.additionalVariables)
    (own : created.ownNodeId = .null ∨
      created.ownNodeId = .string (created.baseNodeId.baseName ++ '/' :: created.name ++ "AdditionalVariable"))
    (nodes : ∀ text, Probed text → (after.space.hasNode (.string text) = true ↔
      adapter.space.hasNode (.string text) = true ∨ created.ownNodeId = .string text)) :
    VariableIds { after with additionalVariables := after.additionalVariables ++ [created] } := by
  rw [additional]
  refine ⟨vector ▸ ids.processVariables, List.forall_mem_append.mpr ⟨ids.additionalVariables, ?_⟩, fun text probed => ?_⟩
  · exact List.forall_mem_singleton.mpr own
  · unfold UaAdapter.HasId
    dsimp only
    rw [nodes text probed, ids.nodes text probed, UaAdapter.HasId, vector]
    simp [or_and_right, exists_or, or_assoc]

end Ids

theorem variableIds_steps (server : UaServer) (csManager : ControlSystemPVManager) :
    VariableSteps server csManager VariableIds where
  aside vector additional space ids := ids.later vector additional fun _ _ => by rw [space]
  writeDescription nodeId description ids :=
    ids.later rfl rfl fun _ _ => AddressSpace.hasNode_writeDescription _ nodeId _ description
  writeDisplayName nodeId displayName ids :=
    ids.later rfl rfl fun _ _ => AddressSpace.hasNode_writeDisplayName _ nodeId _ displayName
  relabel nodeId unit description ids := ids.relabel nodeId unit description
  addReference reference ids := ids.later rfl rfl fun _ _ => hasNode_addReference server _ reference _
  createFolder {adapter} base folderName ids := by
    refine ids.later ?_ ?_ ((unprobed_steps server).createFolder adapter base folderName [])
    · unfold UaAdapter.createFolder
      split
      · rfl
      · split
        · rfl
        · rfl
    · exact (adapter.createFolder_grows server base folderName []).notes.additionalVariables
  enroll {adapter} path separator ids := by
    refine ids.later (adapter.enroll_variableVector server path separator) ?_
      ((unprobed_steps server).enroll adapter path separator)
    exact (adapter.enrollFolderPathFromString_grows server path separator).notes.additionalVariables
  newProcessVariable {adapter namePV oneProcessVariable} _ base overwriteNodeString ids := by
    have vector := (adapter.newProcessVariable_tables server base oneProcessVariable namePV overwriteNodeString).2
    have additional :=
      (adapter.newProcessVariable_grows server base oneProcessVariable namePV overwriteNodeString).notes.additionalVariables
    have nodes (text : Text) (probed : Probed text) :=
      @newProcessVariable_hasNode server adapter base oneProcessVariable namePV overwriteNodeString text probed
    refine ⟨ids.withVariable vector additional (newProcessVariable_id ..) nodes, fun null => ?_⟩
    refine ids.later vector additional fun text probed => Bool.eq_iff_iff.mpr ((nodes text probed).trans ?_)
    rw [of_decide_eq_true null]
    exact or_iff_left null_ne_string
  newAdditionalVariable {adapter} base name value description ids := by
    refine ids.withAdditional ?_ ?_ ?_ fun text => newAdditionalVariable_hasNode adapter base name value description
    · unfold UaAdapter.newAdditionalVariable
      dsimp only
      split
      · rfl
      · rfl
    · exact (adapter.newAdditionalVariable_grows server base name value description).notes.additionalVariables
    · unfold UaAdapter.newAdditionalVariable UaAdapter.mapAdditionalVariable
      dsimp only
      split
      · exact .inl rfl
      · rw [addNode_id]
        split
        · exact .inr rfl
        · exact .inl rfl

/-- Before the map file is applied, the variables have their ids. -/
theorem mappedAdapter_variableIds (server : UaServer) (csManager : ControlSystemPVManager) (serverConfig : ServerConfig)
    (pvSeparator : Text) (mappingExceptions : Bool) (mapFile : MapFile) :
    VariableIds (mappedAdapter server csManager serverConfig pvSeparator mappingExceptions mapFile) := by
  refine (variableIds_steps server csManager).implicitMapping mapFile ?_
  refine ⟨fun _ member => absurd member List.not_mem_nil, fun _ member => absurd member List.not_mem_nil, ?_⟩
  intro text probed
  have steps := unprobed_steps server
  have configuration : ¬ Probed "ServerConfigurationDir" := not_probed_dir "ServerConfiguration"
  have level : ¬ Probed "logLevel" := @not_probed_append [] _ (by decide) (by decide) (by decide)
  have nodes : (({ serverConfig, pvSeparator, mappingExceptions } : UaAdapter).mapSelfToNamespace server).space.hasNode
      (.string text) = AddressSpace.initial.hasNode (.string text) := by
    refine (steps.trans (steps.trans (steps.addNode _ ?_ _) (steps.addNode _ ?_ _)) (steps.addNode _ ?_ _)) text probed
    · exact fun other named => NodeId.string.inj named ▸ not_probed_dir serverConfig.rootFolder
    · exact fun other named => NodeId.string.inj named ▸ configuration
    · exact fun other named => NodeId.string.inj named ▸ level
  rw [nodes]
  refine iff_of_false ?_ ?_
  · rw [AddressSpace.hasNode_iff]
    rintro ⟨node, member, same⟩
    have levels : ¬ Probed "LoggingLevels" := @not_probed_append [] _ (by decide) (by decide) (by decide)
    have strings : ¬ Probed "EnumStrings" := @not_probed_append [] _ (by decide) (by decide) (by decide)
    simp only [AddressSpace.initial, List.mem_cons, List.not_mem_nil, or_false] at member
    rcases member with rfl | rfl | rfl
    · cases same
    · exact levels (NodeId.string.inj same ▸ probed)
    · exact strings (NodeId.string.inj same ▸ probed)
  · rintro (⟨_, member, -⟩ | ⟨_, member, -⟩)
    · exact absurd member List.not_mem_nil
    · exact absurd member List.not_mem_nil

end OpcUaAdapter
