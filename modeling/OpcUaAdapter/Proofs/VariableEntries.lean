import OpcUaAdapter.Proofs.FolderCopies
import OpcUaAdapter.Proofs.FolderWalks
import OpcUaAdapter.Proofs.VariableSteps

/-! The variables that the adapter keeps. However they came to be mapped, each is one of the
manager's, and its node, where the server has added one, is a component of its folder. -/

namespace OpcUaAdapter

open Effects

/-- A variable or a method is a component of a folder under its name. -/
structure AddressSpace.HasVariable (space : AddressSpace) (base : NodeId) (name : Text) (nodeId : NodeId) : Prop where
  reference : ⟨base, .hasComponent, nodeId⟩ ∈ space.references
  node : ∃ node ∈ space.nodes,
    node.nodeId = nodeId ∧ (node.nodeClass = .variable ∨ node.nodeClass = .method) ∧ node.browseName = name

theorem AddressSpace.HasVariable.later {before after : AddressSpace} (spans : AddressSpace.Spans before after)
    {base nodeId : NodeId} {name : Text} (has : before.HasVariable base name nodeId) :
    after.HasVariable base name nodeId := by
  obtain ⟨reference, node, member, same, class_, named⟩ := has
  obtain ⟨later, there, id, kept, shown⟩ := spans.nodes node member
  exact ⟨spans.references _ reference, later, there, id.trans same, kept.symm ▸ class_, shown.trans named⟩

/-- The manager knows the variable, and its node is where it should be. -/
structure VariableStands (csManager : ControlSystemPVManager) (space : AddressSpace)
    (processVariable : UaProcessVariable) : Prop where
  known : (csManager.getProcessVariable processVariable.namePV).isSome = true
  node : processVariable.ownNodeId.isNull = false →
    space.HasVariable processVariable.baseNodeId processVariable.nameNew processVariable.ownNodeId

/-- All variables stand, and there are variables for these names. -/
structure VariablesStand (csManager : ControlSystemPVManager) (names : List Text) (adapter : UaAdapter) : Prop where
  each : ∀ processVariable ∈ adapter.variableVector, VariableStands csManager adapter.space processVariable
  names : ∀ name ∈ names, ∃ processVariable ∈ adapter.variableVector, processVariable.namePV = name

section Entries

variable {csManager : ControlSystemPVManager} {names : List Text}

theorem VariableStands.later {before after : AddressSpace} (spans : AddressSpace.Spans before after)
    {processVariable : UaProcessVariable} (stands : VariableStands csManager before processVariable) :
    VariableStands csManager after processVariable :=
  ⟨stands.known, fun filled => (stands.node filled).later spans⟩

theorem VariableStands.relabel {space : AddressSpace} {processVariable : UaProcessVariable}
    (stands : VariableStands csManager space processVariable) (nodeId : NodeId) (unit description : Text) :
    VariableStands csManager space (processVariable.relabel nodeId unit description) := by
  unfold UaProcessVariable.relabel
  split
  · exact ⟨stands.known, stands.node⟩
  · exact stands

theorem VariablesStand.later {before after : UaAdapter} (stand : VariablesStand csManager names before)
    (same : after.variableVector = before.variableVector) (spans : AddressSpace.Spans before.space after.space) :
    VariablesStand csManager names after :=
  ⟨fun processVariable member => (stand.each processVariable (same ▸ member)).later spans, same ▸ stand.names⟩

private theorem addNode_hasVariable {server : UaServer} {adapter : UaAdapter} {node : UaNode} {base : NodeId}
    (class_ : node.nodeClass = .variable ∨ node.nodeClass = .method) (typeDefinition : Option NodeId)
    (filled : (adapter.addNode server node base .hasComponent typeDefinition).1.isNull = false) :
    (adapter.addNode server node base .hasComponent typeDefinition).2.space.HasVariable base node.browseName
      (adapter.addNode server node base .hasComponent typeDefinition).1 := by
  simp only [UaAdapter.addNode, AddressSpace.addNode] at filled ⊢
  split at filled
  next grants =>
    rw [if_pos grants]
    refine ⟨List.mem_append_right _ List.mem_cons_self, node, ?_, rfl, class_, rfl⟩
    exact List.mem_append_right _ (List.mem_singleton_self _)
  next => exact null_elim filled

theorem VariablesStand.fewer {adapter : UaAdapter} (stand : VariablesStand csManager names adapter) {others : List Text}
    (subset : ∀ name ∈ others, name ∈ names) : VariablesStand csManager others adapter :=
  ⟨stand.each, fun name member => stand.names name (subset name member)⟩

theorem newProcessVariable_stands (server : UaServer) (adapter : UaAdapter) (base : NodeId)
    (oneProcessVariable : ProcessVariable) {namePV : Text}
    (known : (csManager.getProcessVariable namePV).isSome = true) (overwriteNodeString : Text) :
    VariableStands csManager
      (adapter.newProcessVariable server base oneProcessVariable namePV overwriteNodeString).2.space
      (adapter.newProcessVariable server base oneProcessVariable namePV overwriteNodeString).1 := by
  refine ⟨known, ?_⟩
  unfold UaAdapter.newProcessVariable
  dsimp only
  generalize (if overwriteNodeString.isEmpty then namePV else overwriteNodeString) = nameNew
  split
  next => exact null_elim
  next =>
  split
  next => exact addNode_hasVariable (.inr rfl) none
  next =>
  unfold UaAdapter.mapVariable
  dsimp only
  split
  next => exact null_elim
  next =>
    refine fun filled => (addNode_hasVariable (.inl rfl) (some ctkVariable) filled).later ?_
    exact (AddressSpace.spans_steps server).addPVChildNodes _ _ _ _ fun _ _ => trivial

end Entries

/-- A variable with another unit and description is still for the same one. -/
theorem VariablesStand.relabel {csManager : ControlSystemPVManager} {names : List Text} {adapter : UaAdapter}
    (stand : VariablesStand csManager names adapter) (nodeId : NodeId) (unit description : Text) :
    VariablesStand csManager names
      { adapter with variableVector := adapter.variableVector.map (·.relabel nodeId unit description) } := by
  refine ⟨fun processVariable member => ?_, fun name member => ?_⟩
  · obtain ⟨old, listed, rfl⟩ := List.mem_map.mp member
    exact (stand.each old listed).relabel nodeId unit description
  · obtain ⟨old, listed, named⟩ := stand.names name member
    refine ⟨_, List.mem_map_of_mem listed, ?_⟩
    unfold UaProcessVariable.relabel
    split
    · exact named
    · exact named

private theorem variablesStand_steps (server : UaServer) (csManager : ControlSystemPVManager) (names : List Text) :
    VariableSteps server csManager (VariablesStand csManager names) where
  aside vector _ space stand := stand.later vector (space ▸ .refl _)
  writeDescription nodeId _ stand := stand.later rfl (.update _ nodeId fun _ => ⟨rfl, rfl, rfl⟩)
  writeDisplayName nodeId _ stand := stand.later rfl (.update _ nodeId fun _ => ⟨rfl, rfl, rfl⟩)
  relabel nodeId unit description stand := stand.relabel nodeId unit description
  addReference reference stand := stand.later rfl (.addReference server _ reference)
  createFolder {adapter} base folderName stand := by
    refine stand.later ?_ ((AddressSpace.spans_steps server).createFolder adapter base folderName [])
    unfold UaAdapter.createFolder
    split
    · rfl
    · split
      · rfl
      · rfl
  enroll {adapter} path separator stand := stand.later (adapter.enroll_variableVector server path separator)
    ((AddressSpace.spans_steps server).enroll adapter path separator)
  newProcessVariable {adapter namePV oneProcessVariable} known base overwriteNodeString stand := by
    have created : VariablesStand csManager names
        (adapter.newProcessVariable server base oneProcessVariable namePV overwriteNodeString).2 := by
      refine stand.later ?_ ?_
      · exact (adapter.newProcessVariable_tables server base oneProcessVariable namePV overwriteNodeString).2
      · exact (AddressSpace.spans_steps server).newProcessVariable adapter base oneProcessVariable rfl
          (fun _ _ _ => trivial) fun _ _ _ _ => trivial
    refine ⟨⟨fun other member => ?_, fun name member => ?_⟩, fun _ => created⟩
    · rcases List.mem_append.mp member with old | new
      · exact created.each other old
      · rw [List.mem_singleton.mp new]
        exact newProcessVariable_stands server adapter base oneProcessVariable (Option.isSome_of_eq_some known) _
    · obtain ⟨other, listed, named⟩ := created.names name member
      exact ⟨other, List.mem_append_left _ listed, named⟩
  newAdditionalVariable {adapter} base name value description stand := by
    have steps := AddressSpace.spans_steps server
    unfold UaAdapter.newAdditionalVariable
    dsimp only
    split
    · exact stand.later rfl (.refl _)
    · exact stand.later rfl (steps.trans (steps.addNode _ trivial _) (steps.addNode _ trivial _))

section Implicit

variable (server : UaServer) {csManager : ControlSystemPVManager} {names : List Text}

theorem implicitVarMapping_stands {adapter : UaAdapter} (stand : VariablesStand csManager names adapter)
    {oneProcessVariable : ProcessVariable}
    (known : (csManager.getProcessVariable (oneProcessVariable.name.drop 1)).isSome = true) :
    VariablesStand csManager (oneProcessVariable.name.drop 1 :: names)
      (adapter.implicitVarMapping server oneProcessVariable) := by
  have steps := AddressSpace.spans_steps server
  have enrolled := stand.later (adapter.enroll_variableVector server oneProcessVariable.name adapter.pvSeparator)
    (steps.enroll adapter oneProcessVariable.name adapter.pvSeparator)
  have entered {before : UaAdapter} (here : VariablesStand csManager names before) (base : NodeId)
      (overwriteNodeString lastToken : Text) : VariablesStand csManager (oneProcessVariable.name.drop 1 :: names)
      (UaAdapter.enterVariable (before.newProcessVariable server base oneProcessVariable (oneProcessVariable.name.drop 1)
        overwriteNodeString) lastToken) := by
    have made := newProcessVariable_stands server before base oneProcessVariable known overwriteNodeString
    have created := steps.newProcessVariable before base oneProcessVariable
      (@rfl _ (if overwriteNodeString.isEmpty then oneProcessVariable.name.drop 1 else overwriteNodeString))
      (fun _ _ _ => trivial) fun _ _ _ _ => trivial
    have tables := before.newProcessVariable_tables server base oneProcessVariable (oneProcessVariable.name.drop 1)
      overwriteNodeString
    have written : AddressSpace.Spans _ _ := .update
      (before.newProcessVariable server base oneProcessVariable (oneProcessVariable.name.drop 1) overwriteNodeString).2.space
      (before.newProcessVariable server base oneProcessVariable (oneProcessVariable.name.drop 1)
        overwriteNodeString).1.ownNodeId
      fun node => (⟨rfl, rfl, rfl⟩ : ({ node with displayName := lastToken } : UaNode).nodeId = node.nodeId ∧ _ ∧ _)
    unfold UaAdapter.enterVariable
    refine ⟨fun processVariable member => ?_, fun name member => ?_⟩
    · rcases List.mem_append.mp member with old | new
      · exact (here.each _ (tables.2 ▸ old)).later (created.trans written)
      · rw [List.mem_singleton.mp new]
        exact made.later written
    · rcases List.mem_cons.mp member with rfl | other
      · exact ⟨_, List.mem_append_right _ (List.mem_singleton_self _), rfl⟩
      · obtain ⟨processVariable, listed, named⟩ := here.names name other
        exact ⟨processVariable, List.mem_append_left _ (tables.2 ▸ listed), named⟩
  simp only [UaAdapter.implicitVarMapping]
  split
  next => exact entered enrolled _ _ _
  next => exact entered enrolled _ _ _

private theorem implicitMapping_stands {adapter : UaAdapter} (stand : VariablesStand csManager [] adapter) (mapFile : MapFile) :
    VariablesStand csManager
      ((mappingLoop mapFile csManager.getAllProcessVariables).implicitlyMapped.map fun name => name.drop 1)
      (adapter.implicitMapping server csManager mapFile) := by
  have rounds (list : List Text) (found : ∀ name ∈ list, ∃ pv ∈ csManager.getAllProcessVariables, pv.name = name)
      {others : List Text} {adapter : UaAdapter} (stand : VariablesStand csManager others adapter) :
      VariablesStand csManager ((list.map fun name => name.drop 1) ++ others)
        ((list.filterMap fun name => csManager.getProcessVariable (name.drop 1)).foldl
          (UaAdapter.implicitVarMapping server) adapter) := by
    induction list generalizing others adapter with
    | nil => exact stand
    | cons name list ih =>
      obtain ⟨⟨pv, listed, rfl⟩, later⟩ := List.forall_mem_cons.mp found
      have finds := csManager.finds pv listed
      have first : ((pv.name :: list).filterMap fun name => csManager.getProcessVariable (name.drop 1)) =
          pv :: list.filterMap fun name => csManager.getProcessVariable (name.drop 1) := List.filterMap_cons_some finds
      rw [first, List.foldl_cons]
      refine (ih later (implicitVarMapping_stands server stand (Option.isSome_of_eq_some finds))).fewer ?_
      intro other member
      simpa [or_left_comm, or_assoc] using member
  have listed := (implicitlyMapped_sublist mapFile csManager.getAllProcessVariables).subset
  have mapped := rounds _ (fun name member => List.mem_map.mp (listed member)) stand
  rwa [List.append_nil] at mapped

end Implicit

theorem applyMapping_stands (server : UaServer) (csManager : ControlSystemPVManager) (serverConfig : ServerConfig)
    (pvSeparator : Text) (mappingExceptions : Bool) (fuel : Nat) (mapFile : MapFile) :
    VariablesStand csManager
      ((mappingLoop mapFile csManager.getAllProcessVariables).implicitlyMapped.map fun name => name.drop 1)
      (outcome (Mapping.applyMapping server csManager fuel mapFile)
        (mappedAdapter server csManager serverConfig pvSeparator mappingExceptions mapFile)).2 := by
  have start : VariablesStand csManager []
      (({ serverConfig, pvSeparator, mappingExceptions } : UaAdapter).mapSelfToNamespace server) :=
    ⟨fun _ member => absurd member List.not_mem_nil, fun _ member => absurd member List.not_mem_nil⟩
  have mapped := implicitMapping_stands server start mapFile
  exact (Mapping.applyMapping_stays (variablesStand_steps server csManager _) fuel mapFile).outcome mapped

/-- Whatever is mapped, and wherever the mapping ends: each variable of the adapter is one of the
manager's, and its node, if it has one, is a component of its folder under its name. -/
theorem mapped_variables_stand (server : UaServer) (csManager : ControlSystemPVManager) (serverConfig : ServerConfig)
    (pvSeparator : Text) (mappingExceptions : Bool) (fuel : Nat) (mapFile : MapFile) :
    let adapter := (outcome (Mapping.applyMapping server csManager fuel mapFile)
      (mappedAdapter server csManager serverConfig pvSeparator mappingExceptions mapFile)).2
    ∀ processVariable ∈ adapter.variableVector, VariableStands csManager adapter.space processVariable :=
  (applyMapping_stands server csManager serverConfig pvSeparator mappingExceptions fuel mapFile).each

/-- The last variable is that of a copied folder. -/
theorem mapped_variables_stand_copied :
    let adapter := (outcome (Mapping.applyMapping belowServer nestedFolder 2 { folders := [copiedBeside] })
      (mappedAdapter belowServer nestedFolder { rootFolder := "r" } "/" false { folders := [copiedBeside] })).2
    ∃ processVariable ∈ adapter.variableVector, processVariable.ownNodeId = .string "r/c/s/v" ∧
      VariableStands nestedFolder adapter.space processVariable := by
  intro adapter
  obtain ⟨processVariable, listed, own⟩ : ∃ processVariable ∈ adapter.variableVector,
      processVariable.ownNodeId = .string "r/c/s/v" := by decide +kernel
  exact ⟨processVariable, listed, own, mapped_variables_stand belowServer nestedFolder { rootFolder := "r" } "/" false 2
    { folders := [copiedBeside] } processVariable listed⟩

theorem named_implicitlyMapped {mapFile : MapFile} {processVariables : List ProcessVariable} {pv : ProcessVariable}
    (listed : pv ∈ processVariables) (usable : pv.unusableVoid = false) {entry : ProcessVariableEntry}
    (member : entry ∈ mapFile.processVariables) (named : getAttributeValueFromNode entry.sourceName = pv.name.drop 1) :
    pv.name ∈ (mappingLoop mapFile processVariables).implicitlyMapped := by
  refine ((mappingLoop_sorted mapFile processVariables).mapped pv.name).mpr ⟨⟨pv, listed, usable, rfl⟩, ?_⟩
  rintro ⟨unmapped, -⟩
  exact unmapped (mem_getAllMappedPvSourceNames.mpr ⟨entry, member, named⟩)

/-- The report names no source that the manager lists, but for voids that cannot be mapped, and
all sources that the manager does not find, but for those with a history. -/
theorem not_mappable_reported (server : UaServer) (csManager : ControlSystemPVManager) (serverConfig : ServerConfig)
    (pvSeparator : Text) (mappingExceptions : Bool) (fuel : Nat) (mapFile : MapFile) :
    let adapter := (outcome (Mapping.applyMapping server csManager fuel mapFile)
      (mappedAdapter server csManager serverConfig pvSeparator mappingExceptions mapFile)).2
    (∀ name ∈ adapter.getAllNotMappableVariablesNames mapFile,
      ∀ pv ∈ csManager.getAllProcessVariables, pv.name.drop 1 = name → pv.unusableVoid = true) ∧
    ∀ entry ∈ mapFile.processVariables,
      csManager.getProcessVariable (getAttributeValueFromNode entry.sourceName) = none →
        getAttributeValueFromNode entry.sourceName ∈ adapter.getAllNotMappableVariablesNames mapFile ∨
          ∃ histVar ∈ adapter.serverConfig.historyvariables, histVar.variableId =
            .string (adapter.serverConfig.rootFolder ++ '/' :: getAttributeValueFromNode entry.sourceName) := by
  intro adapter
  have stand := applyMapping_stands server csManager serverConfig pvSeparator mappingExceptions fuel mapFile
  refine ⟨fun name reported pv listed named => ?_, fun entry member unknown => ?_⟩
  · obtain ⟨given, unmapped⟩ := List.mem_filter.mp reported
    obtain ⟨entry, member, source⟩ := List.mem_map.mp given
    by_contra usable
    have mapped := named_implicitlyMapped listed (Bool.eq_false_iff.mpr usable) member (source.trans named.symm)
    obtain ⟨processVariable, there, same⟩ := stand.names _ (List.mem_map_of_mem mapped)
    have none := (Bool.and_eq_true_iff.mp unmapped).1
    rw [Bool.not_eq_true', List.any_eq_false] at none
    exact none processVariable there (decide_eq_true (same.trans named))
  · by_cases historized : ∃ histVar ∈ adapter.serverConfig.historyvariables, histVar.variableId =
      .string (adapter.serverConfig.rootFolder ++ '/' :: getAttributeValueFromNode entry.sourceName)
    · exact .inr historized
    · refine .inl (List.mem_filter.mpr ⟨List.mem_map_of_mem member, ?_⟩)
      rw [Bool.and_eq_true, Bool.not_eq_true', Bool.not_eq_true', List.any_eq_false, List.any_eq_false]
      refine ⟨fun processVariable there same => ?_, fun histVar there same => ?_⟩
      · have known := (stand.each processVariable there).known
        rw [of_decide_eq_true same, unknown] at known
        cases known
      · exact historized ⟨histVar, there, of_decide_eq_true same⟩

def unknownSource : MapFile := { processVariables := [{ sourceName := some "b/w" }, { sourceName := some "b/x" }] }

theorem not_mappable_reported_unknown :
    let adapter := (outcome (Mapping.applyMapping belowServer nestedFolder 1 unknownSource)
      (mappedAdapter belowServer nestedFolder { rootFolder := "r" } "/" false unknownSource)).2
    ("b/x" : Text) ∈ adapter.getAllNotMappableVariablesNames unknownSource ∧
      ("b/w" : Text) ∉ adapter.getAllNotMappableVariablesNames unknownSource := by
  intro adapter
  obtain ⟨known, unknown⟩ := not_mappable_reported belowServer nestedFolder { rootFolder := "r" } "/" false 1 unknownSource
  refine ⟨?_, fun reported => ?_⟩
  · refine (unknown _ (List.mem_cons_of_mem _ (List.mem_singleton_self _)) (by decide)).resolve_right ?_
    rintro ⟨histVar, listed, -⟩
    have none : adapter.serverConfig.historyvariables = [] := by decide +kernel
    change histVar ∈ adapter.serverConfig.historyvariables at listed
    rw [none] at listed
    cases listed
  · have usable := known _ reported ⟨"/b/w", .int32, true, 1, []⟩ (List.mem_cons_of_mem _ (List.mem_singleton_self _)) rfl
    exact absurd usable (by decide)

end OpcUaAdapter
