import OpcUaAdapter.Proofs.ExcludeCoverage
import OpcUaAdapter.Proofs.FolderLinks

/-! Where the adapter puts the copy of a variable that the map file generator was told to
rename. The generator writes no destination for it, and the adapter takes that for the root. -/

namespace OpcUaAdapter
open Effects Mapping

/-- The process variable of the control system and the node id of a variable of the adapter. -/
def UaProcessVariable.key (processVariable : UaProcessVariable) : Text × NodeId :=
  (processVariable.namePV, processVariable.ownNodeId)

def UaAdapter.keys (adapter : UaAdapter) : List (Text × NodeId) := adapter.variableVector.map (·.key)

/-- On the way from one adapter to the other, the variable was mapped to a node with this id. -/
def Copied (before after : UaAdapter) (namePV : Text) (nodeId : NodeId) : Prop :=
  ∃ copy ∈ after.variableVector.drop before.variableVector.length, copy.namePV = namePV ∧ copy.ownNodeId = nodeId

private theorem copied_iff (before after : UaAdapter) (namePV : Text) (nodeId : NodeId) :
    Copied before after namePV nodeId ↔ (namePV, nodeId) ∈ after.keys.drop before.keys.length := by
  unfold Copied UaAdapter.keys UaProcessVariable.key
  rw [List.length_map, ← List.map_drop, List.mem_map]
  simp only [Prod.mk.injEq]

namespace UaAdapter

variable (server : UaServer) (adapter : UaAdapter)

private theorem addPVChildNodes_keys (pvNodeId : NodeId) (pvNodePath namePV : Text) (children : List Text) :
    (adapter.addPVChildNodes server pvNodeId pvNodePath namePV children).keys = adapter.keys := by
  induction children generalizing adapter with
  | nil => rfl
  | cons child children ih =>
    simp only [addPVChildNodes]
    split
    · rfl
    · exact ih _

theorem newProcessVariable_keys (base : NodeId) (oneProcessVariable : ProcessVariable)
    (namePV overwriteNodeString : Text) :
    (adapter.newProcessVariable server base oneProcessVariable namePV overwriteNodeString).2.keys = adapter.keys := by
  simp only [newProcessVariable]
  generalize (if overwriteNodeString.isEmpty then namePV else overwriteNodeString) = nameNew
  split
  · rfl
  split
  · rfl
  simp only [mapVariable]
  split
  · rfl
  · exact addPVChildNodes_keys server _ _ _ _ _

theorem addNode_fst (node : UaNode) (parent : NodeId) (referenceType : ReferenceType) (typeDefinition : Option NodeId) :
    (adapter.addNode server node parent referenceType typeDefinition).1 = .null ∨
      (adapter.addNode server node parent referenceType typeDefinition).1 = node.nodeId := by
  unfold addNode AddressSpace.addNode
  split
  · exact .inr rfl
  · exact .inl rfl

private theorem newProcessVariable_node (base : NodeId) (oneProcessVariable : ProcessVariable)
    (namePV overwriteNodeString : Text) :
    let created := (adapter.newProcessVariable server base oneProcessVariable namePV overwriteNodeString).1
    created.ownNodeId = .null ∨ created.ownNodeId = .string
      (base.baseName ++ '/' :: (if overwriteNodeString.isEmpty then namePV else overwriteNodeString)) := by
  simp only [newProcessVariable]
  generalize (if overwriteNodeString.isEmpty then namePV else overwriteNodeString) = nameNew
  split
  · exact .inl rfl
  split
  · exact adapter.addNode_fst server _ _ _ _
  simp only [mapVariable]
  split
  · exact .inl rfl
  · exact adapter.addNode_fst server _ _ _ _

end UaAdapter

namespace Mapping

private theorem raiseError_same (errorMessage consequenceMessage : Text) (line : Int) :
    Keeps (SameView UaAdapter.keys) (raiseError errorMessage consequenceMessage line) := by
  unfold raiseError when note
  refine Keeps.bind (Keeps.ite (Keeps.modify fun _ => rfl) (Keeps.pure _)) fun _ => ?_
  apply Keeps.read
  intro adapter
  exact Keeps.ite (Keeps.throw _) (Keeps.modify fun _ => rfl)

private theorem finishVariable_same (createdNodeId : NodeId) (name unit description : Text) :
    Keeps (SameView UaAdapter.keys) (finishVariable createdNodeId name unit description) := by
  have set (change : UaProcessVariable → UaProcessVariable) (kept : ∀ processVariable,
      (change processVariable).key = processVariable.key) (adapter : UaAdapter) :
      UaAdapter.keys { adapter with
        variableVector := adapter.variableVector.map fun processVariable =>
          if processVariable.ownNodeId = createdNodeId then change processVariable else processVariable } =
      adapter.keys := by
    unfold UaAdapter.keys
    rw [List.map_map]
    refine List.map_congr_left fun processVariable _ => ?_
    rw [Function.comp_apply]
    split
    · exact kept processVariable
    · rfl
  unfold finishVariable setUnitAndDescription when
  refine Keeps.bind ?_ fun _ => Keeps.modify fun _ => rfl
  refine Keeps.bind (Keeps.ite (Keeps.modify ?_) (Keeps.pure _)) fun _ => Keeps.ite (Keeps.modify ?_) (Keeps.pure _)
  · exact set (fun old => { old with engineeringUnit := unit }) fun _ => rfl
  · exact set (fun old => { old with description }) fun _ => rfl

section

variable (server : UaServer) (csManager : ControlSystemPVManager)

theorem copyVariable_keys (line : Nat) (sourceName unrollPath name unit description : Text) (adapter : UaAdapter) :
    let after := (outcome (copyVariable server csManager line sourceName [] unrollPath name unit description) adapter).2
    after.keys = adapter.keys ∨ ¬ adapter.ownNodeId.isNull ∧ after.keys = adapter.keys ++
      [(sourceName, .string (adapter.ownNodeId.baseName ++ '/' :: (if name.isEmpty then sourceName else name)))] := by
  unfold copyVariable
  split
  · exact .inl (raiseError_same _ _ _ adapter)
  unfold variableDestination
  dsimp only
  generalize copy : (if name.isEmpty then sourceName else name) = copyName
  have once : (if copyName.isEmpty then sourceName else copyName) = copyName := by
    subst copy
    cases name with
    | nil => cases sourceName <;> rfl
    | cons => rfl
  simp only [List.isEmpty_nil, reduceIte, outcome_bind, outcome_get, outcome_pure]
  split
  · exact .inl (raiseError_same _ _ _ adapter)
  next rooted =>
  unfold newProcessVariable
  cases csManager.getProcessVariable sourceName with
  | none => exact .inl rfl
  | some oneProcessVariable =>
    have keys := adapter.newProcessVariable_keys server adapter.ownNodeId oneProcessVariable sourceName copyName
    have node := adapter.newProcessVariable_node server adapter.ownNodeId oneProcessVariable sourceName copyName
    rw [once] at node
    simp only [outcome_modifyGet, outcome_bind]
    have source : (adapter.newProcessVariable server adapter.ownNodeId oneProcessVariable sourceName
      copyName).1.namePV = sourceName := rfl
    generalize adapter.newProcessVariable server adapter.ownNodeId oneProcessVariable sourceName copyName = created
      at keys node source ⊢
    split
    · exact .inl ((raiseError_same _ _ _ created.2).trans keys)
    next mapped =>
    refine .inr ⟨rooted, ?_⟩
    have node := node.resolve_left fun null => mapped (by rw [null]; rfl)
    have entered : UaAdapter.keys { created.2 with variableVector := created.2.variableVector ++ [created.1] } =
        adapter.keys ++ [(sourceName, .string (adapter.ownNodeId.baseName ++ '/' :: copyName))] := by
      rw [← keys, ← source, ← node]
      exact List.map_append
    exact (finishVariable_same created.1.ownNodeId copyName unit description _).trans entered

theorem mapProcessVariable_keys {entry : ProcessVariableEntry} {sourceName : Text}
    (source : entry.sourceName = some sourceName) (copy : toupper (getAttributeValueFromNode entry.copy) = "TRUE")
    (unmoved : entry.destination = none) (adapter : UaAdapter) :
    let after := (outcome (mapProcessVariable server csManager entry) adapter).2
    let name := (entry.name.map getContentFromNode).getD []
    after.keys = adapter.keys ∨
      adapter.space.hasNode (.string (adapter.serverConfig.rootFolder ++ '/' :: sourceName)) = true ∧
      ¬ adapter.ownNodeId.isNull ∧ after.keys = adapter.keys ++
        [(sourceName, .string (adapter.ownNodeId.baseName ++ '/' :: (if name.isEmpty then sourceName else name)))] := by
  have histories : ∃ historyvariables, outcome (when (!(getAttributeValueFromNode entry.history).isEmpty)
      (addVariableHistory entry sourceName "TRUE" (getAttributeValueFromNode entry.history))) adapter =
      (.ok ⟨⟩, { adapter with serverConfig.historyvariables := historyvariables }) := by
    unfold when addVariableHistory
    split
    · rw [unmoved]
      cases entry.name with
      | none => cases sourceName <;> exact ⟨_, rfl⟩
      | some name => cases sourceName <;> exact ⟨_, rfl⟩
    · exact ⟨_, rfl⟩
  obtain ⟨historyvariables, noted⟩ := histories
  have asked : getAttributeValueFromNode entry.sourceName = sourceName := by rw [source]; rfl
  have filled : ("TRUE" : Text).isEmpty = false := rfl
  have other : decide (("TRUE" : Text) = "FALSE") = false := by decide
  unfold mapProcessVariable
  simp only [copy, asked, unmoved, filled, other, Bool.or_false, Bool.and_false, Bool.false_eq_true, reduceIte]
  rw [outcome_bind_ok noted]
  split
  · exact .inl ((Keeps.ite (raiseError_same _ _ _) (raiseError_same _ _ _)) _)
  rw [outcome_bind_ok (outcome_get _)]
  split
  · exact .inl ((Keeps.ite (raiseError_same _ _ _) (raiseError_same _ _ _)) _)
  next there =>
  have there : adapter.space.hasNode (.string (adapter.serverConfig.rootFolder ++ '/' :: sourceName)) = true := by
    simpa using there
  have copied := copyVariable_keys server csManager entry.line sourceName [] ((entry.name.map getContentFromNode).getD [])
    (elementContent entry.unit) (elementContent entry.description)
    { adapter with serverConfig.historyvariables := historyvariables }
  exact copied.imp id fun ⟨rooted, keys⟩ => ⟨there, rooted, keys⟩

end

end Mapping

/-- The adapter's own node is the root folder, unless the server has refused it. -/
theorem mappedAdapter_own (server : UaServer) (csManager : ControlSystemPVManager) (serverConfig : ServerConfig)
    (pvSeparator : Text) (mappingExceptions : Bool) (mapFile : MapFile) :
    let start := mappedAdapter server csManager serverConfig pvSeparator mappingExceptions mapFile
    start.serverConfig = serverConfig ∧
      (start.ownNodeId = .null ∨ start.ownNodeId = .string (serverConfig.rootFolder ++ "Dir")) := by
  have grown := UaAdapter.foldl_grows server
    (({ serverConfig, pvSeparator, mappingExceptions } : UaAdapter).mapSelfToNamespace server)
    ((mappingLoop mapFile csManager.getAllProcessVariables).implicitlyMapped.filterMap fun name =>
      csManager.getProcessVariable (name.drop 1))
  refine ⟨grown.config, ?_⟩
  have own := grown.own
  change _ = ((({ serverConfig, pvSeparator, mappingExceptions } : UaAdapter).addNode server _ _ _ _).1) at own
  unfold mappedAdapter UaAdapter.implicitMapping
  rw [own]
  exact UaAdapter.addNode_fst server _ _ _ _ _

private theorem baseName_dir (text : Text) : NodeId.baseName (.string (text ++ "Dir")) = text := by
  have length : (text ++ ("Dir" : Text)).length - 3 = text.length := by simp
  rw [NodeId.baseName, cutDir, length, List.take_left]

open Generator

theorem processVariableEntry_renamed (var : XMLVar) {options : VarOptions} (path : Text) (historizingActive : Bool)
    {newName : Text} (renamed : given options.newName = some newName) (unmoved : given options.newDestination = none) :
    ∃ entry, var.processVariableEntry options path historizingActive = [entry] ∧
      entry.sourceName = some (if removePrefix path "/root/" = [] then var.name
        else childPath (removePrefix path "/root/") var.name) ∧
      entry.copy = some ("True" : Text) ∧ entry.name = some newName ∧ entry.destination = none := by
  unfold XMLVar.processVariableEntry
  simp [renamed, unmoved]

section

variable (server : UaServer) (csManager : ControlSystemPVManager) (serverConfig : ServerConfig) (pvSeparator : Text)
  (mappingExceptions : Bool) (mapFile : MapFile)

/-- No variable with a new name is copied to that name in its own folder. -/
theorem renamed_variable_leaves_folder (application : ApplicationFile) (options : Options)
    {place : Generator.Place × Nat} {name newName : Text} {above : List Text} (member : .var place name above ∈ application.nodes)
    (renamed : given (options.var place).newName = some newName)
    (unmoved : given (options.var place).newDestination = none)
    (absent : (mappedAdapter server csManager serverConfig pvSeparator mappingExceptions mapFile).space.hasNode
      (.string (serverConfig.rootFolder ++ pathOf (newName :: above.dropLast))) = false) :
    let start := mappedAdapter server csManager serverConfig pvSeparator mappingExceptions mapFile
    let entries := XMLVar.processVariableEntry ⟨name⟩ (options.var place) (pathOf above)
      (options.dir place.1).historizing.isSome
    ¬ Copied start (outcome (explicitVarMapping server csManager entries) start).2
      ((pathOf (name :: above.dropLast)).drop 1) (.string (serverConfig.rootFolder ++ pathOf (newName :: above.dropLast))) := by
  intro start entries
  obtain ⟨d, var, higher, located, rfl, -⟩ := XMLDirectory.mem_nodes_iff.mp member
  have located_names := located.ends_root
  generalize (d.name :: higher).dropLast = names at *
  obtain ⟨entry, written, source, copy, newEntry, destination⟩ := processVariableEntry_renamed ⟨name⟩
    (pathOf (d.name :: higher)) (options.dir place.1).historizing.isSome renamed unmoved
  obtain ⟨config, own⟩ := mappedAdapter_own server csManager serverConfig pvSeparator mappingExceptions mapFile
  have single : (outcome (explicitVarMapping server csManager [entry]) start).2 =
      (outcome (mapProcessVariable server csManager entry) start).2 := by
    unfold explicitVarMapping
    rw [outcome_forM_cons]
    rcases outcome (mapProcessVariable server csManager entry) start with ⟨_ | _, _⟩ <;> rfl
  have mapped := mapProcessVariable_keys server csManager source (by rw [copy]; decide) destination start
  change entries = [entry] at written
  change start.serverConfig = serverConfig at config
  change start.ownNodeId = .null ∨ start.ownNodeId = _ at own
  rw [copied_iff, written, single]
  rcases mapped with same | ⟨there, rooted, keys⟩
  · rw [same, List.drop_length]
    exact List.not_mem_nil
  rw [keys, List.drop_left, List.mem_singleton, Prod.mk.injEq, NodeId.string.injEq]
  rintro ⟨sources, nodes⟩
  have own := own.resolve_left fun null => rooted (by rw [null]; rfl)
  rw [own, baseName_dir, newEntry, Option.map_some, Option.getD_some, getContentFromNode] at nodes
  cases names with
  | nil =>
    -- the path of the root itself is written in front of the variable's name
    have longer : name = childPath rootPath name := by
      rw [located_names] at sources
      exact sources
    have length := congrArg List.length longer
    rw [childPath, List.length_append, List.length_cons] at length
    omega
  | cons folder rest =>
    split at nodes
    next =>
      rw [config, ← nodes] at there
      exact absurd (there.symm.trans absent) (by decide)
    next =>
      -- the new name stands behind the root alone
      have length := congrArg List.length (List.append_cancel_left nodes)
      have shorter : (trim newName).length ≤ newName.length :=
        (List.rdropWhile_prefix _ _).length_le.trans (List.dropWhile_suffix _).length_le
      simp only [pathOf, Paths.join, List.length_append, List.length_cons] at length
      omega

end

def driveManager : ControlSystemPVManager where
  getAllProcessVariables := [⟨"/control/drive/speed", .int32, true, 1, []⟩, ⟨"/control/drive/torque", .int32, true, 1, []⟩,
    ⟨"/control/state", .int32, false, 1, []⟩]
  getProcessVariable name :=
    if name = "control/drive/speed" then some ⟨"/control/drive/speed", .int32, true, 1, []⟩
    else if name = "control/drive/torque" then some ⟨"/control/drive/torque", .int32, true, 1, []⟩
    else if name = "control/state" then some ⟨"/control/state", .int32, false, 1, []⟩
    else none
  finds := by decide

def speedRenamed : Options where
  var place := if place = ([0, 0], 0) then { newName := some "velocity" } else {}

def driveAdapter : UaAdapter := mappedAdapter unusedServer driveManager { rootFolder := "device" } "/" false {}

private theorem velocity_absent :
    driveAdapter.space.hasNode (.string ("device".toList ++ pathOf ["velocity", "drive", "control"])) = false := by
  decide +kernel

theorem renamed_speed_leaves_drive :
    ¬ Copied driveAdapter (outcome (explicitVarMapping unusedServer driveManager
        (XMLVar.processVariableEntry ⟨"speed"⟩ { newName := some "velocity" } (pathOf ["drive", "control", "root"]) false))
        driveAdapter).2 "control/drive/speed" (.string "device/control/drive/velocity") :=
  renamed_variable_leaves_folder unusedServer driveManager { rootFolder := "device" } "/" false {} driveApplication
    speedRenamed (by decide : .var ([0, 0], 0) "speed" ["drive", "control", "root"] ∈ driveApplication.nodes)
    rfl rfl velocity_absent

/-- The new speed is not in the folder of the drive. -/
theorem velocity_not_in_drive : ¬ ∀ (server : UaServer) (csManager : ControlSystemPVManager) (serverConfig : ServerConfig)
    (mapFile : MapFile) (application : ApplicationFile) (options : Options) (place : Generator.Place × Nat)
    (name newName : Text) (above : List Text), .var place name above ∈ application.nodes →
    given (options.var place).newName = some newName → given (options.var place).newDestination = none →
    (mappedAdapter server csManager serverConfig "/" false mapFile).space.hasNode
      (.string (serverConfig.rootFolder ++ pathOf (newName :: above.dropLast))) = false →
    Copied (mappedAdapter server csManager serverConfig "/" false mapFile)
      (outcome (explicitVarMapping server csManager (XMLVar.processVariableEntry ⟨name⟩ (options.var place) (pathOf above)
        (options.dir place.1).historizing.isSome)) (mappedAdapter server csManager serverConfig "/" false mapFile)).2
      ((pathOf (name :: above.dropLast)).drop 1) (.string (serverConfig.rootFolder ++ pathOf (newName :: above.dropLast))) := by
  intro stays
  have copied := stays unusedServer driveManager { rootFolder := "device" } {} driveApplication speedRenamed ([0, 0], 0)
    "speed" "velocity" ["drive", "control", "root"] (by decide) rfl rfl velocity_absent
  rw [copied_iff] at copied
  revert copied
  decide +kernel

example : Copied driveAdapter (outcome (explicitVarMapping unusedServer driveManager
    (XMLVar.processVariableEntry ⟨"speed"⟩ { newName := some "velocity" } (pathOf ["drive", "control", "root"]) false))
    driveAdapter).2 "control/drive/speed" (.string "device/velocity") := by
  rw [copied_iff]
  decide +kernel

end OpcUaAdapter
