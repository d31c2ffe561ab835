import OpcUaAdapter.Proofs.DeepCopy
import OpcUaAdapter.Proofs.FolderNames
import OpcUaAdapter.Proofs.SpaceSteps

/-! Where the implicit mapping puts the variables: each component has one parent, and the ids
of parent and component fit. -/

namespace OpcUaAdapter

open Effects

/-- The ids of a parent and its component: a variable in the root folder, one in a folder
below it, a node of a variable, and one whose variable was refused. -/
inductive ComponentShape (rootFolder : Text) : NodeId → NodeId → Prop where
  | inRoot (name : Text) : ComponentShape rootFolder (folderId rootFolder []) (.string (rootFolder ++ '/' :: name))
  | inFolder {path : List Text} (filled : path ≠ []) (tokens : AreTokens path) :
      ComponentShape rootFolder (folderId rootFolder path.dropLast) (.string (treePath rootFolder path))
  | below (text child : Text) : ComponentShape rootFolder (.string text) (.string (text ++ '/' :: child))
  | orphan (target : NodeId) : ComponentShape rootFolder .null target

/-- Components exist, have one parent each, and fit it. -/
structure ComponentsFit (rootFolder : Text) (space : AddressSpace) : Prop where
  noNull : space.hasNode .null = false
  known : ∀ {source target}, ⟨source, .hasComponent, target⟩ ∈ space.references → space.hasNode target = true
  single : ∀ {first second target}, ⟨first, .hasComponent, target⟩ ∈ space.references →
    ⟨second, .hasComponent, target⟩ ∈ space.references → first = second
  shaped : ∀ {source target}, ⟨source, .hasComponent, target⟩ ∈ space.references →
    ComponentShape rootFolder source target

section Fit

variable {server : UaServer} {rootFolder : Text} {adapter : UaAdapter}

theorem mem_references_addNode {space : AddressSpace} {node : UaNode} {parent : NodeId} {referenceType : ReferenceType}
    {typeDefinition : Option NodeId} {source target : NodeId} :
    ⟨source, .hasComponent, target⟩ ∈ (space.addNode server node parent referenceType typeDefinition).2.references ↔
      ⟨source, .hasComponent, target⟩ ∈ space.references ∨ server.addsNode space node parent = true ∧
        source = parent ∧ referenceType = .hasComponent ∧ target = node.nodeId := by
  unfold AddressSpace.addNode
  cases server.addsNode space node parent with
  | false => simp
  | true =>
    cases typeDefinition with
    | none => simp [@eq_comm _ referenceType]
    | some type => simp [@eq_comm _ referenceType]

theorem ComponentsFit.addNode (law : RefusesUsed server) {space : AddressSpace} (fit : ComponentsFit rootFolder space) (node : UaNode)
    (parent : NodeId) (referenceType : ReferenceType) (typeDefinition : Option NodeId) {text : Text}
    (identified : node.nodeId = .string text)
    (shape : referenceType = .hasComponent → ComponentShape rootFolder parent node.nodeId) :
    ComponentsFit rootFolder (space.addNode server node parent referenceType typeDefinition).2 := by
  have nodes : ∀ nodeId, space.hasNode nodeId = true →
      (space.addNode server node parent referenceType typeDefinition).2.hasNode nodeId = true := by
    intro nodeId there
    exact (UaAdapter.addNode_grows server { serverConfig := { rootFolder }, space } node parent referenceType
      typeDefinition).nodes nodeId there
  have new {source target : NodeId} (old : ⟨source, .hasComponent, target⟩ ∈ space.references)
      (granted : server.addsNode space node parent = true) : target ≠ node.nodeId := by
    rintro rfl
    have there := fit.known old
    rw [law space node parent granted] at there
    cases there
  refine ⟨?_, fun member => ?_, fun first second => ?_, fun member => ?_⟩
  · have old := fit.noNull
    unfold AddressSpace.addNode
    split
    next =>
      rw [← Bool.not_eq_true, AddressSpace.hasNode_iff] at old ⊢
      rintro ⟨other, member, null⟩
      rcases List.mem_append.mp member with before | new
      · exact old ⟨other, before, null⟩
      · rw [List.mem_singleton.mp new, identified] at null
        cases null
    next => exact old
  · rcases mem_references_addNode.mp member with old | ⟨granted, -, -, rfl⟩
    · exact nodes _ (fit.known old)
    · simp [AddressSpace.addNode, granted, AddressSpace.hasNode_iff]
  · rcases mem_references_addNode.mp first with old | ⟨granted, rfl, -, rfl⟩
    · rcases mem_references_addNode.mp second with other | ⟨granted, -, -, rfl⟩
      · exact fit.single old other
      · exact absurd rfl (new old granted)
    · rcases mem_references_addNode.mp second with other | ⟨-, rfl, -, -⟩
      · exact absurd rfl (new other granted)
      · rfl
  · rcases mem_references_addNode.mp member with old | ⟨-, rfl, component, rfl⟩
    · exact fit.shaped old
    · exact shape component

/-- A node with a text as its id, which fits its parent where it is a component. -/
def FitsParent (rootFolder : Text) (node : UaNode) (parent : NodeId) (referenceType : ReferenceType) : Prop :=
  (∃ text, node.nodeId = .string text) ∧ (referenceType = .hasComponent → ComponentShape rootFolder parent node.nodeId)

theorem ComponentsFit.steps (law : RefusesUsed server) : NodeSteps server (FitsParent rootFolder)
    fun before after => ComponentsFit rootFolder before → ComponentsFit rootFolder after where
  refl _ := id
  trans first rest := rest ∘ first
  addNode _ _ _ _ fine typeDefinition fit := fit.addNode law _ _ _ typeDefinition fine.1.choose_spec fine.2
  folder _ _ _ _ := ⟨⟨_, rfl⟩, nofun⟩

private theorem addNode_component (node : UaNode) (parent : NodeId) (typeDefinition : Option NodeId) :
    (adapter.addNode server node parent .hasComponent typeDefinition).1 = .null ∨
      (adapter.addNode server node parent .hasComponent typeDefinition).1 = node.nodeId ∧
        ⟨parent, .hasComponent, node.nodeId⟩ ∈
          (adapter.addNode server node parent .hasComponent typeDefinition).2.space.references := by
  have component := @mem_references_addNode server adapter.space node parent .hasComponent typeDefinition parent node.nodeId
  cases granted : server.addsNode adapter.space node parent with
  | false =>
    left
    simp [UaAdapter.addNode, AddressSpace.addNode, granted]
  | true =>
    refine .inr ⟨?_, component.mpr (.inr ⟨granted, rfl, rfl, rfl⟩)⟩
    simp [UaAdapter.addNode, AddressSpace.addNode, granted]

/-- A new variable, unless it gets no node, is a component of its folder. -/
theorem ComponentsFit.newProcessVariable (law : RefusesUsed server) (fit : ComponentsFit rootFolder adapter.space)
    {base : NodeId} (oneProcessVariable : ProcessVariable) {namePV overwriteNodeString nameNew : Text}
    (named : (if overwriteNodeString.isEmpty then namePV else overwriteNodeString) = nameNew)
    (shape : ComponentShape rootFolder base (.string (base.baseName ++ '/' :: nameNew))) :
    let created := adapter.newProcessVariable server base oneProcessVariable namePV overwriteNodeString
    ComponentsFit rootFolder created.2.space ∧ (created.1.ownNodeId = .null ∨
      created.1.ownNodeId = .string (base.baseName ++ '/' :: nameNew) ∧
        ⟨base, .hasComponent, .string (base.baseName ++ '/' :: nameNew)⟩ ∈ created.2.space.references) := by
  constructor
  · refine (ComponentsFit.steps law).newProcessVariable adapter base oneProcessVariable named ?_ ?_ fit
    · exact fun _ _ _ => ⟨⟨_, rfl⟩, fun _ => shape⟩
    · rintro pvNodeId (rfl | rfl) child -
      · exact ⟨⟨_, rfl⟩, fun _ => .orphan _⟩
      · exact ⟨⟨_, rfl⟩, fun _ => .below _ _⟩
  unfold UaAdapter.newProcessVariable
  dsimp only
  rw [named]
  split
  next => exact .inl rfl
  next =>
  split
  next => exact addNode_component _ base none
  next =>
  unfold UaAdapter.mapVariable
  dsimp only
  split
  next => exact .inl rfl
  next =>
    let node : UaNode :=
      { nodeId := .string (base.baseName ++ '/' :: nameNew), nodeClass := .variable, browseName := nameNew
        displayName := nameNew, description := oneProcessVariable.description }
    refine (@addNode_component server adapter node base (some ctkVariable)).imp_right fun ⟨same, member⟩ => ⟨same, ?_⟩
    exact (UaAdapter.addPVChildNodes_grows server _ _ _ _ _).references _ member

end Fit

/-- Where the implicit mapping puts a variable: in the folder that its path leads to, or in
the root folder under its whole name. -/
def IsPlace (rootFolder namePV : Text) (base own : NodeId) : Prop :=
  (base = folderId rootFolder [] ∧ own = .string (rootFolder ++ '/' :: namePV)) ∨
    ∃ varName : Text, namePV = varName.drop 1 ∧ parseVariablePath varName "/" ≠ [] ∧
      base = folderId rootFolder (parseVariablePath varName "/").dropLast ∧
      own = .string (treePath rootFolder (parseVariablePath varName "/"))

/-- The variable has no node, or is a component at its place, and has no unit yet. -/
def PlacedNew (rootFolder : Text) (space : AddressSpace) (processVariable : UaProcessVariable) : Prop :=
  processVariable.engineeringUnit = [] ∧ (processVariable.ownNodeId = .null ∨
    ∃ base, IsPlace rootFolder processVariable.namePV base processVariable.ownNodeId ∧
      ⟨base, .hasComponent, processVariable.ownNodeId⟩ ∈ space.references)

/-- The adapter after the mapping of some variables. -/
structure PlacesVariables (rootFolder : Text) (adapter : UaAdapter) : Prop where
  separator : adapter.pvSeparator = "/"
  own : IsFolderId rootFolder [] adapter.ownNodeId
  folders : NamesFolders adapter
  fit : ComponentsFit rootFolder adapter.space
  placed : ∀ processVariable ∈ adapter.variableVector, PlacedNew rootFolder adapter.space processVariable

section Mapped

variable {server : UaServer} {rootFolder : Text} {adapter : UaAdapter}

theorem PlacedNew.grows {before after : AddressSpace} {processVariable : UaProcessVariable}
    (placed : PlacedNew rootFolder before processVariable)
    (references : ∀ reference ∈ before.references, reference ∈ after.references) :
    PlacedNew rootFolder after processVariable :=
  ⟨placed.1, placed.2.imp_right fun ⟨base, place, member⟩ => ⟨base, place, references _ member⟩⟩

theorem ComponentsFit.writeDisplayName {space : AddressSpace} (fit : ComponentsFit rootFolder space) (nodeId : NodeId)
    (displayName : Text) : ComponentsFit rootFolder (space.writeDisplayName nodeId displayName) :=
  ⟨(AddressSpace.hasNode_writeDisplayName _ _ _ _).trans fit.noNull,
    fun member => (AddressSpace.hasNode_writeDisplayName _ _ _ _).trans (fit.known member), fit.single, fit.shaped⟩

/-- A variable that is mapped to a folder and entered. -/
theorem PlacesVariables.enter (law : RefusesUsed server) (places : PlacesVariables rootFolder adapter) {base : NodeId}
    (oneProcessVariable : ProcessVariable) {namePV overwriteNodeString nameNew : Text} (lastToken : Text)
    (named : (if overwriteNodeString.isEmpty then namePV else overwriteNodeString) = nameNew)
    (place : base = .null ∨ IsPlace rootFolder namePV base (.string (base.baseName ++ '/' :: nameNew)) ∧
      ComponentShape rootFolder base (.string (base.baseName ++ '/' :: nameNew))) :
    PlacesVariables rootFolder (UaAdapter.enterVariable
      (adapter.newProcessVariable server base oneProcessVariable namePV overwriteNodeString) lastToken) := by
  have grown := adapter.newProcessVariable_grows server base oneProcessVariable namePV overwriteNodeString
  obtain ⟨folders, entered⟩ := adapter.newProcessVariable_tables server base oneProcessVariable namePV overwriteNodeString
  have shape : ComponentShape rootFolder base (.string (base.baseName ++ '/' :: nameNew)) := by
    rcases place with rfl | ⟨-, shape⟩
    · exact .orphan _
    · exact shape
  obtain ⟨fit, own⟩ := places.fit.newProcessVariable law oneProcessVariable named shape
  have new : PlacedNew rootFolder
      (adapter.newProcessVariable server base oneProcessVariable namePV overwriteNodeString).2.space
      (adapter.newProcessVariable server base oneProcessVariable namePV overwriteNodeString).1 := by
    refine ⟨rfl, ?_⟩
    rcases place with rfl | ⟨here, -⟩
    · exact .inl rfl
    · exact own.imp_right fun ⟨same, member⟩ => ⟨base, by rw [same]; exact ⟨here, member⟩⟩
  refine ⟨grown.separator.trans places.separator, ?_, places.folders.congr folders, fit.writeDisplayName _ _, ?_⟩
  · have same := grown.own
    change IsFolderId rootFolder [] (adapter.newProcessVariable server base oneProcessVariable namePV overwriteNodeString).2.ownNodeId
    rw [same]
    exact places.own
  · intro processVariable member
    rcases List.mem_append.mp member with old | last
    · rw [entered] at old
      exact (places.placed processVariable old).grows grown.references
    · rw [List.mem_singleton.mp last]
      exact new

theorem PlacesVariables.enroll (law : RefusesUsed server) (places : PlacesVariables rootFolder adapter) (text : Text) :
    PlacesVariables rootFolder (adapter.enrollFolderPathFromString server text "/").2 := by
  have grown := adapter.enrollFolderPathFromString_grows server text "/"
  refine ⟨grown.separator.trans places.separator, ?_, places.folders.enroll text "/",
    (ComponentsFit.steps law).enroll adapter text "/" places.fit, ?_⟩
  · rw [grown.own]
    exact places.own
  · intro processVariable member
    rw [UaAdapter.enroll_variableVector] at member
    exact (places.placed processVariable member).grows grown.references

theorem PlacesVariables.implicitVarMapping (law : RefusesUsed server) (places : PlacesVariables rootFolder adapter)
    (oneProcessVariable : ProcessVariable) :
    PlacesVariables rootFolder (adapter.implicitVarMapping server oneProcessVariable) := by
  have enrolled := places.enroll law oneProcessVariable.name
  have folder := @NamesFolders.enroll_fst server _ _ places.folders places.own oneProcessVariable.name
  unfold UaAdapter.implicitVarMapping
  rw [places.separator]
  generalize oneProcessVariable.name = varName at *
  dsimp only
  split
  next null =>
    have named : (if ([] : Text).isEmpty then varName.drop 1 else []) = varName.drop 1 := rfl
    refine enrolled.enter law oneProcessVariable _ named (places.own.imp_right fun root => ?_)
    rw [root, baseName_folderId]
    have root_text : treePath rootFolder [] = rootFolder := List.append_nil _
    rw [root_text]
    exact ⟨.inl ⟨rfl, rfl⟩, .inRoot _⟩
  next known =>
    have here := folder.resolve_left fun null => known (by rw [null]; rfl)
    have filled : parseVariablePath varName "/" ≠ [] := by
      intro empty
      apply known
      unfold UaAdapter.enrollFolderPathFromString
      rw [show ("/" : Text).isEmpty = false from rfl, if_neg Bool.false_ne_true, empty]
      rfl
    obtain ⟨path, last, split⟩ := (List.eq_nil_or_concat (parseVariablePath varName "/")).resolve_left filled
    rw [List.concat_eq_append] at split
    have tokens := areTokens_parsed varName
    rw [split] at tokens
    have named : (if (((parseVariablePath varName "/").getLast?).getD []).isEmpty then varName.drop 1
        else ((parseVariablePath varName "/").getLast?).getD []) = last := by
      rw [split, List.getLast?_concat, Option.getD_some]
      exact if_neg (by simpa using (tokens last (by simp)).1)
    refine enrolled.enter law oneProcessVariable _ named (.inr ?_)
    rw [here, baseName_folderId, split, List.dropLast_concat, ← treePath_append]
    refine ⟨.inr ⟨varName, rfl, ?_, ?_, ?_⟩, ?_⟩
    · exact filled
    · rw [split, List.dropLast_concat]
    · rw [split]
    · have shape := @ComponentShape.inFolder rootFolder (path ++ [last]) (by simp) tokens
      rwa [List.dropLast_concat] at shape

theorem PlacesVariables.mapSelfToNamespace (law : RefusesUsed server) (serverConfig : ServerConfig)
    (mappingExceptions : Bool) :
    PlacesVariables serverConfig.rootFolder
      (({ serverConfig, pvSeparator := "/", mappingExceptions } : UaAdapter).mapSelfToNamespace server) := by
  have initial : ComponentsFit serverConfig.rootFolder .initial :=
    ⟨by decide, fun member => absurd member List.not_mem_nil, fun member => absurd member List.not_mem_nil,
      fun member => absurd member List.not_mem_nil⟩
  refine ⟨rfl, ?_, ⟨fun i member => absurd member List.not_mem_nil, fun i member => absurd member List.not_mem_nil⟩, ?_,
    fun processVariable member => absurd member List.not_mem_nil⟩
  · refine (UaAdapter.addNode_fst server { serverConfig, pvSeparator := "/", mappingExceptions } _ _ _ _).imp_right ?_
    intro same
    refine same.trans (congrArg (fun text => NodeId.string (text ++ "Dir")) ?_)
    exact (List.append_nil serverConfig.rootFolder).symm
  · unfold UaAdapter.mapSelfToNamespace
    refine ComponentsFit.addNode law ?_ _ _ .organizes _ rfl (by rintro ⟨⟩)
    refine ComponentsFit.addNode law ?_ _ _ .organizes _ rfl (by rintro ⟨⟩)
    exact initial.addNode law _ _ .organizes _ rfl (by rintro ⟨⟩)

end Mapped

/-- The implicit mapping puts every variable that gets a node at its place. -/
theorem mappedAdapter_places {server : UaServer} (law : RefusesUsed server) (csManager : ControlSystemPVManager)
    (serverConfig : ServerConfig) (mappingExceptions : Bool) (mapFile : MapFile) :
    PlacesVariables serverConfig.rootFolder
      (mappedAdapter server csManager serverConfig "/" mappingExceptions mapFile) := by
  have fold (processVariables : List ProcessVariable) (adapter : UaAdapter)
      (places : PlacesVariables serverConfig.rootFolder adapter) :
      PlacesVariables serverConfig.rootFolder (processVariables.foldl (UaAdapter.implicitVarMapping server) adapter) := by
    induction processVariables generalizing adapter with
    | nil => exact places
    | cons pv processVariables ih => exact ih _ (places.implicitVarMapping law pv)
  exact fold _ _ (.mapSelfToNamespace law serverConfig mappingExceptions)

end OpcUaAdapter
