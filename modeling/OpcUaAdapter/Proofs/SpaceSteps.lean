import OpcUaAdapter.UaAdapter

/-! What the address space keeps while the adapter asks the server for nodes: a relation is
shown once for a node, and then holds for folders, for paths of folders, and for process
variables with the nodes below them. -/

namespace OpcUaAdapter

/-- A relation that is kept when the server is asked for a fine node below its parent. The
nodes of folders always are. -/
structure NodeSteps (server : UaServer) (fine : UaNode → NodeId → ReferenceType → Prop)
    (relation : AddressSpace → AddressSpace → Prop) : Prop where
  refl : ∀ space, relation space space
  trans : ∀ {first second third}, relation first second → relation second third → relation first third
  addNode : ∀ space {node parent referenceType}, fine node parent referenceType → ∀ typeDefinition,
    relation space (space.addNode server node parent referenceType typeDefinition).2
  folder : ∀ text folderName description base,
    fine { nodeId := .string (text ++ "Dir"), nodeClass := .object, browseName := folderName, displayName := folderName
           description } base .organizes

namespace NodeSteps

variable {server : UaServer} {fine : UaNode → NodeId → ReferenceType → Prop}
  {relation : AddressSpace → AddressSpace → Prop} (steps : NodeSteps server fine relation)

include steps

theorem createFolder (adapter : UaAdapter) (base : NodeId) (folderName description : Text) :
    relation adapter.space (adapter.createFolder server base folderName description).2.space := by
  unfold UaAdapter.createFolder
  split
  next => exact steps.refl _
  next =>
  split
  next =>
    cases base with
    | string identifier =>
      exact steps.addNode adapter.space (steps.folder (cutDir identifier ++ '/' :: folderName) _ _ _) _
    | numeric _ identifier => exact steps.addNode adapter.space (steps.folder ('/' :: intText identifier) _ _ _) _
  next => exact steps.refl _

theorem createFolders (adapter : UaAdapter) (base : NodeId) (path : List Text) :
    relation adapter.space (adapter.createFolders server base path).2.space := by
  induction path generalizing adapter base with
  | nil => exact steps.refl _
  | cons folder path ih => exact steps.trans (steps.createFolder adapter base folder []) (ih _ _)

theorem enroll (adapter : UaAdapter) (path separator : Text) :
    relation adapter.space (adapter.enrollFolderPathFromString server path separator).2.space := by
  simp only [UaAdapter.enrollFolderPathFromString]
  generalize (if separator.isEmpty then [] else parseVariablePath path separator) = varPathVector
  split
  next => exact steps.refl _
  next =>
  unfold UaAdapter.createFolderPath
  split
  next => exact steps.refl _
  next =>
  split
  next => exact steps.createFolders adapter _ _
  next => exact steps.refl _

theorem addPVChildNodes (adapter : UaAdapter) (pvNodeId : NodeId) (pvNodePath namePV : Text) {children : List Text}
    (each : ∀ child ∈ children, fine (pvChildNode pvNodePath namePV child) pvNodeId .hasComponent) :
    relation adapter.space (adapter.addPVChildNodes server pvNodeId pvNodePath namePV children).space := by
  induction children generalizing adapter with
  | nil => exact steps.refl _
  | cons child children ih =>
    obtain ⟨here, later⟩ := List.forall_mem_cons.mp each
    have added := steps.addNode adapter.space here (some baseDataVariableType)
    unfold UaAdapter.addPVChildNodes
    dsimp only
    split
    next => exact added
    next => exact steps.trans added (ih (adapter.addNode server _ _ _ _).2 later)

/-- A variable's node, or its method, is fine, and so are the nodes below it. -/
theorem newProcessVariable (adapter : UaAdapter) (base : NodeId) (oneProcessVariable : ProcessVariable)
    {namePV overwriteNodeString nameNew : Text}
    (named : (if overwriteNodeString.isEmpty then namePV else overwriteNodeString) = nameNew)
    (own : ∀ nodeClass, nodeClass = .variable ∨ nodeClass = .method → ∀ description,
      fine { nodeId := .string (base.baseName ++ '/' :: nameNew), nodeClass, browseName := nameNew
             displayName := nameNew, description } base .hasComponent)
    (below : ∀ pvNodeId, pvNodeId = .null ∨ pvNodeId = .string (base.baseName ++ '/' :: nameNew) →
      ∀ child ∈ pvChildNames,
        fine (pvChildNode (base.baseName ++ '/' :: nameNew) namePV child) pvNodeId .hasComponent) :
    relation adapter.space
      (adapter.newProcessVariable server base oneProcessVariable namePV overwriteNodeString).2.space := by
  unfold UaAdapter.newProcessVariable
  dsimp only
  rw [named]
  split
  next => exact steps.refl _
  next =>
  split
  next => exact steps.addNode adapter.space (own .method (.inr rfl) _) none
  next =>
  unfold UaAdapter.mapVariable
  dsimp only
  split
  next => exact steps.refl _
  next =>
    have added := steps.addNode adapter.space (own .variable (.inl rfl) oneProcessVariable.description) (some ctkVariable)
    let node : UaNode :=
      { nodeId := .string (base.baseName ++ '/' :: nameNew), nodeClass := .variable, browseName := nameNew
        displayName := nameNew, description := oneProcessVariable.description }
    have created : (adapter.addNode server node base .hasComponent (some ctkVariable)).1 = .null ∨
        (adapter.addNode server node base .hasComponent (some ctkVariable)).1 = node.nodeId := by
      simp only [UaAdapter.addNode, AddressSpace.addNode]
      split
      next => exact .inr rfl
      next => exact .inl rfl
    exact steps.trans added (steps.addPVChildNodes (adapter.addNode server node base .hasComponent (some ctkVariable)).2
      _ _ _ (below _ created))

end NodeSteps

end OpcUaAdapter
