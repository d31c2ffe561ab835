import OpcUaAdapter.Proofs.FolderGraph
import OpcUaAdapter.Proofs.FolderNames

/-! The nodes of the folders: the server has a node for the adapter's root folder and for every
folder of the table that it has not refused, so a path that is enrolled leads to a node. -/

namespace OpcUaAdapter

open Effects

/-- The server adds a node just when its id is not in use and its parent is there. -/
def AddsNewBelow (server : UaServer) : Prop :=
  ∀ space node parent, server.addsNode space node parent = (!space.hasNode node.nodeId && space.hasNode parent)

def NodeOrNull (space : AddressSpace) (nodeId : NodeId) : Prop := nodeId = .null ∨ space.hasNode nodeId = true

structure FoldersKnown (adapter : UaAdapter) : Prop where
  own : adapter.space.hasNode adapter.ownNodeId = true
  table : ∀ i ∈ adapter.folderVector, NodeOrNull adapter.space i.folderNodeId

theorem FoldersKnown.later {before after : UaAdapter} (known : FoldersKnown before)
    (own : after.ownNodeId = before.ownNodeId) (folders : after.folderVector = before.folderVector)
    (nodes : ∀ nodeId, before.space.hasNode nodeId = true → after.space.hasNode nodeId = true) : FoldersKnown after :=
  ⟨own ▸ nodes _ known.own, fun i member => (known.table i (folders ▸ member)).imp_right (nodes _)⟩

section Folders

variable {server : UaServer} {adapter : UaAdapter}

theorem FoldersKnown.createFolder (known : FoldersKnown adapter) (base : NodeId) (folderName : Text) :
    FoldersKnown (adapter.createFolder server base folderName).2 ∧
      NodeOrNull (adapter.createFolder server base folderName).2.space (adapter.createFolder server base folderName).1 := by
  unfold UaAdapter.createFolder
  split
  next => exact ⟨known, .inl rfl⟩
  next =>
  split
  next absent =>
    have grown : Grows adapter (adapter.createUAFolder server base folderName []).2 := adapter.addNode_grows server _ _ _ _
    have created : NodeOrNull (adapter.createUAFolder server base folderName []).2.space
        (adapter.createUAFolder server base folderName []).1 := by
      refine or_iff_not_imp_left.mpr fun other => ?_
      exact addNode_known adapter _ base .organizes (some folderType) (decide_eq_false other)
    refine ⟨⟨?_, fun i member => ?_⟩, created⟩
    · exact grown.own ▸ grown.nodes _ known.own
    · rcases List.mem_append.mp member with old | new
      · exact (known.table i old).imp_right (grown.nodes _)
      · rw [List.mem_singleton.mp new]
        exact created
  next => exact ⟨known, .inl rfl⟩

theorem FoldersKnown.createFolders (known : FoldersKnown adapter) {base : NodeId} (here : NodeOrNull adapter.space base)
    (path : List Text) : FoldersKnown (adapter.createFolders server base path).2 ∧
      NodeOrNull (adapter.createFolders server base path).2.space (adapter.createFolders server base path).1 := by
  induction path generalizing adapter base with
  | nil => exact ⟨known, here⟩
  | cons folder path ih =>
    obtain ⟨later, created⟩ := @FoldersKnown.createFolder server _ known base folder
    exact ih later created

theorem FoldersKnown.existFolderPath (known : FoldersKnown adapter) {base : NodeId}
    (here : NodeOrNull adapter.space base) (path : List Text) :
    NodeOrNull adapter.space (adapter.existFolderPath base path) := by
  have exists_ (base : NodeId) (folder : Text) : NodeOrNull adapter.space (adapter.existFolder base folder) := by
    unfold UaAdapter.existFolder
    split
    next i found => exact known.table i (List.mem_of_find?_eq_some found)
    next => exact .inl rfl
  induction path generalizing base with
  | nil => exact here
  | cons folder path ih =>
    unfold UaAdapter.existFolderPath
    dsimp only
    split
    next => exact .inl rfl
    next => exact ih (exists_ base folder)

theorem FoldersKnown.partlyExisting (known : FoldersKnown adapter) {base : NodeId}
    (here : NodeOrNull adapter.space base) (path : List Text) :
    NodeOrNull adapter.space (adapter.partlyExisting base path).1 := by
  fun_induction adapter.partlyExisting base path with
  | case1 base folder next path i found ih => exact ih (known.table i (List.mem_of_find?_eq_some found))
  | case2 base folder next path missing => exact here
  | case3 base path single => exact here

/-- The folder of a path is a node, where the path leads to one. -/
theorem FoldersKnown.enroll (known : FoldersKnown adapter) (path separator : Text) :
    FoldersKnown (adapter.enrollFolderPathFromString server path separator).2 ∧
      NodeOrNull (adapter.enrollFolderPathFromString server path separator).2.space
        (adapter.enrollFolderPathFromString server path separator).1 := by
  simp only [UaAdapter.enrollFolderPathFromString]
  generalize (if separator.isEmpty then [] else parseVariablePath path separator) = varPathVector
  split
  next => exact ⟨known, .inl rfl⟩
  next =>
  unfold UaAdapter.createFolderPath
  split
  next => exact ⟨known, .inl rfl⟩
  next =>
  split
  next => exact known.createFolders (known.partlyExisting (.inr known.own) _) _
  next => exact ⟨known, known.existFolderPath (.inr known.own) _⟩

end Folders

def KeepsFolders (before after : UaAdapter) : Prop := FoldersKnown before → FoldersKnown after

instance : LocalSteps KeepsFolders where
  refl _ := id
  trans _ _ _ first rest := rest ∘ first
  aside same known := known.later same.own same.folders fun _ there => same.space ▸ there
  writeDescription _ _ _ known := known.later rfl rfl fun _ there => (AddressSpace.hasNode_writeDescription ..).trans there
  writeDisplayName _ _ _ known := known.later rfl rfl fun _ there => (AddressSpace.hasNode_writeDisplayName ..).trans there

instance : FaultSteps KeepsFolders where
  fault _ _ known := known.later rfl rfl fun _ => id

instance : RootSteps KeepsFolders where
  move _ _ known := known.later rfl rfl fun _ => id

instance : AdditionalSteps KeepsFolders where
  enter _ _ known := known.later rfl rfl fun _ => id

theorem hasNode_addReference (server : UaServer) (space : AddressSpace) (reference : UaReference) (nodeId : NodeId) :
    (space.addReference server reference).hasNode nodeId = space.hasNode nodeId := by
  unfold AddressSpace.addReference
  split
  · rfl
  · rfl

instance (server : UaServer) : LinkSteps server KeepsFolders where
  addReference _ _ known := known.later rfl rfl fun _ there => (hasNode_addReference ..).trans there

instance (server : UaServer) : ServerSteps server KeepsFolders where
  addComponent _ _ _ known := known.later rfl rfl fun _ there => (hasNode_addReference ..).trans there
  createFolder _ base folderName known := (known.createFolder base folderName).1
  enroll _ path separator known := (known.enroll path separator).1
  newProcessVariable adapter base oneProcessVariable namePV overwriteNodeString known := by
    have grown := adapter.newProcessVariable_grows server base oneProcessVariable namePV overwriteNodeString
    exact known.later grown.own
      (adapter.newProcessVariable_tables server base oneProcessVariable namePV overwriteNodeString).1 grown.nodes
  newAdditionalVariable adapter base name value description known := by
    have grown := adapter.newAdditionalVariable_grows server base name value description
    refine known.later grown.own ?_ grown.nodes
    simp only [UaAdapter.newAdditionalVariable]
    split <;> rfl

end OpcUaAdapter
