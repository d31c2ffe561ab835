import OpcUaAdapter.Proofs.SpaceIntegrity

/-! The table of folders stands for folders of the address space: each row for an Organizes
reference to a node of its name. So a path that is looked up or enrolled after any mapping
is one that a client can walk by the names of the nodes. -/

namespace OpcUaAdapter

open Effects

namespace AddressSpace

/-- A folder is organized by another under its name. -/
structure HasFolder (space : AddressSpace) (base : NodeId) (folderName : Text) (folderNodeId : NodeId) : Prop where
  reference : ⟨base, .organizes, folderNodeId⟩ ∈ space.references
  node : ∃ node ∈ space.nodes, node.nodeId = folderNodeId ∧ node.nodeClass = .object ∧ node.browseName = folderName

/-- Folders one below the other, by their names. -/
inductive Walk (space : AddressSpace) : NodeId → List Text → NodeId → Prop where
  | here (base : NodeId) : Walk space base [] base
  | down {base next last : NodeId} {folderName : Text} {path : List Text} (first : space.HasFolder base folderName next)
      (rest : Walk space next path last) : Walk space base (folderName :: path) last

theorem Walk.append {space : AddressSpace} {base middle last : NodeId} {path more : List Text}
    (first : space.Walk base path middle) (rest : space.Walk middle more last) : space.Walk base (path ++ more) last := by
  induction first with
  | here base => exact rest
  | down organizes _ ih => exact .down organizes (ih rest)

/-- References stay, and nodes under their ids and browse names. -/
structure Spans (before after : AddressSpace) : Prop where
  references : ∀ reference ∈ before.references, reference ∈ after.references
  nodes : ∀ node ∈ before.nodes, ∃ later ∈ after.nodes,
    later.nodeId = node.nodeId ∧ later.nodeClass = node.nodeClass ∧ later.browseName = node.browseName

theorem Spans.refl (space : AddressSpace) : Spans space space := ⟨fun _ => id, fun node member => ⟨node, member, rfl, rfl, rfl⟩⟩

theorem Spans.trans {first second third : AddressSpace} (before : Spans first second) (after : Spans second third) :
    Spans first third := by
  refine ⟨fun reference member => after.references _ (before.references _ member), fun node member => ?_⟩
  obtain ⟨middle, there, id, class_, name⟩ := before.nodes node member
  obtain ⟨last, later, same, kept, shown⟩ := after.nodes middle there
  exact ⟨last, later, same.trans id, kept.trans class_, shown.trans name⟩

theorem HasFolder.later {before after : AddressSpace} (spans : Spans before after) {base folderNodeId : NodeId}
    {folderName : Text} (has : before.HasFolder base folderName folderNodeId) :
    after.HasFolder base folderName folderNodeId := by
  obtain ⟨reference, node, member, same, class_, name⟩ := has
  obtain ⟨later, there, id, kept, shown⟩ := spans.nodes node member
  exact ⟨spans.references _ reference, later, there, id.trans same, kept.trans class_, shown.trans name⟩

theorem Walk.later {before after : AddressSpace} (spans : Spans before after) {base last : NodeId} {path : List Text}
    (walk : before.Walk base path last) : after.Walk base path last := by
  induction walk with
  | here base => exact .here base
  | down organizes _ ih => exact .down (organizes.later spans) ih

theorem Spans.update (space : AddressSpace) (changed : NodeId) {change : UaNode → UaNode}
    (kept : ∀ node, (change node).nodeId = node.nodeId ∧ (change node).nodeClass = node.nodeClass ∧
      (change node).browseName = node.browseName) : Spans space (space.update changed change) := by
  refine ⟨fun _ => id, fun node member => ⟨_, List.mem_map_of_mem member, ?_⟩⟩
  split
  · exact kept node
  · exact ⟨rfl, rfl, rfl⟩

theorem Spans.addReference (server : UaServer) (space : AddressSpace) (reference : UaReference) :
    Spans space (space.addReference server reference) := by
  unfold AddressSpace.addReference
  split
  · exact ⟨fun _ => List.mem_append_left _, fun node member => ⟨node, member, rfl, rfl, rfl⟩⟩
  · exact .refl space

theorem spans_steps (server : UaServer) : NodeSteps server (fun _ _ _ => True) Spans where
  refl := .refl
  trans := .trans
  folder _ _ _ _ := trivial
  addNode space node parent referenceType _ typeDefinition := by
    unfold AddressSpace.addNode
    split
    · exact ⟨fun _ => List.mem_append_left _, fun old member => ⟨old, List.mem_append_left _ member, rfl, rfl, rfl⟩⟩
    · exact .refl space

end AddressSpace

/-- The rows of the table are folders of the address space, unless the server refused them. -/
structure TableShown (adapter : UaAdapter) : Prop where
  rows : ∀ i ∈ adapter.folderVector, i.folderNodeId.isNull = false →
    adapter.space.HasFolder i.prevFolderNodeId i.folderName i.folderNodeId
  bases : ∀ i ∈ adapter.folderVector, i.prevFolderNodeId.isNull = false

theorem TableShown.later {before after : UaAdapter} (shown : TableShown before)
    (folders : after.folderVector = before.folderVector) (spans : AddressSpace.Spans before.space after.space) :
    TableShown after :=
  ⟨fun i member filled => (shown.rows i (folders ▸ member) filled).later spans, fun i member => shown.bases i (folders ▸ member)⟩

theorem null_elim {goal : Prop} (filled : NodeId.null.isNull = false) : goal := absurd filled (by decide)

theorem addNode_hasFolder {server : UaServer} {adapter : UaAdapter} {node : UaNode} {base : NodeId}
    (object : node.nodeClass = .object) (typeDefinition : Option NodeId)
    (filled : (adapter.addNode server node base .organizes typeDefinition).1.isNull = false) :
    (adapter.addNode server node base .organizes typeDefinition).2.space.HasFolder base node.browseName
      (adapter.addNode server node base .organizes typeDefinition).1 := by
  simp only [UaAdapter.addNode, AddressSpace.addNode] at filled ⊢
  split at filled
  next grants =>
    rw [if_pos grants]
    refine ⟨List.mem_append_right _ List.mem_cons_self, node, ?_, rfl, object, rfl⟩
    exact List.mem_append_right _ (List.mem_singleton_self _)
  next => exact null_elim filled

namespace TableShown

variable {server : UaServer} {adapter : UaAdapter} (shown : TableShown adapter)

include shown

/-- A folder that is created is organized by its base, unless the server refuses it. -/
theorem createFolder (base : NodeId) (folderName : Text) :
    TableShown (adapter.createFolder server base folderName).2 ∧
      ((adapter.createFolder server base folderName).1.isNull = false →
        (adapter.createFolder server base folderName).2.space.HasFolder base folderName
          (adapter.createFolder server base folderName).1) := by
  have spans := (AddressSpace.spans_steps server).createFolder adapter base folderName []
  revert spans
  unfold UaAdapter.createFolder
  split
  next => exact fun _ => ⟨shown, null_elim⟩
  next based =>
  split
  next absent =>
    intro spans
    have created : (adapter.createUAFolder server base folderName []).1.isNull = false →
        (adapter.createUAFolder server base folderName []).2.space.HasFolder base folderName
          (adapter.createUAFolder server base folderName []).1 := addNode_hasFolder rfl _
    refine ⟨⟨fun i member filled => ?_, fun i member => ?_⟩, created⟩
    · rcases List.mem_append.mp member with old | new
      · exact (shown.rows i old filled).later spans
      · obtain rfl := List.mem_singleton.mp new
        exact created filled
    · rcases List.mem_append.mp member with old | new
      · exact shown.bases i old
      · obtain rfl := List.mem_singleton.mp new
        exact Bool.eq_false_iff.mpr based
  next => exact fun _ => ⟨shown, null_elim⟩

omit shown in
theorem createFolders_null (adapter : UaAdapter) {base : NodeId} (null : base.isNull = true) (path : List Text) :
    (adapter.createFolders server base path).1.isNull = true := by
  induction path generalizing adapter base with
  | nil => exact null
  | cons folder path ih =>
    have created : adapter.createFolder server base folder = (.null, adapter) := if_pos null
    rw [UaAdapter.createFolders, created]
    exact ih adapter rfl

/-- Folders are created one below the other. -/
theorem createFolders (base : NodeId) (path : List Text) :
    TableShown (adapter.createFolders server base path).2 ∧
      ((adapter.createFolders server base path).1.isNull = false →
        (adapter.createFolders server base path).2.space.Walk base path (adapter.createFolders server base path).1) := by
  induction path generalizing adapter base with
  | nil => exact ⟨shown, fun _ => .here base⟩
  | cons folder path ih =>
    obtain ⟨later, created⟩ := @TableShown.createFolder server adapter shown base folder
    obtain ⟨last, walk⟩ := ih later (adapter.createFolder server base folder).1
    refine ⟨last, fun filled => .down ?_ (walk filled)⟩
    have next : (adapter.createFolder server base folder).1.isNull = false := by
      refine Bool.eq_false_iff.mpr fun null => ?_
      have ends := @createFolders_null server (adapter.createFolder server base folder).2 _ null path
      rw [UaAdapter.createFolders, ends] at filled
      cases filled
    exact (created next).later ((AddressSpace.spans_steps server).createFolders _ _ path)

/-- A path that is found in the table is a walk. -/
theorem existFolderPath (base : NodeId) (path : List Text)
    (found : (adapter.existFolderPath base path).isNull = false) :
    adapter.space.Walk base path (adapter.existFolderPath base path) := by
  induction path generalizing base with
  | nil => exact .here base
  | cons folder path ih =>
    unfold UaAdapter.existFolderPath at found ⊢
    dsimp only at found ⊢
    split at found
    next => cases found
    next filled =>
      rw [if_neg filled]
      refine .down ?_ (ih _ found)
      unfold UaAdapter.existFolder at filled ⊢
      split at filled
      next i row =>
        have listed := List.find?_some row
        obtain ⟨rfl, rfl⟩ : i.folderName = folder ∧ i.prevFolderNodeId = base := by simpa using listed
        exact shown.rows i (List.mem_of_find?_eq_some row) (Bool.eq_false_iff.mpr filled)
      next => exact absurd rfl filled

/-- No folder is below one that was refused. -/
theorem partlyExisting_null (path : List Text) : adapter.partlyExisting .null path = (.null, path) := by
  cases path with
  | nil => rfl
  | cons folder path =>
    cases path with
    | nil => rfl
    | cons next path =>
      have none : (adapter.folderVector.find? fun i => folder = i.folderName && i.prevFolderNodeId = .null) = none := by
        rw [List.find?_eq_none]
        intro i member listed
        have based := shown.bases i member
        rw [of_decide_eq_true (Bool.and_eq_true_iff.mp listed).2] at based
        cases based
      rw [UaAdapter.partlyExisting, none]

/-- The part of a path that is there already is a walk. -/
theorem partlyExisting (base : NodeId) (path : List Text) (found : (adapter.partlyExisting base path).1.isNull = false) :
    ∃ done, path = done ++ (adapter.partlyExisting base path).2 ∧
      adapter.space.Walk base done (adapter.partlyExisting base path).1 := by
  fun_induction adapter.partlyExisting base path with
  | case1 base folder next path i row ih =>
    have filled : i.folderNodeId.isNull = false := by
      refine Bool.eq_false_iff.mpr fun null => ?_
      rw [of_decide_eq_true null, shown.partlyExisting_null] at found
      cases found
    have listed := List.find?_some row
    obtain ⟨rfl, rfl⟩ : folder = i.folderName ∧ i.prevFolderNodeId = base := by simpa using listed
    obtain ⟨done, split, walk⟩ := ih found
    exact ⟨i.folderName :: done, congrArg _ split, .down (shown.rows i (List.mem_of_find?_eq_some row) filled) walk⟩
  | case2 base folder next path missing => exact ⟨[], rfl, .here base⟩
  | case3 base path single => exact ⟨[], rfl, .here base⟩

/-- A path that is created in part or whole is a walk. -/
theorem createFolderPath (base : NodeId) (path : List Text) :
    TableShown (adapter.createFolderPath server base path).2 ∧
      ((adapter.createFolderPath server base path).1.isNull = false →
        (adapter.createFolderPath server base path).2.space.Walk base path (adapter.createFolderPath server base path).1) := by
  unfold UaAdapter.createFolderPath
  split
  next => exact ⟨shown, null_elim⟩
  next =>
  split
  next =>
    obtain ⟨later, created⟩ := @TableShown.createFolders server adapter shown (adapter.partlyExisting base path).1
      (adapter.partlyExisting base path).2
    refine ⟨later, fun filled => ?_⟩
    have some_ : (adapter.partlyExisting base path).1.isNull = false := by
      refine Bool.eq_false_iff.mpr fun null => ?_
      rw [createFolders_null adapter null] at filled
      cases filled
    obtain ⟨done, split, walk⟩ := shown.partlyExisting base path some_
    have spans := (AddressSpace.spans_steps server).createFolders adapter (adapter.partlyExisting base path).1
      (adapter.partlyExisting base path).2
    have whole := (walk.later spans).append (created filled)
    rwa [← split] at whole
  next found => exact ⟨shown, fun filled => shown.existFolderPath base path filled⟩

/-- What is enrolled is a walk from the adapter's root folder. -/
theorem enroll (path separator : Text) :
    TableShown (adapter.enrollFolderPathFromString server path separator).2 ∧
      ((adapter.enrollFolderPathFromString server path separator).1.isNull = false →
        (adapter.enrollFolderPathFromString server path separator).2.space.Walk adapter.ownNodeId
          (parseVariablePath path separator).dropLast (adapter.enrollFolderPathFromString server path separator).1) := by
  unfold UaAdapter.enrollFolderPathFromString
  dsimp only
  generalize tokens : (if separator.isEmpty then [] else parseVariablePath path separator) = varPathVector
  split
  next => exact ⟨shown, null_elim⟩
  next given =>
    have own : parseVariablePath path separator = varPathVector := by
      rw [← tokens]
      split
      next empty =>
        rw [if_pos empty] at tokens
        exact absurd (tokens ▸ rfl) given
      next => rfl
    rw [own]
    exact shown.createFolderPath _ _

end TableShown

def KeepsTable (before after : UaAdapter) : Prop := TableShown before → TableShown after

instance : LocalSteps KeepsTable where
  refl _ := id
  trans _ _ _ first rest := rest ∘ first
  aside same shown := shown.later same.folders (same.space ▸ .refl _)
  writeDescription _ nodeId _ shown := shown.later rfl (.update _ nodeId fun _ => ⟨rfl, rfl, rfl⟩)
  writeDisplayName _ nodeId _ shown := shown.later rfl (.update _ nodeId fun _ => ⟨rfl, rfl, rfl⟩)

instance : FaultSteps KeepsTable where
  fault _ _ shown := shown.later rfl (.refl _)

instance : RootSteps KeepsTable where
  move _ _ shown := shown.later rfl (.refl _)

instance : AdditionalSteps KeepsTable where
  enter _ _ shown := shown.later rfl (.refl _)

instance (server : UaServer) : LinkSteps server KeepsTable where
  addReference adapter reference shown := shown.later rfl (.addReference server adapter.space reference)

instance (server : UaServer) : ServerSteps server KeepsTable where
  addComponent adapter _ _ shown := shown.later rfl (.addReference server adapter.space _)
  createFolder _ base folderName shown := (shown.createFolder base folderName).1
  enroll _ path separator shown := (shown.enroll path separator).1
  newProcessVariable adapter base oneProcessVariable namePV overwriteNodeString shown := by
    refine shown.later (adapter.newProcessVariable_tables server base oneProcessVariable namePV overwriteNodeString).1 ?_
    exact (AddressSpace.spans_steps server).newProcessVariable adapter base oneProcessVariable rfl
      (fun _ _ _ => trivial) fun _ _ _ _ => trivial
  newAdditionalVariable adapter base name value description shown := by
    have steps := AddressSpace.spans_steps server
    simp only [UaAdapter.newAdditionalVariable]
    split
    next => exact shown
    next => exact shown.later rfl (steps.trans (steps.addNode _ trivial _) (steps.addNode _ trivial _))

/-- After any mapping, a path that is enrolled leads to the folder a client comes to when it
walks from the root folder by the names of the path, and so does one that is looked up. -/
theorem enrolled_path_walks (server : UaServer) (csManager : ControlSystemPVManager) (serverConfig : ServerConfig)
    (pvSeparator : Text) (mappingExceptions : Bool) (fuel : Nat) (mapFile : MapFile) (path separator : Text) :
    let adapter := (outcome (Mapping.applyMapping server csManager fuel mapFile)
      (mappedAdapter server csManager serverConfig pvSeparator mappingExceptions mapFile)).2
    let enrolled := adapter.enrollFolderPathFromString server path separator
    (enrolled.1.isNull = false →
      enrolled.2.space.Walk adapter.ownNodeId (parseVariablePath path separator).dropLast enrolled.1) ∧
    ∀ base names, (adapter.existFolderPath base names).isNull = false →
      adapter.space.Walk base names (adapter.existFolderPath base names) := by
  intro adapter enrolled
  have started : KeepsTable _ _ := Mapping.implicitMapping_keeps server csManager
    (({ serverConfig, pvSeparator, mappingExceptions } : UaAdapter).mapSelfToNamespace server) mapFile
  have kept : Keeps KeepsTable (Mapping.applyMapping server csManager fuel mapFile) :=
    Mapping.applyMapping_keeps server csManager fuel mapFile
  have shown : TableShown adapter := kept _ (started
    ⟨fun _ member => absurd member List.not_mem_nil, fun _ member => absurd member List.not_mem_nil⟩)
  exact ⟨(shown.enroll path separator).2, shown.existFolderPath⟩

/-- A path with a folder that is there and one that is new. -/
theorem enrolled_path_walks_partly :
    let adapter := (outcome (Mapping.applyMapping belowServer nestedFolder 1 { folders := [linkedElsewhere] })
      (mappedAdapter belowServer nestedFolder { rootFolder := "r" } "/" false { folders := [linkedElsewhere] })).2
    let enrolled := adapter.enrollFolderPathFromString belowServer "a/t/v" "/"
    enrolled.2.space.Walk adapter.ownNodeId (parseVariablePath "a/t/v" "/").dropLast enrolled.1 ∧
      adapter.space.Walk adapter.ownNodeId ["b", "x"] (adapter.existFolderPath adapter.ownNodeId ["b", "x"]) := by
  have walks := enrolled_path_walks belowServer nestedFolder { rootFolder := "r" } "/" false 1
    { folders := [linkedElsewhere] } "a/t/v" "/"
  exact ⟨walks.1 (by decide +kernel), walks.2 _ _ (by decide +kernel)⟩

end OpcUaAdapter
