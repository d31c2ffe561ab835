import OpcUaAdapter.Library.Acyclic
import OpcUaAdapter.Proofs.AdapterGrowth
import OpcUaAdapter.Proofs.MappingSteps

/-! The graph of the Organizes references while the adapter maps. A server that adds a node
only under a new id and below a node it has cannot close a cycle with it, so every step but
the linking of folders keeps the graph acyclic and leads to no node that was there. -/

namespace OpcUaAdapter

open Effects

/-- An Organizes reference, also one whose source is not there. -/
def AddressSpace.OrganizesReference (space : AddressSpace) (source target : NodeId) : Prop :=
  ⟨source, .organizes, target⟩ ∈ space.references

/-- The server adds a node only under an id that is not in use and below a node it has. -/
def AddsBelow (server : UaServer) : Prop :=
  ∀ space node parent, server.addsNode space node parent = true →
    space.hasNode node.nodeId = false ∧ space.hasNode parent = true

/-- The ids to which Organizes references lead: those of folders, and ids without a slash. -/
def OrganizedId (nodeId : NodeId) : Prop :=
  ∃ text, nodeId = .string text ∧ (("Dir" : Text) <:+ text ∨ '/' ∉ text)

/-- References from nodes that are not there have ids no folder ever gets. -/
structure Ordered (adapter : UaAdapter) : Prop where
  acyclic : Acyclic adapter.space.OrganizesReference
  sources : ∀ source target, adapter.space.OrganizesReference source target →
    adapter.space.hasNode source = true ∨ ¬ OrganizedId source
  targets : ∀ source target, adapter.space.OrganizesReference source target →
    adapter.space.hasNode target = true ∧ OrganizedId target
  table : ∀ i ∈ adapter.folderVector, i.folderNodeId.isNull = false → adapter.space.hasNode i.folderNodeId = true

/-- Nodes and folders stay, and no further Organizes reference leads to a node that was there. -/
structure Extends (before after : UaAdapter) : Prop where
  nodes : ∀ nodeId, before.space.hasNode nodeId = true → after.space.hasNode nodeId = true
  old : ∀ source target, before.space.hasNode target = true → after.space.OrganizesReference source target →
    before.space.OrganizesReference source target
  table : before.folderVector <+: after.folderVector

/-- What all steps do but the linking of folders. -/
def Spreads (before after : UaAdapter) : Prop := Ordered before → Ordered after ∧ Extends before after

theorem Extends.refl (adapter : UaAdapter) : Extends adapter adapter := ⟨fun _ => id, fun _ _ _ => id, List.prefix_rfl⟩

theorem Extends.trans {first second third : UaAdapter} (before : Extends first second) (after : Extends second third) :
    Extends first third :=
  ⟨fun nodeId has => after.nodes nodeId (before.nodes nodeId has),
    fun source target has reference => before.old source target has
      (after.old source target (before.nodes target has) reference),
    before.table.trans after.table⟩

theorem Spreads.refl (adapter : UaAdapter) : Spreads adapter adapter := fun ordered => ⟨ordered, .refl adapter⟩

theorem Spreads.trans {first second third : UaAdapter} (before : Spreads first second) (after : Spreads second third) :
    Spreads first third := by
  intro ordered
  obtain ⟨middle, grown⟩ := before ordered
  obtain ⟨last, more⟩ := after middle
  exact ⟨last, grown.trans more⟩

theorem Spreads.of_same {before after : UaAdapter}
    (nodes : ∀ nodeId, after.space.hasNode nodeId = before.space.hasNode nodeId)
    (references : ∀ source target, after.space.OrganizesReference source target ↔
      before.space.OrganizesReference source target)
    (folders : after.folderVector = before.folderVector) : Spreads before after := by
  intro ordered
  refine ⟨⟨?_, ?_, ?_, ?_⟩, fun nodeId has => (nodes nodeId).trans has, fun source target _ => (references _ _).mp,
    folders ▸ List.prefix_rfl⟩
  · exact ordered.acyclic.mono fun source target => (references source target).mp
  · intro source target reference
    rw [nodes]
    exact ordered.sources source target ((references _ _).mp reference)
  · intro source target reference
    rw [nodes]
    exact ordered.targets source target ((references _ _).mp reference)
  · intro i member
    rw [nodes]
    exact ordered.table i (folders ▸ member)

/-- A walk to a node that was there is a walk from before. -/
theorem Extends.walk {before after : UaAdapter} (grown : Extends before after) (ordered : Ordered before)
    (later : Ordered after) {first last : NodeId} (has : before.space.hasNode last = true)
    (walk : Relation.TransGen after.space.OrganizesReference first last) :
    Relation.TransGen before.space.OrganizesReference first last := by
  induction walk with
  | single reference => exact .single (grown.old _ _ has reference)
  | tail walk reference ih =>
    have step := grown.old _ _ has reference
    rcases ordered.sources _ _ step with there | unreached
    · exact (ih there).tail step
    · obtain ⟨_, _, last_step⟩ := Relation.TransGen.tail'_iff.mp walk
      exact absurd (later.targets _ _ last_step).2 unreached

section Nodes

variable {server : UaServer}

theorem addNode_known (adapter : UaAdapter) (node : UaNode) (parent : NodeId) (referenceType : ReferenceType)
    (typeDefinition : Option NodeId)
    (added : (adapter.addNode server node parent referenceType typeDefinition).1.isNull = false) :
    (adapter.addNode server node parent referenceType typeDefinition).2.space.hasNode
      (adapter.addNode server node parent referenceType typeDefinition).1 = true := by
  simp only [UaAdapter.addNode, AddressSpace.addNode] at added ⊢
  split at added
  next grants => simp [grants, AddressSpace.hasNode_iff]
  next => cases added

theorem addNode_references (adapter : UaAdapter) (node : UaNode) (parent : NodeId) (referenceType : ReferenceType)
    (typeDefinition : Option NodeId) (grants : server.addsNode adapter.space node parent = true) (source target : NodeId) :
    (adapter.addNode server node parent referenceType typeDefinition).2.space.OrganizesReference source target ↔
      adapter.space.OrganizesReference source target ∨
        (source = parent ∧ target = node.nodeId) ∧ referenceType = .organizes := by
  simp only [UaAdapter.addNode, AddressSpace.addNode, if_pos grants, AddressSpace.OrganizesReference,
    List.mem_append, List.mem_cons, UaReference.mk.injEq]
  refine or_congr_right ?_
  cases typeDefinition with
  | none => simp [and_assoc, and_comm, @eq_comm _ referenceType]
  | some type => simp [and_assoc, and_comm, @eq_comm _ referenceType]

theorem addNode_nodes (adapter : UaAdapter) (node : UaNode) (parent : NodeId) (referenceType : ReferenceType)
    (typeDefinition : Option NodeId) (grants : server.addsNode adapter.space node parent = true) (nodeId : NodeId) :
    (adapter.addNode server node parent referenceType typeDefinition).2.space.hasNode nodeId = true ↔
      adapter.space.hasNode nodeId = true ∨ node.nodeId = nodeId := by
  simp [UaAdapter.addNode, AddressSpace.addNode, grants, AddressSpace.hasNode_iff, or_and_right, exists_or]

private theorem addNode_spreads (law : AddsBelow server) (adapter : UaAdapter) (node : UaNode) (parent : NodeId)
    {referenceType : ReferenceType} (organized : referenceType = .organizes → OrganizedId node.nodeId)
    (typeDefinition : Option NodeId) :
    Spreads adapter (adapter.addNode server node parent referenceType typeDefinition).2 := by
  by_cases grants : server.addsNode adapter.space node parent = true
  · intro ordered
    have nodes := addNode_nodes adapter node parent referenceType typeDefinition grants
    have references := addNode_references adapter node parent referenceType typeDefinition grants
    have table : (adapter.addNode server node parent referenceType typeDefinition).2.folderVector =
      adapter.folderVector := rfl
    obtain ⟨unused, parent_known⟩ := law _ _ _ grants
    generalize (adapter.addNode server node parent referenceType typeDefinition).2 = after at *
    -- the new node has no references of its own yet, so none of them leads back to its parent
    have apart : referenceType = .organizes →
        ¬ Relation.ReflTransGen adapter.space.OrganizesReference node.nodeId parent := by
      intro organizes walk
      rcases Relation.ReflTransGen.cases_head walk with same | ⟨child, first, -⟩
      · rw [same, parent_known] at unused
        cases unused
      · rcases ordered.sources _ _ first with known | other
        · rw [known] at unused
          cases unused
        · exact other (organized organizes)
    refine ⟨⟨?_, ?_, ?_, ?_⟩, ⟨fun nodeId has => (nodes nodeId).mpr (.inl has), ?_, table ▸ List.prefix_rfl⟩⟩
    · by_cases organizes : referenceType = .organizes
      · exact (ordered.acyclic.insert (apart organizes)).mono fun source target reference =>
          ((references source target).mp reference).imp_right And.left
      · exact ordered.acyclic.mono fun source target reference =>
          ((references source target).mp reference).resolve_right fun new => organizes new.2
    · intro source target reference
      rcases (references source target).mp reference with old | ⟨⟨rfl, -⟩, -⟩
      · exact (ordered.sources source target old).imp_left fun has => (nodes source).mpr (.inl has)
      · exact .inl ((nodes source).mpr (.inl parent_known))
    · intro source target reference
      rcases (references source target).mp reference with old | ⟨⟨-, rfl⟩, organizes⟩
      · obtain ⟨has, named⟩ := ordered.targets source target old
        exact ⟨(nodes target).mpr (.inl has), named⟩
      · exact ⟨(nodes node.nodeId).mpr (.inr rfl), organized organizes⟩
    · intro i member known
      rw [table] at member
      exact (nodes _).mpr (.inl (ordered.table i member known))
    · intro source target has reference
      refine ((references source target).mp reference).resolve_right ?_
      rintro ⟨⟨-, rfl⟩, -⟩
      rw [has] at unused
      cases unused
  · simp only [UaAdapter.addNode, AddressSpace.addNode, if_neg grants]
    exact .of_same (fun _ => rfl) (fun _ _ => .rfl) rfl

private theorem organizedId_dir (front : Text) : OrganizedId (.string (front ++ "Dir")) :=
  ⟨_, rfl, .inl (List.suffix_append _ _)⟩

private theorem createUAFolder_spreads (law : AddsBelow server) (adapter : UaAdapter) (base : NodeId)
    (folderName description : Text) : Spreads adapter (adapter.createUAFolder server base folderName description).2 := by
  refine addNode_spreads law adapter _ base (fun _ => ?_) _
  cases base with
  | string identifier => exact organizedId_dir _
  | numeric namespaceIndex identifier => exact organizedId_dir ('/' :: intText identifier)

theorem createFolder_spreads (law : AddsBelow server) (adapter : UaAdapter) (base : NodeId)
    (folderName description : Text) : Spreads adapter (adapter.createFolder server base folderName description).2 := by
  unfold UaAdapter.createFolder
  split
  next => exact .refl adapter
  next =>
    split
    next =>
      intro ordered
      obtain ⟨created, grown⟩ := createUAFolder_spreads law adapter base folderName description ordered
      refine ⟨⟨created.acyclic, created.sources, created.targets, fun i member known => ?_⟩, grown.nodes, grown.old,
        grown.table.trans (List.prefix_append _ _)⟩
      rcases List.mem_append.mp member with old | new
      · exact created.table i old known
      · obtain rfl := List.mem_singleton.mp new
        exact addNode_known adapter _ base .organizes (some folderType) known
    next => exact .refl adapter

/-- A folder that is created is a node the server added, and enters the table. -/
theorem createFolder_created {adapter : UaAdapter} {base : NodeId} {folderName : Text}
    (created : (adapter.createFolder server base folderName).1.isNull = false) :
    ∃ node : UaNode, server.addsNode adapter.space node base = true ∧
      (adapter.createFolder server base folderName).1 = node.nodeId ∧
      (adapter.createFolder server base folderName).2.space =
        (adapter.addNode server node base .organizes (some folderType)).2.space ∧
      (adapter.existFolder base folderName).isNull = true ∧
      (adapter.createFolder server base folderName).2.folderVector =
        adapter.folderVector ++ [⟨folderName, node.nodeId, base⟩] := by
  obtain ⟨node, asks⟩ : ∃ node, adapter.createUAFolder server base folderName [] =
      adapter.addNode server node base .organizes (some folderType) := ⟨_, rfl⟩
  unfold UaAdapter.createFolder at created ⊢
  rw [asks] at created ⊢
  split at created
  next => cases created
  next known =>
    rw [if_neg known]
    split at created
    next absent =>
      rw [if_pos absent]
      have grants : server.addsNode adapter.space node base = true := by
        by_contra refused
        simp only [UaAdapter.addNode, AddressSpace.addNode, if_neg refused] at created
        cases created
      have added : (adapter.addNode server node base .organizes (some folderType)).1 = node.nodeId := by
        simp only [UaAdapter.addNode, AddressSpace.addNode, if_pos grants]
      exact ⟨node, grants, added, rfl, absent, by rw [← added]; rfl⟩
    next => cases created

private theorem createFolders_spreads (law : AddsBelow server) (adapter : UaAdapter) (base : NodeId) (path : List Text) :
    Spreads adapter (adapter.createFolders server base path).2 := by
  induction path generalizing adapter base with
  | nil => exact .refl adapter
  | cons folder path ih => exact (createFolder_spreads law adapter base folder []).trans (ih _ _)

theorem enroll_spreads (law : AddsBelow server) (adapter : UaAdapter) (path separator : Text) :
    Spreads adapter (adapter.enrollFolderPathFromString server path separator).2 := by
  simp only [UaAdapter.enrollFolderPathFromString]
  generalize (if separator.isEmpty then [] else parseVariablePath path separator) = varPathVector
  split
  next => exact .refl adapter
  next =>
    unfold UaAdapter.createFolderPath
    split
    next => exact .refl adapter
    next =>
      split
      next => exact createFolders_spreads law adapter _ _
      next => exact .refl adapter

private theorem not_organizes {nodeId : NodeId} : ReferenceType.hasComponent = .organizes → OrganizedId nodeId := by
  rintro ⟨⟩

private theorem addPVChildNodes_spreads (law : AddsBelow server) (adapter : UaAdapter) (pvNodeId : NodeId)
    (pvNodePath namePV : Text) (children : List Text) :
    Spreads adapter (adapter.addPVChildNodes server pvNodeId pvNodePath namePV children) := by
  induction children generalizing adapter with
  | nil => exact .refl adapter
  | cons child children ih =>
    have added := addNode_spreads law adapter (pvChildNode pvNodePath namePV child) pvNodeId not_organizes
      (some baseDataVariableType)
    simp only [UaAdapter.addPVChildNodes]
    split
    next => exact added
    next => exact added.trans (ih _)

private theorem newProcessVariable_spreads (law : AddsBelow server) (adapter : UaAdapter) (base : NodeId)
    (oneProcessVariable : ProcessVariable) (namePV overwriteNodeString : Text) :
    Spreads adapter (adapter.newProcessVariable server base oneProcessVariable namePV overwriteNodeString).2 := by
  simp only [UaAdapter.newProcessVariable]
  generalize (if overwriteNodeString.isEmpty then namePV else overwriteNodeString) = nameNew
  split
  next => exact .refl adapter
  next =>
    split
    next => exact addNode_spreads law adapter _ base not_organizes none
    next =>
      simp only [UaAdapter.mapVariable]
      split
      next => exact .of_same (fun _ => rfl) (fun _ _ => .rfl) rfl
      next =>
        exact (addNode_spreads law adapter _ base not_organizes _).trans (addPVChildNodes_spreads law _ _ _ _ _)

private theorem newAdditionalVariable_spreads (law : AddsBelow server) (adapter : UaAdapter) (base : NodeId)
    (name value description : Text) :
    Spreads adapter (adapter.newAdditionalVariable server base name value description).2 := by
  simp only [UaAdapter.newAdditionalVariable]
  split
  next => exact .refl adapter
  next =>
    exact (addNode_spreads law adapter _ base not_organizes _).trans (addNode_spreads law _ _ _ not_organizes _)

private theorem writeDisplayName_spreads (adapter : UaAdapter) (nodeId : NodeId) (displayName : Text) :
    Spreads adapter { adapter with space := adapter.space.writeDisplayName nodeId displayName } :=
  .of_same (AddressSpace.hasNode_writeDisplayName _ _ · _) (fun _ _ => .rfl) rfl

instance : LocalSteps Spreads where
  refl := .refl
  trans _ _ _ := .trans
  aside same := .of_same (fun _ => by rw [same.space]) (fun _ _ => by rw [same.space]) same.folders
  writeDescription _ _ _ := .of_same (AddressSpace.hasNode_writeDescription _ _ · _) (fun _ _ => .rfl) rfl
  writeDisplayName := writeDisplayName_spreads

instance : FaultSteps Spreads where
  fault _ _ := .of_same (fun _ => rfl) (fun _ _ => .rfl) rfl

instance : AdditionalSteps Spreads where
  enter _ _ := .of_same (fun _ => rfl) (fun _ _ => .rfl) rfl

theorem addComponent_spreads (adapter : UaAdapter) (source target : NodeId) :
    Spreads adapter { adapter with space := adapter.space.addReference server ⟨source, .hasComponent, target⟩ } := by
  unfold AddressSpace.addReference
  split
  next => exact .of_same (fun _ => rfl) (fun _ _ => by simp [AddressSpace.OrganizesReference]) rfl
  next => exact .refl adapter

theorem serverSteps_spreads (law : AddsBelow server) : ServerSteps server Spreads where
  addComponent := addComponent_spreads
  createFolder adapter base folderName := createFolder_spreads law adapter base folderName []
  enroll := enroll_spreads law
  newProcessVariable := newProcessVariable_spreads law
  newAdditionalVariable := newAdditionalVariable_spreads law

private theorem implicitVarMapping_spreads (law : AddsBelow server) (adapter : UaAdapter) (oneProcessVariable : ProcessVariable) :
    Spreads adapter (adapter.implicitVarMapping server oneProcessVariable) := by
  simp only [UaAdapter.implicitVarMapping]
  generalize (parseVariablePath oneProcessVariable.name adapter.pvSeparator).getLast?.getD [] = last
  have enrolled := enroll_spreads law adapter oneProcessVariable.name adapter.pvSeparator
  have entered (created : UaProcessVariable × UaAdapter) : Spreads created.2 (UaAdapter.enterVariable created last) :=
    .of_same (fun _ => AddressSpace.hasNode_update fun _ => rfl) (fun _ _ => .rfl) rfl
  split
  next => exact enrolled.trans ((newProcessVariable_spreads law _ _ _ _ _).trans (entered _))
  next => exact enrolled.trans ((newProcessVariable_spreads law _ _ _ _ _).trans (entered _))

theorem implicitMapping_spreads (law : AddsBelow server) (adapter : UaAdapter) (csManager : ControlSystemPVManager)
    (mapFile : MapFile) : Spreads adapter (adapter.implicitMapping server csManager mapFile) := by
  unfold UaAdapter.implicitMapping
  generalize List.filterMap _ _ = processVariables
  induction processVariables generalizing adapter with
  | nil => exact .refl adapter
  | cons pv processVariables ih => exact (implicitVarMapping_spreads law adapter pv).trans (ih _)

theorem mapSelfToNamespace_spreads (law : AddsBelow server) (adapter : UaAdapter) :
    Spreads adapter (adapter.mapSelfToNamespace server) := by
  have named {text : Text} (plain : '/' ∉ text) : OrganizedId (.string text) := ⟨text, rfl, .inr plain⟩
  unfold UaAdapter.mapSelfToNamespace
  extract_lets config root configNode logLevel
  have first : Spreads adapter root.2 := addNode_spreads law _ _ _ (fun _ => organizedId_dir config.rootFolder) _
  have second : Spreads root.2 configNode.2 := addNode_spreads law _ _ _ (fun _ => named (by decide)) _
  have third : Spreads configNode.2 logLevel.2 := addNode_spreads law _ _ _ (fun _ => named (by decide)) _
  exact first.trans (second.trans (third.trans (.of_same (fun _ => rfl) (fun _ _ => .rfl) rfl)))

theorem ordered_initial {adapter : UaAdapter} (empty : adapter.space.references = []) (folders : adapter.folderVector = []) :
    Ordered adapter := by
  have none (source target : NodeId) : ¬ adapter.space.OrganizesReference source target := by
    simp [AddressSpace.OrganizesReference, empty]
  refine ⟨fun a cycle => ?_, fun _ _ reference => absurd reference (none _ _),
    fun _ _ reference => absurd reference (none _ _), by simp [folders]⟩
  obtain ⟨_, first, -⟩ := Relation.TransGen.head'_iff.mp cycle
  exact none _ _ first

end Nodes

end OpcUaAdapter
