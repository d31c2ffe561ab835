import OpcUaAdapter.Proofs.CopiedNames
import OpcUaAdapter.Proofs.FolderNodes

/-! What the copy of a folder adds to the address space: a node for each variable and folder
of the source, while their ids are new. The copies are described by the tree of the source
alone, and the recursion of the adapter is shown to add just these. -/

namespace OpcUaAdapter

open Effects

instance : Append AddressSpace where
  append first second :=
    { nodes := first.nodes ++ second.nodes, references := first.references ++ second.references }

namespace AddressSpace

variable (first second third : AddressSpace)

@[simp] theorem nodes_append : (first ++ second).nodes = first.nodes ++ second.nodes := rfl

@[simp] theorem references_append : (first ++ second).references = first.references ++ second.references := rfl

theorem append_assoc : first ++ second ++ third = first ++ (second ++ third) := by
  change AddressSpace.mk _ _ = AddressSpace.mk _ _
  simp only [nodes_append, references_append, List.append_assoc]

@[simp] theorem append_empty : first ++ ({} : AddressSpace) = first := by
  change AddressSpace.mk _ _ = first
  simp only [List.append_nil]

theorem find?_append (nodeId : NodeId) : (first ++ second).find? nodeId = (first.find? nodeId).or (second.find? nodeId) :=
  List.find?_append

theorem hasNode_append (nodeId : NodeId) :
    (first ++ second).hasNode nodeId = (first.hasNode nodeId || second.hasNode nodeId) := by
  unfold hasNode
  rw [find?_append, Option.isSome_or]

variable {first second}

private theorem find?_kept {nodeId : NodeId} (known : first.hasNode nodeId = true) :
    (first ++ second).find? nodeId = first.find? nodeId := by
  obtain ⟨node, found⟩ := Option.isSome_iff_exists.mp known
  rw [find?_append, found, Option.some_or]

theorem hasNode_kept {nodeId : NodeId} (known : first.hasNode nodeId = true) :
    (first ++ second).hasNode nodeId = true := by
  rw [hasNode_append, known, Bool.true_or]

private theorem writeDescription_append (nodeId : NodeId) (description : Text) :
    (first ++ second).writeDescription nodeId description =
      first.writeDescription nodeId description ++ second.writeDescription nodeId description := by
  change AddressSpace.mk _ _ = AddressSpace.mk _ _
  simp only [nodes_append, List.map_append]
  rfl

private theorem writeDescription_unused {nodeId : NodeId} (unused : first.hasNode nodeId = false) (description : Text) :
    first.writeDescription nodeId description = first := by
  have other : ∀ node ∈ first.nodes, node.nodeId ≠ nodeId := by
    intro node member same
    rw [hasNode_iff.mpr ⟨node, member, same⟩] at unused
    cases unused
  have nodes : (first.nodes.map fun node => if node.nodeId = nodeId then { node with description } else node) =
      first.nodes := by
    refine (List.map_congr_left fun node member => ?_).trans (List.map_id _)
    exact if_neg (other node member)
  exact congrArg (fun nodes => { first with nodes }) nodes

/-- The references up and down the hierarchy that the space has lead to nodes of it. -/
def Closed (space : AddressSpace) : Prop :=
  ∀ reference ∈ space.references, reference.referenceType = .hasComponent ∨ reference.referenceType = .organizes →
    space.hasNode reference.target = true

/-- More references do not matter for a browse that none of them starts from. -/
theorem browseForward_kept (closed : first.Closed) {source : NodeId} {referenceType : ReferenceType}
    (hierarchical : referenceType = .hasComponent ∨ referenceType = .organizes) (nodeClasses : List NodeClass)
    (apart : ∀ reference ∈ second.references, reference.source ≠ source) :
    (first ++ second).browseForward source referenceType nodeClasses =
      first.browseForward source referenceType nodeClasses := by
  have none_added : (second.references.filter fun reference =>
      reference.source = source && reference.referenceType = referenceType) = [] := by
    rw [List.filter_eq_nil_iff]
    intro reference member both
    exact apart reference member (of_decide_eq_true (Bool.and_eq_true_iff.mp both).1)
  unfold browseForward
  rw [references_append, List.filter_append, none_added, List.append_nil]
  apply List.filterMap_congr
  intro reference member
  obtain ⟨stored, both⟩ := List.mem_filter.mp member
  have type : reference.referenceType = referenceType := of_decide_eq_true (Bool.and_eq_true_iff.mp both).2
  rw [find?_kept (closed reference stored (type ▸ hierarchical))]

end AddressSpace

def joined : List AddressSpace → AddressSpace
  | [] => {}
  | part :: parts => part ++ joined parts

def addition (node : UaNode) (parent : NodeId) (referenceType : ReferenceType) (typeDefinition : Option NodeId) :
    AddressSpace where
  nodes := [node]
  references := ⟨parent, referenceType, node.nodeId⟩ ::
    (typeDefinition.map fun target => ⟨node.nodeId, .hasTypeDefinition, target⟩).toList

/-- There is room for nodes below a node: it is there, and their ids are new. -/
structure Room (space : AddressSpace) (parent : NodeId) (added : AddressSpace) : Prop where
  known : space.hasNode parent = true
  unused : ∀ node ∈ added.nodes, space.hasNode node.nodeId = false
  distinct : (added.nodes.map (·.nodeId)).Nodup

section Rooms

variable {space before after : AddressSpace} {parent : NodeId}

theorem Room.first (room : Room space parent (before ++ after)) : Room space parent before where
  known := room.known
  unused node member := room.unused node (List.mem_append_left _ member)
  distinct := by
    have distinct := room.distinct
    rw [AddressSpace.nodes_append, List.map_append] at distinct
    exact distinct.of_append_left

theorem Room.rest (room : Room space parent (before ++ after)) : Room (space ++ before) parent after where
  known := AddressSpace.hasNode_kept room.known
  unused node member := by
    have distinct := room.distinct
    rw [AddressSpace.nodes_append, List.map_append] at distinct
    rw [AddressSpace.hasNode_append, room.unused node (List.mem_append_right _ member), Bool.false_or,
      ← Bool.not_eq_true, AddressSpace.hasNode_iff]
    rintro ⟨other, there, same⟩
    refine List.disjoint_of_nodup_append distinct (List.mem_map_of_mem there) ?_
    exact same ▸ List.mem_map_of_mem member
  distinct := by
    have distinct := room.distinct
    rw [AddressSpace.nodes_append, List.map_append] at distinct
    exact distinct.of_append_right

theorem Room.below {node : UaNode} {referenceType : ReferenceType} {typeDefinition : Option NodeId}
    (room : Room space parent (addition node parent referenceType typeDefinition ++ after)) :
    Room (space ++ addition node parent referenceType typeDefinition) node.nodeId after := by
  refine ⟨?_, room.rest.unused, room.rest.distinct⟩
  rw [AddressSpace.hasNode_append]
  simp [addition, AddressSpace.hasNode, AddressSpace.find?]

end Rooms

/-- A folder of the source, with what it has and the folders below it. -/
inductive SourceFolder where
  | folder (node : UaNode) (components : List UaNode) (folders : List SourceFolder)

namespace SourceFolder

def node : SourceFolder → UaNode
  | .folder node _ _ => node

def components : SourceFolder → List UaNode
  | .folder _ components _ => components

def folders : SourceFolder → List SourceFolder
  | .folder _ _ folders => folders

@[elab_as_elim]
theorem induction {motive : SourceFolder → Prop}
    (folder : ∀ node components folders, (∀ sub ∈ folders, motive sub) → motive (.folder node components folders))
    (tree : SourceFolder) : motive tree :=
  @SourceFolder.rec motive (fun folders => ∀ sub ∈ folders, motive sub) folder
    (fun _ member => absurd member List.not_mem_nil)
    (fun _ _ first rest => List.forall_mem_cons.mpr ⟨first, rest⟩) tree

mutual

/-- How often the recursion of a copy goes down, with the call for the folder itself. -/
def depth : SourceFolder → Nat
  | .folder _ _ folders => depths folders + 1

def depths : List SourceFolder → Nat
  | [] => 0
  | sub :: rest => max sub.depth (depths rest)

end

mutual

def hasMethod : SourceFolder → Bool
  | .folder _ components folders => (components.any fun rd => rd.nodeClass = .method) || anyMethod folders

def anyMethod : List SourceFolder → Bool
  | [] => false
  | sub :: rest => sub.hasMethod || anyMethod rest

end

theorem anyMethod_eq (folders : List SourceFolder) : anyMethod folders = (folders.map hasMethod).any id := by
  induction folders with
  | nil => rfl
  | cons sub rest ih =>
    rw [anyMethod, ih]
    rfl

/-- Each folder of the tree is as described. -/
inductive Every (fine : SourceFolder → Prop) : SourceFolder → Prop where
  | folder {node components folders} (here : fine (.folder node components folders))
      (below : ∀ sub ∈ folders, Every fine sub) : Every fine (.folder node components folders)

theorem Every.here {fine : SourceFolder → Prop} {tree : SourceFolder} (every : Every fine tree) : fine tree := by
  cases every with
  | folder here _ => exact here

theorem Every.mono {fine other : SourceFolder → Prop} (implies : ∀ folder, fine folder → other folder)
    {tree : SourceFolder} (every : Every fine tree) : Every other tree := by
  induction every with
  | folder here _ ih => exact .folder (implies _ here) ih

end SourceFolder

def dirId (path : Text) : NodeId := .string (path ++ "Dir")

def pvChildren (pvNodePath namePV : Text) (children : List Text) : AddressSpace :=
  joined (children.map fun child =>
    addition (pvChildNode pvNodePath namePV child) (.string pvNodePath) .hasComponent (some baseDataVariableType))

def newFolder (path name description : Text) : UaNode where
  nodeId := dirId (path ++ '/' :: name)
  nodeClass := .object
  browseName := name
  displayName := name
  description := description

def folderAddition (path name description : Text) : AddressSpace :=
  addition (newFolder path name description) (dirId path) .organizes (some folderType)

theorem Room.folder {space : AddressSpace} {path name : Text} (known : space.hasNode (dirId path) = true)
    (new : space.hasNode (dirId (path ++ '/' :: name)) = false) (description : Text) :
    Room space (dirId path) (folderAddition path name description) where
  known := known
  unused _ member := List.mem_singleton.mp member ▸ new
  distinct := List.nodup_singleton _

section Copies

-- the names of the process variables behind the variables of the source
variable (csManager : ControlSystemPVManager) (sourceName : UaNode → Text)

def variableCopyNode (path : Text) (rd : UaNode) : UaNode where
  nodeId := .string (path ++ '/' :: rd.displayName)
  nodeClass := .variable
  browseName := rd.displayName
  displayName := rd.displayName
  description := ((csManager.getProcessVariable (sourceName rd)).map (·.description)).getD []

def variableCopy (path : Text) (rd : UaNode) : AddressSpace :=
  addition (variableCopyNode csManager sourceName path rd) (dirId path) .hasComponent (some ctkVariable) ++
    pvChildren (path ++ '/' :: rd.displayName) (sourceName rd) pvChildNames

def componentCopies (path : Text) (components : List UaNode) : AddressSpace :=
  joined ((components.filter (·.nodeClass = .variable)).map (variableCopy csManager sourceName path))

mutual

/-- What is added below the copy of a folder. -/
def copies : Text → SourceFolder → AddressSpace
  | path, .folder _ components folders => componentCopies csManager sourceName path components ++ folderCopies path folders

def folderCopies : Text → List SourceFolder → AddressSpace
  | _, [] => {}
  | path, sub :: rest =>
    (folderAddition path sub.node.displayName sub.node.description ++
      copies (path ++ '/' :: sub.node.displayName) sub) ++ folderCopies path rest

end

end Copies

/-- The name of the process variable that is stored below a node. -/
def AddressSpace.sourceName (space : AddressSpace) : NodeId → Option Text
  | .string identifier => (space.find? (.string (identifier ++ "/Name"))).bind (·.value)
  | .numeric _ _ => none

/-- The nodes of the folders in the table are there. -/
def FolderIdsKnown (adapter : UaAdapter) : Prop :=
  ∀ i ∈ adapter.folderVector, ∀ path, i.prevFolderNodeId = dirId path →
    adapter.space.hasNode (dirId (path ++ '/' :: i.folderName)) = true

/-- The adapter has added this to the address space, and folders to its table. -/
structure Adds (added : AddressSpace) (before after : UaAdapter) : Prop where
  space : after.space = before.space ++ added
  config : after.serverConfig = before.serverConfig
  folders : before.folderVector <+: after.folderVector
  ids : FolderIdsKnown before → FolderIdsKnown after

theorem Adds.trans {first second : AddressSpace} {before middle after : UaAdapter} (here : Adds first before middle)
    (there : Adds second middle after) : Adds (first ++ second) before after where
  space := by rw [there.space, here.space, AddressSpace.append_assoc]
  config := there.config.trans here.config
  folders := here.folders.trans there.folders
  ids known := there.ids (here.ids known)

/-- Nodes are added, and no folder. -/
theorem Adds.of_same {added : AddressSpace} {before after : UaAdapter} (space : after.space = before.space ++ added)
    (config : after.serverConfig = before.serverConfig) (folders : after.folderVector = before.folderVector) :
    Adds added before after where
  space := space
  config := config
  folders := folders ▸ List.prefix_rfl
  ids known i member path same := by
    rw [space]
    exact AddressSpace.hasNode_kept (known i (folders ▸ member) path same)

/-- The source of a copy is a variable whose process variable the manager knows. -/
structure Copyable (csManager : ControlSystemPVManager) (sourceName : UaNode → Text) (adapter : UaAdapter) (rd : UaNode) :
    Prop where
  shows : parseVariablePath rd.displayName "/" ≠ []
  name : adapter.space.sourceName rd.nodeId = some (sourceName rd)
  known : ∃ oneProcessVariable, csManager.getProcessVariable (sourceName rd) = some oneProcessVariable ∧
    adapter.usesMethod oneProcessVariable = false

theorem AddressSpace.sourceName_kept {first second : AddressSpace} {nodeId : NodeId} {name : Text}
    (stored : first.sourceName nodeId = some name) : (first ++ second).sourceName nodeId = some name := by
  cases nodeId with
  | string identifier =>
    obtain ⟨node, found, value⟩ := Option.bind_eq_some_iff.mp stored
    refine Option.bind_eq_some_iff.mpr ⟨node, ?_, value⟩
    rw [AddressSpace.find?_append, found, Option.some_or]
  | numeric _ _ => cases stored

theorem Copyable.later {csManager : ControlSystemPVManager} {sourceName : UaNode → Text} {before after : UaAdapter}
    {rd : UaNode} (copyable : Copyable csManager sourceName before rd) {added : AddressSpace}
    (adds : Adds added before after) : Copyable csManager sourceName after rd where
  shows := copyable.shows
  name := adds.space ▸ AddressSpace.sourceName_kept copyable.name
  known := by
    obtain ⟨oneProcessVariable, found, plain⟩ := copyable.known
    refine ⟨oneProcessVariable, found, ?_⟩
    rw [UaAdapter.usesMethod, adds.config]
    exact plain

/-- What is added below a node refers to it and to itself only. -/
structure Hangs (parent : NodeId) (added : AddressSpace) : Prop where
  sources : ∀ reference ∈ added.references, reference.source = parent ∨ added.hasNode reference.source = true
  targets : added.Closed

section Hanging

variable {first second : AddressSpace} {parent : NodeId}

theorem Hangs.empty : Hangs parent {} :=
  ⟨fun _ member => absurd member List.not_mem_nil, fun _ member => absurd member List.not_mem_nil⟩

theorem Hangs.append (here : Hangs parent first) (there : Hangs parent second) : Hangs parent (first ++ second) := by
  have known {nodeId : NodeId} (either : first.hasNode nodeId = true ∨ second.hasNode nodeId = true) :
      (first ++ second).hasNode nodeId = true := by rwa [AddressSpace.hasNode_append, Bool.or_eq_true]
  refine ⟨fun reference member => ?_, fun reference member hierarchical => ?_⟩
  · rcases List.mem_append.mp member with old | new
    · exact (here.sources reference old).imp_right fun inside => known (.inl inside)
    · exact (there.sources reference new).imp_right fun inside => known (.inr inside)
  · rcases List.mem_append.mp member with old | new
    · exact known (.inl (here.targets reference old hierarchical))
    · exact known (.inr (there.targets reference new hierarchical))

theorem Hangs.joined {parts : List AddressSpace} (each : ∀ part ∈ parts, Hangs parent part) :
    Hangs parent (joined parts) := by
  induction parts with
  | nil => exact .empty
  | cons part parts ih =>
    obtain ⟨here, there⟩ := List.forall_mem_cons.mp each
    exact here.append (ih there)

/-- A node and what is added below it. -/
theorem Hangs.addition {node : UaNode} (below : Hangs node.nodeId second) (referenceType : ReferenceType)
    (typeDefinition : Option NodeId) : Hangs parent (addition node parent referenceType typeDefinition ++ second) := by
  have itself : (OpcUaAdapter.addition node parent referenceType typeDefinition ++ second).hasNode node.nodeId = true :=
    AddressSpace.hasNode_iff.mpr ⟨node, List.mem_append_left _ (List.mem_singleton_self _), rfl⟩
  have known {nodeId : NodeId} (there : second.hasNode nodeId = true) :
      (OpcUaAdapter.addition node parent referenceType typeDefinition ++ second).hasNode nodeId = true := by
    rw [AddressSpace.hasNode_append, there, Bool.or_true]
  refine ⟨fun reference member => ?_, fun reference member hierarchical => ?_⟩
  · rcases List.mem_append.mp member with own | more
    · rcases List.mem_cons.mp own with rfl | typed
      · exact .inl rfl
      · obtain ⟨type, -, rfl⟩ := Option.map_eq_some_iff.mp (Option.mem_toList.mp typed)
        exact .inr itself
    · rcases below.sources reference more with same | inside
      · exact .inr (same ▸ itself)
      · exact .inr (known inside)
  · rcases List.mem_append.mp member with own | more
    · rcases List.mem_cons.mp own with rfl | typed
      · exact itself
      · obtain ⟨type, -, rfl⟩ := Option.map_eq_some_iff.mp (Option.mem_toList.mp typed)
        simp at hierarchical
    · exact known (below.targets reference more hierarchical)

theorem Hangs.closed {space : AddressSpace} (hangs : Hangs parent second) (closed : space.Closed) :
    (space ++ second).Closed := by
  intro reference member hierarchical
  rw [AddressSpace.hasNode_append, Bool.or_eq_true]
  rcases List.mem_append.mp member with old | new
  · exact .inl (closed reference old hierarchical)
  · exact .inr (hangs.targets reference new hierarchical)

variable (csManager : ControlSystemPVManager) (sourceName : UaNode → Text)

omit csManager sourceName in
theorem Hangs.single (node : UaNode) (referenceType : ReferenceType) (typeDefinition : Option NodeId) :
    Hangs parent (OpcUaAdapter.addition node parent referenceType typeDefinition) := by
  rw [← AddressSpace.append_empty (OpcUaAdapter.addition _ _ _ _)]
  exact Hangs.empty.addition _ _

omit csManager sourceName in
theorem pvChildren_hang (pvNodePath namePV : Text) (children : List Text) :
    Hangs (.string pvNodePath) (pvChildren pvNodePath namePV children) := by
  refine Hangs.joined fun part member => ?_
  obtain ⟨child, -, rfl⟩ := List.mem_map.mp member
  exact Hangs.single _ _ _

private theorem variableCopy_hangs (path : Text) (rd : UaNode) :
    Hangs (dirId path) (variableCopy csManager sourceName path rd) := (pvChildren_hang _ _ _).addition _ _

theorem componentCopies_hang (path : Text) (components : List UaNode) :
    Hangs (dirId path) (componentCopies csManager sourceName path components) := by
  refine Hangs.joined fun part member => ?_
  obtain ⟨rd, -, rfl⟩ := List.mem_map.mp member
  exact variableCopy_hangs csManager sourceName path rd

private theorem folderCopies_hang_of {folders : List SourceFolder} (path : Text)
    (each : ∀ sub ∈ folders, ∀ path, Hangs (dirId path) (copies csManager sourceName path sub)) :
    Hangs (dirId path) (folderCopies csManager sourceName path folders) := by
  induction folders with
  | nil =>
    rw [folderCopies]
    exact .empty
  | cons sub rest ih =>
    obtain ⟨here, there⟩ := List.forall_mem_cons.mp each
    rw [folderCopies]
    exact ((here _).addition _ _).append (ih there)

theorem copies_hang (tree : SourceFolder) (path : Text) : Hangs (dirId path) (copies csManager sourceName path tree) := by
  induction tree using SourceFolder.induction generalizing path with
  | folder node components folders ih =>
    rw [copies]
    exact (componentCopies_hang csManager sourceName path components).append
      (folderCopies_hang_of csManager sourceName path ih)

theorem folderCopies_hang (folders : List SourceFolder) (path : Text) :
    Hangs (dirId path) (folderCopies csManager sourceName path folders) :=
  folderCopies_hang_of csManager sourceName path fun sub _ => copies_hang csManager sourceName sub

end Hanging

/-- A folder of the source as the adapter finds it. -/
structure Shown (csManager : ControlSystemPVManager) (sourceName : UaNode → Text) (adapter : UaAdapter)
    (folder : SourceFolder) : Prop where
  there : adapter.space.find? folder.node.nodeId = some folder.node
  components : adapter.space.browseForward folder.node.nodeId .hasComponent [.variable, .method] = folder.components
  folders : adapter.space.browseForward folder.node.nodeId .organizes [.object] = folder.folders.map SourceFolder.node
  copyable : ∀ rd ∈ folder.components, rd.nodeClass = .variable → Copyable csManager sourceName adapter rd

section Showing

variable {csManager : ControlSystemPVManager} {sourceName : UaNode → Text} {before after : UaAdapter}
  {folder : SourceFolder}

theorem Shown.known (shown : Shown csManager sourceName before folder) :
    before.space.hasNode folder.node.nodeId = true := by
  rw [AddressSpace.hasNode, shown.there]
  rfl

/-- What is added below another folder does not show in a folder of the source. -/
theorem Shown.later (shown : Shown csManager sourceName before folder) (closed : before.space.Closed) {parent : NodeId}
    (apart : folder.node.nodeId ≠ parent) {added : AddressSpace} (hangs : Hangs parent added)
    (unused : ∀ node ∈ added.nodes, before.space.hasNode node.nodeId = false) (adds : Adds added before after) :
    Shown csManager sourceName after folder := by
  have elsewhere : ∀ reference ∈ added.references, reference.source ≠ folder.node.nodeId := by
    intro reference member same
    rcases hangs.sources reference member with below | inside
    · exact apart (same.symm.trans below)
    · obtain ⟨node, new, named⟩ := AddressSpace.hasNode_iff.mp inside
      have known := shown.known
      rw [← same, ← named, unused node new] at known
      cases known
  refine ⟨?_, ?_, ?_, fun rd member class_ => (shown.copyable rd member class_).later adds⟩
  · rw [adds.space, AddressSpace.find?_kept shown.known]
    exact shown.there
  · rw [adds.space, AddressSpace.browseForward_kept closed (.inl rfl) _ elsewhere]
    exact shown.components
  · rw [adds.space, AddressSpace.browseForward_kept closed (.inr rfl) _ elsewhere]
    exact shown.folders

end Showing

/-- A copy can be made: the tree is shown, the folder for the copy is not in it, and there is
room for all that is to be added. -/
structure Ready (csManager : ControlSystemPVManager) (sourceName : UaNode → Text) (adapter : UaAdapter)
    (tree : SourceFolder) (path : Text) : Prop where
  shown : tree.Every (Shown csManager sourceName adapter)
  apart : tree.Every fun folder => folder.node.nodeId ≠ dirId path
  closed : adapter.space.Closed
  ids : FolderIdsKnown adapter
  room : Room adapter.space (dirId path) (copies csManager sourceName path tree)

namespace Mapping

section Steps

variable {server : UaServer} (law : AddsNewBelow server) {adapter : UaAdapter}

include law

theorem addNode_room {node : UaNode} {parent : NodeId} {referenceType : ReferenceType} {typeDefinition : Option NodeId}
    (room : Room adapter.space parent (addition node parent referenceType typeDefinition)) :
    adapter.addNode server node parent referenceType typeDefinition =
      (node.nodeId, { adapter with
        space := adapter.space ++ addition node parent referenceType typeDefinition
        requested := adapter.requested ++ [node.nodeId] }) := by
  have grants : server.addsNode adapter.space node parent = true := by
    rw [law, room.known, room.unused node (List.mem_singleton_self _)]
    rfl
  simp only [UaAdapter.addNode, AddressSpace.addNode, if_pos grants]
  rfl

private theorem addPVChildNodes_room {pvNodePath namePV : Text} {children : List Text}
    (room : Room adapter.space (.string pvNodePath) (pvChildren pvNodePath namePV children)) :
    (adapter.addPVChildNodes server (.string pvNodePath) pvNodePath namePV children).space =
      adapter.space ++ pvChildren pvNodePath namePV children := by
  induction children generalizing adapter with
  | nil => exact (AddressSpace.append_empty _).symm
  | cons child children ih =>
    unfold UaAdapter.addPVChildNodes
    rw [addNode_room law room.first]
    dsimp only
    rw [if_neg (by rintro ⟨⟩)]
    rw [ih room.rest, AddressSpace.append_assoc]
    rfl

variable {csManager : ControlSystemPVManager} {sourceName : UaNode → Text} {path : Text}

private theorem newProcessVariable_room {rd : UaNode} (copyable : Copyable csManager sourceName adapter rd)
    {oneProcessVariable : ProcessVariable} (found : csManager.getProcessVariable (sourceName rd) = some oneProcessVariable)
    (room : Room adapter.space (dirId path) (variableCopy csManager sourceName path rd)) :
    Adds (variableCopy csManager sourceName path rd) adapter
      (adapter.newProcessVariable server (dirId path) oneProcessVariable (sourceName rd) rd.displayName).2 := by
  have grown := adapter.newProcessVariable_grows server (dirId path) oneProcessVariable (sourceName rd) rd.displayName
  have tables := adapter.newProcessVariable_tables server (dirId path) oneProcessVariable (sourceName rd) rd.displayName
  refine .of_same ?_ grown.config tables.1
  have named : rd.displayName.isEmpty = false :=
    List.isEmpty_eq_false_iff.mpr fun empty => copyable.shows (by rw [empty]; rfl)
  have plain : adapter.usesMethod oneProcessVariable = false := by
    obtain ⟨other, same, plain⟩ := copyable.known
    rw [found] at same
    rwa [Option.some.inj same]
  have filled : (dirId path).isNull = false := rfl
  have place : (dirId path).baseName = path := cutDir_append path
  have new : adapter.space.hasDataType (.string (path ++ '/' :: rd.displayName)) = false := by
    rw [← Bool.not_eq_true]
    intro typed
    have unused := room.unused (variableCopyNode csManager sourceName path rd) (List.mem_append_left _ (List.mem_singleton_self _))
    exact absurd (unused.symm.trans (AddressSpace.hasNode_of_hasDataType typed)) Bool.false_ne_true
  have description : ((csManager.getProcessVariable (sourceName rd)).map (·.description)).getD [] =
      oneProcessVariable.description := by
    rw [found]
    rfl
  have added := addNode_room law room.first
  simp only [variableCopyNode, description] at added
  simp only [UaAdapter.newProcessVariable, named, filled, plain, Bool.false_eq_true, if_false, UaAdapter.mapVariable, place,
    new, added]
  refine (addPVChildNodes_room law ?_).trans ?_
  · have inner := room.below
    simp only [variableCopyNode, description] at inner
    exact inner
  · rw [AddressSpace.append_assoc, variableCopy]
    simp only [variableCopyNode, description]

private theorem copyComponent_room {rd : UaNode} (variable_ : rd.nodeClass = .variable)
    (copyable : Copyable csManager sourceName adapter rd)
    (room : Room adapter.space (dirId path) (variableCopy csManager sourceName path rd)) :
    ∃ after, outcome (copyComponent server csManager (dirId path) rd) adapter = (.ok (), after) ∧
      Adds (variableCopy csManager sourceName path rd) adapter after := by
  obtain ⟨oneProcessVariable, found, -⟩ := copyable.known
  have read : outcome (readSourceName rd.nodeId) adapter = (.ok (sourceName rd), adapter) := by
    have name := copyable.name
    unfold readSourceName
    rw [outcome_bind_ok (outcome_get adapter)]
    cases same : rd.nodeId with
    | string identifier =>
      rw [same, AddressSpace.sourceName] at name
      dsimp only
      rw [name]
      rfl
    | numeric namespaceIndex identifier =>
      rw [same] at name
      cases name
  have shown : (parseVariablePath rd.displayName "/").isEmpty = false := List.isEmpty_eq_false_iff.mpr copyable.shows
  have adds := newProcessVariable_room law copyable found room
  unfold copyComponent
  rw [if_pos variable_, outcome_bind_ok read, lastToken_bind, shown]
  simp only [newProcessVariable, found]
  exact ⟨_, rfl, adds.space, adds.config, adds.folders, adds.ids⟩

private theorem components_room {components : List UaNode}
    (copyable : ∀ rd ∈ components, rd.nodeClass = .variable → Copyable csManager sourceName adapter rd)
    (room : Room adapter.space (dirId path) (componentCopies csManager sourceName path components)) :
    ∃ after, outcome (components.forM (copyComponent server csManager (dirId path))) adapter = (.ok (), after) ∧
      Adds (componentCopies csManager sourceName path components) adapter after := by
  induction components generalizing adapter with
  | nil => exact ⟨adapter, rfl, .of_same (AddressSpace.append_empty _).symm rfl rfl⟩
  | cons rd components ih =>
    rw [outcome_forM_cons]
    by_cases variable_ : rd.nodeClass = .variable
    · have chosen : componentCopies csManager sourceName path (rd :: components) =
          variableCopy csManager sourceName path rd ++ componentCopies csManager sourceName path components := by
        unfold componentCopies
        rw [List.filter_cons, if_pos (decide_eq_true variable_)]
        rfl
      rw [chosen] at room ⊢
      obtain ⟨middle, copied, adds⟩ := copyComponent_room law variable_ (copyable rd List.mem_cons_self variable_) room.first
      rw [copied]
      have later : Room middle.space (dirId path) (componentCopies csManager sourceName path components) :=
        adds.space ▸ room.rest
      obtain ⟨after, rest, more⟩ := ih (fun other member class_ =>
        (copyable other (List.mem_cons_of_mem _ member) class_).later adds) later
      exact ⟨after, rest, adds.trans more⟩
    · have left_out : componentCopies csManager sourceName path (rd :: components) =
          componentCopies csManager sourceName path components := by
        unfold componentCopies
        rw [List.filter_cons, if_neg (by simpa using variable_)]
      rw [left_out] at room ⊢
      have skipped : outcome (copyComponent server csManager (dirId path) rd) adapter = (.ok (), adapter) := by
        unfold copyComponent
        rw [if_neg variable_]
        rfl
      rw [skipped]
      exact ih (fun other member => copyable other (List.mem_cons_of_mem _ member)) room

omit law in
/-- No folder of the table goes by an id that is not in use. -/
theorem existFolder_new (ids : FolderIdsKnown adapter) {name : Text}
    (unused : adapter.space.hasNode (dirId (path ++ '/' :: name)) = false) :
    (adapter.folderVector.find? fun i => i.folderName = name && i.prevFolderNodeId = dirId path) = none := by
  rw [List.find?_eq_none]
  intro i member fits
  have below : i.folderName = name ∧ i.prevFolderNodeId = dirId path := by simpa using fits
  have known := ids i member path below.2
  rw [below.1, unused] at known
  cases known

theorem createFolder_new (ids : FolderIdsKnown adapter) {name : Text}
    (room : Room adapter.space (dirId path) (folderAddition path name [])) :
    ∃ after, adapter.createFolder server (dirId path) name = (dirId (path ++ '/' :: name), after) ∧
      Adds (folderAddition path name []) adapter after ∧
      after.folderVector = adapter.folderVector ++ [⟨name, dirId (path ++ '/' :: name), dirId path⟩] := by
  have unused : adapter.space.hasNode (dirId (path ++ '/' :: name)) = false :=
    room.unused (newFolder path name []) (List.mem_singleton_self _)
  have absent : adapter.existFolder (dirId path) name = .null := by
    unfold UaAdapter.existFolder
    rw [existFolder_new ids unused]
  have filled : (dirId path).isNull = false := rfl
  have null : NodeId.null.isNull = true := rfl
  have text : cutDir (path ++ "Dir") ++ '/' :: name ++ "Dir" = path ++ '/' :: name ++ "Dir" := by rw [cutDir_append]
  have created : adapter.createUAFolder server (dirId path) name [] = (dirId (path ++ '/' :: name),
      { adapter with
        space := adapter.space ++ folderAddition path name []
        requested := adapter.requested ++ [dirId (path ++ '/' :: name)] }) := by
    simp only [UaAdapter.createUAFolder, dirId, text]
    exact addNode_room law room
  refine ⟨{ (adapter.createUAFolder server (dirId path) name []).2 with
    folderVector := (adapter.createUAFolder server (dirId path) name []).2.folderVector ++
      [⟨name, dirId (path ++ '/' :: name), dirId path⟩] }, ?_, ⟨?_, ?_, ?_, fun known i member other below => ?_⟩, ?_⟩
  · simp only [UaAdapter.createFolder, filled, absent, null, Bool.false_eq_true, if_false, if_true, created]
  · rw [created]
  · rw [created]
  · rw [created]
    exact List.prefix_append _ _
  · rw [created] at member ⊢
    rcases List.mem_append.mp member with old | new
    · exact AddressSpace.hasNode_kept (known i old other below)
    · obtain rfl := List.mem_singleton.mp new
      obtain rfl : path = other := List.append_cancel_right (NodeId.string.inj below)
      rw [AddressSpace.hasNode_append, Bool.or_eq_true]
      exact .inr (AddressSpace.hasNode_iff.mpr ⟨newFolder path name [], List.mem_singleton_self _, rfl⟩)
  · rw [created]

omit law in
/-- A folder without a description, or with this one, is described. -/
theorem describe_new {before : UaAdapter} {name description : Text} {more : AddressSpace}
    (room : Room before.space (dirId path) (folderAddition path name description ++ more)) {old : Text}
    (undescribed : old = [] ∨ old = description) (adds : Adds (folderAddition path name old ++ more) before adapter) :
    ∃ after, outcome (when (!description.isEmpty) (writeDescription (dirId (path ++ '/' :: name)) description)) adapter =
        (.ok (), after) ∧ Adds (folderAddition path name description ++ more) before after ∧
      after.folderVector = adapter.folderVector := by
  cases description with
  | nil => exact ⟨adapter, rfl, or_self_iff.mp undescribed ▸ adds, rfl⟩
  | cons c description =>
    refine ⟨{ adapter with space := adapter.space.writeDescription (dirId (path ++ '/' :: name)) (c :: description) }, rfl,
      ⟨?_, adds.config, adds.folders, fun known i member other below => ?_⟩, rfl⟩
    · have unused : before.space.hasNode (dirId (path ++ '/' :: name)) = false :=
        room.unused (newFolder path name (c :: description)) (List.mem_append_left _ (List.mem_singleton_self _))
      have apart : more.hasNode (dirId (path ++ '/' :: name)) = false := by
        rw [← Bool.not_eq_true, AddressSpace.hasNode_iff]
        rintro ⟨node, member, same⟩
        have distinct := room.distinct
        rw [AddressSpace.nodes_append, List.map_append] at distinct
        refine List.disjoint_of_nodup_append distinct (List.mem_singleton_self _) ?_
        exact List.mem_map.mpr ⟨node, member, same⟩
      dsimp only
      rw [adds.space, AddressSpace.writeDescription_append, AddressSpace.writeDescription_append,
        AddressSpace.writeDescription_unused unused, AddressSpace.writeDescription_unused apart]
      refine congrArg (fun added => before.space ++ (added ++ more)) ?_
      simp [AddressSpace.writeDescription, AddressSpace.update, folderAddition, addition, newFolder]
    · exact (AddressSpace.hasNode_writeDescription _ _ _ _).trans (adds.ids known i member other below)

omit law in
theorem shown_later {tree : SourceFolder} {before : UaAdapter} (shown : tree.Every (Shown csManager sourceName before))
    (closed : before.space.Closed) (apart : tree.Every fun folder => folder.node.nodeId ≠ dirId path)
    {added : AddressSpace} (hangs : Hangs (dirId path) added) (room : Room before.space (dirId path) added)
    (adds : Adds added before adapter) : tree.Every (Shown csManager sourceName adapter) := by
  induction shown with
  | folder here _ ih =>
    cases apart with
    | folder other others =>
      exact .folder (here.later closed other hangs room.unused adds) fun sub member => ih sub member (others sub member)

def copySubfolder (server : UaServer) (csManager : ControlSystemPVManager) (fuel : Nat) (target : NodeId) (rd : UaNode) :
    Mapping Bool := do
  match (← get).space.find? rd.nodeId with
  | none => return false
  | some folder => do
    let newRootFolder ← createFolder server target folder.displayName
    when (!folder.description.isEmpty) (writeDescription newRootFolder folder.description)
    deepCopyHierarchicalLayer server csManager fuel rd.nodeId newRootFolder

omit law in
private theorem deepCopyHierarchicalLayer_succ (fuel : Nat) (layer target : NodeId) :
    deepCopyHierarchicalLayer server csManager (fuel + 1) layer target = (do
      let components := (← get).space.browseForward layer .hasComponent [.variable, .method]
      components.forM (copyComponent server csManager target)
      let folders := (← get).space.browseForward layer .organizes [.object]
      let foundBelow ← folders.mapM (copySubfolder server csManager fuel target)
      return (components.any fun rd => rd.nodeClass = .method) || foundBelow.any id) := rfl

theorem folders_room {fuel : Nat}
    (recursion : ∀ {tree : SourceFolder} {path : Text} {adapter : UaAdapter}, tree.depth ≤ fuel →
      Ready csManager sourceName adapter tree path →
      ∃ after, outcome (deepCopyHierarchicalLayer server csManager fuel tree.node.nodeId (dirId path)) adapter =
        (.ok tree.hasMethod, after) ∧ Adds (copies csManager sourceName path tree) adapter after)
    {folders : List SourceFolder} (deep : SourceFolder.depths folders ≤ fuel)
    (shown : ∀ sub ∈ folders, sub.Every (Shown csManager sourceName adapter))
    (apart : ∀ sub ∈ folders, sub.Every fun folder => folder.node.nodeId ≠ dirId path) (closed : adapter.space.Closed)
    (ids : FolderIdsKnown adapter) (room : Room adapter.space (dirId path) (folderCopies csManager sourceName path folders)) :
    ∃ after, outcome ((folders.map SourceFolder.node).mapM (copySubfolder server csManager fuel (dirId path))) adapter =
        (.ok (folders.map SourceFolder.hasMethod), after) ∧
      Adds (folderCopies csManager sourceName path folders) adapter after := by
  induction folders generalizing adapter with
  | nil =>
    refine ⟨adapter, rfl, ?_⟩
    rw [folderCopies]
    exact .of_same (AddressSpace.append_empty _).symm rfl rfl
  | cons sub rest ih =>
    rw [folderCopies] at room ⊢
    rw [SourceFolder.depths] at deep
    obtain ⟨shown_here, shown_rest⟩ := List.forall_mem_cons.mp shown
    obtain ⟨apart_here, apart_rest⟩ := List.forall_mem_cons.mp apart
    have whole : Hangs (dirId path) (folderAddition path sub.node.displayName sub.node.description ++
        copies csManager sourceName (path ++ '/' :: sub.node.displayName) sub) := (copies_hang _ _ sub _).addition _ _
    have alone : Hangs (dirId path) (folderAddition path sub.node.displayName sub.node.description) := .single _ _ _
    have new : adapter.space.hasNode (dirId (path ++ '/' :: sub.node.displayName)) = false :=
      room.first.first.unused (newFolder path sub.node.displayName sub.node.description) (List.mem_singleton_self _)
    obtain ⟨created, creates, adds_bare, -⟩ := createFolder_new law ids (Room.folder room.known new [])
    obtain ⟨described, describes, adds_folder, -⟩ := @describe_new created path adapter sub.node.displayName
      sub.node.description {} (by rw [AddressSpace.append_empty]; exact room.first.first) [] (.inl rfl)
      (by rw [AddressSpace.append_empty]; exact adds_bare)
    rw [AddressSpace.append_empty] at adds_folder
    have ready : Ready csManager sourceName described sub (path ++ '/' :: sub.node.displayName) := by
      refine ⟨shown_later shown_here closed apart_here alone room.first.first adds_folder, ?_, ?_, adds_folder.ids ids, ?_⟩
      · refine shown_here.mono fun folder shown same => ?_
        rw [← same, shown.known] at new
        cases new
      · rw [adds_folder.space]
        exact alone.closed closed
      · rw [adds_folder.space]
        exact room.first.below
    obtain ⟨copied, copies_sub, adds_copies⟩ := recursion (le_trans (le_max_left _ _) deep) ready
    have adds := adds_folder.trans adds_copies
    have first : outcome (copySubfolder server csManager fuel (dirId path) sub.node) adapter =
        (.ok sub.hasMethod, copied) := by
      unfold copySubfolder
      rw [outcome_bind_ok (outcome_get adapter), shown_here.here.there]
      dsimp only
      rw [outcome_bind_ok (outcome_createFolder _ _), creates, outcome_bind_ok describes]
      exact copies_sub
    obtain ⟨after, others, more⟩ := ih (le_trans (le_max_right _ _) deep)
      (fun other member => shown_later (shown_rest other member) closed (apart_rest other member) whole room.first adds)
      apart_rest (adds.space ▸ whole.closed closed) (adds.ids ids) (adds.space ▸ room.rest)
    refine ⟨after, ?_, adds.trans more⟩
    rw [List.map_cons, List.mapM_cons, outcome_bind_ok first, outcome_bind_ok others]
    rfl

/-- The recursion adds the copies of the tree, and tells whether there is a method in it. -/
theorem deepCopy_room {fuel : Nat} {tree : SourceFolder} {path : Text} {adapter : UaAdapter} (deep : tree.depth ≤ fuel)
    (ready : Ready csManager sourceName adapter tree path) :
    ∃ after, outcome (deepCopyHierarchicalLayer server csManager fuel tree.node.nodeId (dirId path)) adapter =
        (.ok tree.hasMethod, after) ∧ Adds (copies csManager sourceName path tree) adapter after := by
  induction fuel generalizing tree path adapter with
  | zero =>
    cases tree with
    | folder node components folders => simp [SourceFolder.depth] at deep
  | succ fuel ih =>
    obtain ⟨shown, apart, closed, ids, room⟩ := ready
    have here := shown.here
    cases tree with
    | folder node components folders =>
    rw [copies] at room ⊢
    have hangs := componentCopies_hang csManager sourceName path components
    obtain ⟨middle, copied, adds⟩ := components_room law here.copyable room.first
    have later := shown_later shown closed apart hangs room.first adds
    have below : ∀ sub ∈ folders, sub.Every (Shown csManager sourceName middle) := by
      cases later with
      | folder _ below => exact below
    have others : ∀ sub ∈ folders, sub.Every fun folder => folder.node.nodeId ≠ dirId path := by
      cases apart with
      | folder _ others => exact others
    rw [SourceFolder.depth] at deep
    obtain ⟨after, rest, more⟩ := folders_room law ih (Nat.le_of_succ_le_succ deep) below others
      (adds.space ▸ hangs.closed closed) (adds.ids ids) (adds.space ▸ room.rest)
    refine ⟨after, ?_, adds.trans more⟩
    have found := here.components
    have found_folders := later.here.folders
    simp only [SourceFolder.node, SourceFolder.components, SourceFolder.folders] at found found_folders copied ⊢
    rw [deepCopyHierarchicalLayer_succ, outcome_bind_ok (outcome_get adapter)]
    dsimp only
    rw [found, outcome_bind_ok copied, outcome_bind_ok (outcome_get middle), found_folders, outcome_bind_ok rest]
    rw [SourceFolder.hasMethod, SourceFolder.anyMethod_eq]
    rfl

end Steps

end Mapping

end OpcUaAdapter
