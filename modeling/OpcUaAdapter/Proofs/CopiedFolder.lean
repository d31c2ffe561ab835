import OpcUaAdapter.Proofs.CopiedSpace
import OpcUaAdapter.Proofs.ErrorReports

/-! What there is in a folder that was copied. Without methods each folder of the copy has one
child for each of its source; with methods the content of the source is linked again. -/

namespace OpcUaAdapter

open Effects

def AddressSpace.children (space : AddressSpace) (nodeId : NodeId) : List UaNode :=
  space.browseForward nodeId .hasComponent [.variable, .method] ++ space.browseForward nodeId .organizes [.object]

/-- A method is represented by a link to it, a variable by another node for its process variable. -/
structure StandsFor (space : AddressSpace) (rd child : UaNode) : Prop where
  named : child.browseName = rd.browseName
  method : rd.nodeClass = .method → child = rd
  variable_ : rd.nodeClass ≠ .method → child.nodeClass = .variable ∧ child.nodeId ≠ rd.nodeId ∧
    space.sourceName child.nodeId = space.sourceName rd.nodeId

mutual

/-- The children of the copy have names of their own and represent what is in the source one
by one: its folders by copies, or by links where there are methods in them. -/
def Represents (space : AddressSpace) : SourceFolder → NodeId → Prop
  | .folder _ components folders, copy =>
    ((space.children copy).map (·.browseName)).Nodup ∧
      ∃ parts subs, (space.children copy).Perm (parts ++ subs) ∧ List.Forall₂ (StandsFor space) components parts ∧
        RepresentsEach space folders subs

def RepresentsEach (space : AddressSpace) : List SourceFolder → List UaNode → Prop
  | [], subs => subs = []
  | folder :: folders, subs => ∃ sub rest, subs = sub :: rest ∧ sub.browseName = folder.node.browseName ∧
      (sub.nodeId ≠ folder.node.nodeId ∧ Represents space folder sub.nodeId ∨ sub = folder.node ∧ folder.hasMethod = true) ∧
      RepresentsEach space folders rest

end

theorem RepresentsEach.length {space : AddressSpace} {folders : List SourceFolder} {subs : List UaNode}
    (each : RepresentsEach space folders subs) : subs.length = folders.length := by
  induction folders generalizing subs with
  | nil =>
    rw [RepresentsEach] at each
    rw [each]
    rfl
  | cons folder folders ih =>
    rw [RepresentsEach] at each
    obtain ⟨sub, rest, rfl, -, -, others⟩ := each
    exact congrArg (· + 1) (ih others)

/-- The names in a folder of the source: a node goes by its display name, and no two by the same. -/
structure SourceFolder.NamesApart (folder : SourceFolder) : Prop where
  components : ∀ rd ∈ folder.components, rd.nodeClass = .variable → rd.displayName = rd.browseName
  folders : ∀ sub ∈ folder.folders, sub.node.displayName = sub.node.browseName
  distinct : ((folder.components ++ folder.folders.map node).map (·.browseName)).Nodup

/-- A part of the address space: nothing else refers to others from its nodes, and nodes
outside of the part do not have their ids. -/
structure PartOf (space : AddressSpace) (parent : NodeId) (part : AddressSpace) : Prop where
  found : ∀ node ∈ part.nodes, space.find? node.nodeId = some node
  references : ∀ node ∈ part.nodes, (space.references.filter fun reference => reference.source = node.nodeId) =
    part.references.filter fun reference => reference.source = node.nodeId
  distinct : (part.nodes.map (·.nodeId)).Nodup
  apart : ∀ node ∈ part.nodes, node.nodeId ≠ parent

section Parts

variable {space before after : AddressSpace} {parent : NodeId}

private theorem Hangs.none_from {part : AddressSpace} (hangs : Hangs parent part) {nodeId : NodeId} (other : nodeId ≠ parent)
    (absent : ∀ node ∈ part.nodes, node.nodeId ≠ nodeId) :
    (part.references.filter fun reference => reference.source = nodeId) = [] := by
  rw [List.filter_eq_nil_iff]
  intro reference member same
  have same : reference.source = nodeId := of_decide_eq_true same
  rcases hangs.sources reference member with below | inside
  · exact other (same.symm.trans below)
  · obtain ⟨node, there, named⟩ := AddressSpace.hasNode_iff.mp inside
    exact absent node there (named.trans same)

private theorem PartOf.nodes_apart (part : PartOf space parent (before ++ after)) {node other : UaNode}
    (here : node ∈ before.nodes) (there : other ∈ after.nodes) : other.nodeId ≠ node.nodeId := by
  have distinct := part.distinct
  rw [AddressSpace.nodes_append, List.map_append] at distinct
  intro same
  refine List.disjoint_of_nodup_append distinct (List.mem_map_of_mem here) ?_
  exact same ▸ List.mem_map_of_mem there

theorem PartOf.first (part : PartOf space parent (before ++ after)) (hangs : Hangs parent after) :
    PartOf space parent before where
  found node member := part.found node (List.mem_append_left _ member)
  references node member := by
    rw [part.references node (List.mem_append_left _ member), AddressSpace.references_append, List.filter_append,
      hangs.none_from (part.apart node (List.mem_append_left _ member)) fun other there => part.nodes_apart member there,
      List.append_nil]
  distinct := by
    have distinct := part.distinct
    rw [AddressSpace.nodes_append, List.map_append] at distinct
    exact distinct.of_append_left
  apart node member := part.apart node (List.mem_append_left _ member)

theorem PartOf.rest (part : PartOf space parent (before ++ after)) (hangs : Hangs parent before) :
    PartOf space parent after where
  found node member := part.found node (List.mem_append_right _ member)
  references node member := by
    rw [part.references node (List.mem_append_right _ member), AddressSpace.references_append, List.filter_append,
      hangs.none_from (part.apart node (List.mem_append_right _ member)) fun other there =>
        (part.nodes_apart there member).symm,
      List.nil_append]
  distinct := by
    have distinct := part.distinct
    rw [AddressSpace.nodes_append, List.map_append] at distinct
    exact distinct.of_append_right
  apart node member := part.apart node (List.mem_append_right _ member)

/-- What is below the first node of a part. -/
theorem PartOf.below {node : UaNode} {referenceType : ReferenceType} {typeDefinition : Option NodeId}
    (part : PartOf space parent (addition node parent referenceType typeDefinition ++ after)) :
    PartOf space node.nodeId after where
  found other member := part.found other (List.mem_append_right _ member)
  references other member := by
    have hangs : Hangs parent (addition node parent referenceType typeDefinition) := .single _ _ _
    rw [part.references other (List.mem_append_right _ member), AddressSpace.references_append, List.filter_append,
      hangs.none_from (part.apart other (List.mem_append_right _ member)) fun own there =>
        (part.nodes_apart there member).symm,
      List.nil_append]
  distinct := by
    have distinct := part.distinct
    rw [AddressSpace.nodes_append, List.map_append] at distinct
    exact distinct.of_append_right
  apart other member := part.nodes_apart (List.mem_singleton_self _) member

/-- The references from the parent to what is added below it. -/
def hanging (part : AddressSpace) (parent : NodeId) (referenceType : ReferenceType) : List UaReference :=
  part.references.filter fun reference => reference.source = parent && reference.referenceType = referenceType

theorem hanging_append (before after : AddressSpace) (parent : NodeId) (referenceType : ReferenceType) :
    hanging (before ++ after) parent referenceType =
      hanging before parent referenceType ++ hanging after parent referenceType := List.filter_append ..

theorem hanging_addition {node : UaNode} {used : ReferenceType} {typeDefinition : Option NodeId}
    (hangs : Hangs node.nodeId after) (other : node.nodeId ≠ parent) (absent : ∀ inner ∈ after.nodes, inner.nodeId ≠ parent)
    (referenceType : ReferenceType) :
    hanging (addition node parent used typeDefinition ++ after) parent referenceType =
      if used = referenceType then [⟨parent, used, node.nodeId⟩] else [] := by
  have inner : hanging after parent referenceType = [] := by
    rw [hanging, ← List.filter_filter, List.filter_eq_nil_iff]
    intro reference member from_parent
    have outside := hangs.none_from other.symm absent
    rw [List.filter_eq_nil_iff] at outside
    exact outside reference (List.mem_of_mem_filter member) from_parent
  have typed : ((typeDefinition.map fun target => (⟨node.nodeId, .hasTypeDefinition, target⟩ : UaReference)).toList.filter
      fun reference => reference.source = parent && reference.referenceType = referenceType) = [] := by
    rw [List.filter_eq_nil_iff]
    intro reference member both
    obtain ⟨type, -, rfl⟩ := Option.map_eq_some_iff.mp (Option.mem_toList.mp member)
    exact other (of_decide_eq_true (Bool.and_eq_true_iff.mp both).1)
  rw [hanging_append, inner, List.append_nil, hanging, addition, List.filter_cons, typed]
  simp

/-- A new node refers to what is added below it only. -/
theorem PartOf.hanging_below {node : UaNode} {used : ReferenceType} {typeDefinition : Option NodeId}
    (part : PartOf space parent (addition node parent used typeDefinition ++ after)) {referenceType : ReferenceType}
    (hierarchical : referenceType ≠ .hasTypeDefinition) :
    hanging space node.nodeId referenceType = hanging after node.nodeId referenceType := by
  have itself : node ∈ (addition node parent used typeDefinition ++ after).nodes :=
    List.mem_append_left _ (List.mem_singleton_self _)
  have split (whole : AddressSpace) : hanging whole node.nodeId referenceType =
      (whole.references.filter fun reference => reference.source = node.nodeId).filter
        fun reference => reference.referenceType = referenceType := by
    rw [List.filter_filter, hanging]
    exact List.filter_congr fun reference _ => Bool.and_comm _ _
  have none_first : hanging (addition node parent used typeDefinition) node.nodeId referenceType = [] := by
    rw [hanging, List.filter_eq_nil_iff]
    intro reference member both
    obtain ⟨source, type⟩ := Bool.and_eq_true_iff.mp both
    rcases List.mem_cons.mp member with rfl | typed
    · exact part.apart node itself (of_decide_eq_true source).symm
    · obtain ⟨target, -, rfl⟩ := Option.map_eq_some_iff.mp (Option.mem_toList.mp typed)
      exact hierarchical (of_decide_eq_true type).symm
  rw [split, part.references node itself, ← split, hanging_append, none_first, List.nil_append]

variable (csManager : ControlSystemPVManager) (sourceName : UaNode → Text) {path : Text}

private theorem hanging_components {components : List UaNode}
    (absent : ∀ inner ∈ (componentCopies csManager sourceName path components).nodes, inner.nodeId ≠ dirId path)
    (referenceType : ReferenceType) :
    hanging (componentCopies csManager sourceName path components) (dirId path) referenceType =
      if referenceType = .hasComponent then
        (components.filter (·.nodeClass = .variable)).map fun rd =>
          ⟨dirId path, .hasComponent, (variableCopyNode csManager sourceName path rd).nodeId⟩
      else [] := by
  unfold componentCopies at absent ⊢
  generalize components.filter (·.nodeClass = .variable) = variables_ at absent ⊢
  induction variables_ with
  | nil => simp [joined, hanging]
  | cons rd rest ih =>
    have outside : ∀ inner ∈ (variableCopy csManager sourceName path rd).nodes, inner.nodeId ≠ dirId path :=
      fun inner member => absent inner (List.mem_append_left _ member)
    have below : Hangs (variableCopyNode csManager sourceName path rd).nodeId
        (pvChildren (path ++ '/' :: rd.displayName) (sourceName rd) pvChildNames) := pvChildren_hang _ _ _
    rw [List.map_cons, joined, hanging_append, ih fun inner member => absent inner (List.mem_append_right _ member),
      variableCopy, hanging_addition below (outside _ (List.mem_append_left _ (List.mem_singleton_self _)))
        fun inner member => outside inner (List.mem_append_right _ member)]
    by_cases component : referenceType = .hasComponent
    · rw [if_pos component, if_pos component, if_pos component.symm]
      rfl
    · rw [if_neg component, if_neg component, if_neg (Ne.symm component)]
      rfl

private theorem hanging_folders {folders : List SourceFolder}
    (absent : ∀ inner ∈ (folderCopies csManager sourceName path folders).nodes, inner.nodeId ≠ dirId path)
    (referenceType : ReferenceType) :
    hanging (folderCopies csManager sourceName path folders) (dirId path) referenceType =
      if referenceType = .organizes then
        folders.map fun sub => ⟨dirId path, .organizes, dirId (path ++ '/' :: sub.node.displayName)⟩
      else [] := by
  induction folders with
  | nil =>
    rw [folderCopies]
    simp [hanging]
  | cons sub rest ih =>
    rw [folderCopies] at absent ⊢
    have outside : ∀ inner ∈ (folderAddition path sub.node.displayName sub.node.description ++
        copies csManager sourceName (path ++ '/' :: sub.node.displayName) sub).nodes, inner.nodeId ≠ dirId path :=
      fun inner member => absent inner (List.mem_append_left _ member)
    have below : Hangs (newFolder path sub.node.displayName sub.node.description).nodeId
        (copies csManager sourceName (path ++ '/' :: sub.node.displayName) sub) := copies_hang _ _ sub _
    rw [hanging_append, ih fun inner member => absent inner (List.mem_append_right _ member), folderAddition,
      hanging_addition below (outside _ (List.mem_append_left _ (List.mem_singleton_self _)))
        fun inner member => outside inner (List.mem_append_right _ member)]
    by_cases organizes : referenceType = .organizes
    · rw [if_pos organizes, if_pos organizes, if_pos organizes.symm]
      rfl
    · rw [if_neg organizes, if_neg organizes, if_neg (Ne.symm organizes)]
      rfl

/-- What a browse finds behind references to nodes that are there. -/
theorem browseForward_eq {space : AddressSpace} {nodeId : NodeId} {referenceType : ReferenceType} {nodes : List UaNode}
    (referred : hanging space nodeId referenceType = nodes.map fun node => ⟨nodeId, referenceType, node.nodeId⟩)
    (found : ∀ node ∈ nodes, space.find? node.nodeId = some node) {nodeClasses : List NodeClass}
    (fit : ∀ node ∈ nodes, node.nodeClass ∈ nodeClasses) :
    space.browseForward nodeId referenceType nodeClasses = nodes := by
  unfold hanging at referred
  rw [AddressSpace.browseForward, referred, List.filterMap_map]
  refine (List.filterMap_congr fun node member => ?_).trans List.filterMap_some
  exact Option.filter_eq_some_iff.mpr ⟨found node member, decide_eq_true (fit node member)⟩

theorem found_of_mem_browseForward {space : AddressSpace} {nodeId : NodeId} {referenceType : ReferenceType}
    {nodeClasses : List NodeClass} {rd : UaNode} (member : rd ∈ space.browseForward nodeId referenceType nodeClasses) :
    space.find? rd.nodeId = some rd ∧ rd.nodeClass ∈ nodeClasses := by
  obtain ⟨reference, -, found⟩ := List.mem_filterMap.mp member
  obtain ⟨there, fits⟩ := Option.filter_eq_some_iff.mp found
  have same : rd.nodeId = reference.target := by simpa using List.find?_some there
  exact ⟨same ▸ there, of_decide_eq_true fits⟩

private theorem mem_joined {parts : List AddressSpace} {part : AddressSpace} {node : UaNode} (member : part ∈ parts)
    (inside : node ∈ part.nodes) : node ∈ (joined parts).nodes := by
  induction parts with
  | nil => exact absurd member List.not_mem_nil
  | cons first rest ih =>
    rcases List.mem_cons.mp member with rfl | later
    · exact List.mem_append_left _ inside
    · exact List.mem_append_right _ (ih later)

private theorem variableCopyNode_mem {components : List UaNode} {rd : UaNode}
    (member : rd ∈ components.filter (·.nodeClass = .variable)) {node : UaNode}
    (inside : node ∈ (variableCopy csManager sourceName path rd).nodes) :
    node ∈ (componentCopies csManager sourceName path components).nodes :=
  mem_joined (List.mem_map_of_mem member) inside

private theorem newFolder_mem {folders : List SourceFolder} {sub : SourceFolder} (member : sub ∈ folders) :
    newFolder path sub.node.displayName sub.node.description ∈ (folderCopies csManager sourceName path folders).nodes := by
  induction folders with
  | nil => exact absurd member List.not_mem_nil
  | cons first rest ih =>
    rw [folderCopies]
    rcases List.mem_cons.mp member with rfl | later
    · exact List.mem_append_left _ (List.mem_append_left _ (List.mem_singleton_self _))
    · exact List.mem_append_right _ (ih later)

/-- The nodes that stand in a copy for the variables of a folder. -/
def variableNodes (path : Text) (components : List UaNode) : List UaNode :=
  (components.filter (·.nodeClass = .variable)).map (variableCopyNode csManager sourceName path)

/-- The nodes that stand in a copy for the folders of a folder. -/
def folderNodes (path : Text) (folders : List SourceFolder) : List UaNode :=
  folders.map fun sub => newFolder path sub.node.displayName sub.node.description

variable {csManager sourceName}

/-- What the copies of a folder refer to. -/
theorem hanging_copies {node : UaNode} {components : List UaNode} {folders : List SourceFolder}
    (absent : ∀ inner ∈ (copies csManager sourceName path (.folder node components folders)).nodes,
      inner.nodeId ≠ dirId path) :
    hanging (copies csManager sourceName path (.folder node components folders)) (dirId path) .hasComponent =
        (variableNodes csManager sourceName path components).map (fun child => ⟨dirId path, .hasComponent, child.nodeId⟩) ∧
      hanging (copies csManager sourceName path (.folder node components folders)) (dirId path) .organizes =
        (folderNodes path folders).map fun child => ⟨dirId path, .organizes, child.nodeId⟩ := by
  rw [copies] at absent ⊢
  have first := fun inner member => absent inner (List.mem_append_left _ member)
  have rest := fun inner member => absent inner (List.mem_append_right _ member)
  have components_from := hanging_components csManager sourceName first
  have folders_from := hanging_folders csManager sourceName rest
  constructor
  · rw [hanging_append, components_from, folders_from, if_pos rfl, if_neg (by decide), List.append_nil, variableNodes,
      List.map_map]
    rfl
  · rw [hanging_append, components_from, folders_from, if_neg (by decide), if_pos rfl, List.nil_append, folderNodes,
      List.map_map]
    rfl

end Parts

/-- A copy of a tree is part of an address space, and its source still has its names there. -/
structure HoldsCopy (csManager : ControlSystemPVManager) (sourceName : UaNode → Text) (adapter : UaAdapter)
    (tree : SourceFolder) (path : Text) (space : AddressSpace) : Prop where
  part : PartOf space (dirId path) (copies csManager sourceName path tree)
  unused : ∀ node ∈ (copies csManager sourceName path tree).nodes, adapter.space.hasNode node.nodeId = false
  kept : ∀ nodeId name, adapter.space.sourceName nodeId = some name → space.sourceName nodeId = some name

section Children

variable {csManager : ControlSystemPVManager} {sourceName : UaNode → Text} {adapter : UaAdapter} {path : Text}
  {space : AddressSpace}

theorem Shown.found {folder : SourceFolder} (shown : Shown csManager sourceName adapter folder) {rd : UaNode}
    (member : rd ∈ folder.components) :
    adapter.space.hasNode rd.nodeId = true ∧ (rd.nodeClass = .variable ∨ rd.nodeClass = .method) := by
  rw [← shown.components] at member
  obtain ⟨there, fits⟩ := found_of_mem_browseForward member
  refine ⟨?_, by simpa using fits⟩
  rw [AddressSpace.hasNode, there]
  rfl

section Layer

variable {node : UaNode} {components : List UaNode} {folders : List SourceFolder}
  (copied : HoldsCopy csManager sourceName adapter (.folder node components folders) path space)

include copied

private theorem HoldsCopy.components_part : PartOf space (dirId path) (componentCopies csManager sourceName path components) := by
  have part := copied.part
  rw [copies] at part
  exact part.first (folderCopies_hang csManager sourceName folders path)

private theorem HoldsCopy.folders_part : PartOf space (dirId path) (folderCopies csManager sourceName path folders) := by
  have part := copied.part
  rw [copies] at part
  exact part.rest (componentCopies_hang csManager sourceName path components)

/-- The copy of a variable stands for it. -/
theorem HoldsCopy.stands (shown : Shown csManager sourceName adapter (.folder node components folders))
    (names : (SourceFolder.folder node components folders).NamesApart) {rd : UaNode} (member : rd ∈ components)
    (variable_ : rd.nodeClass = .variable) : StandsFor space rd (variableCopyNode csManager sourceName path rd) := by
  have listed : rd ∈ components.filter (·.nodeClass = .variable) := List.mem_filter.mpr ⟨member, decide_eq_true variable_⟩
  have inside {inner : UaNode} (there : inner ∈ (variableCopy csManager sourceName path rd).nodes) :=
    variableCopyNode_mem csManager sourceName listed there
  refine ⟨names.components rd member variable_, fun method => ?_, fun _ => ⟨rfl, fun same => ?_, ?_⟩⟩
  · rw [variable_] at method
    cases method
  · have known := (shown.found member).1
    have new := copied.unused (variableCopyNode csManager sourceName path rd) (by
      rw [copies]
      exact List.mem_append_left _ (inside (List.mem_append_left _ (List.mem_singleton_self _))))
    rw [same, known] at new
    cases new
  · have name := (shown.copyable rd member variable_).name
    rw [copied.kept _ _ name]
    have stored := copied.components_part.found (pvChildNode (path ++ '/' :: rd.displayName) (sourceName rd) "Name")
      (inside (List.mem_append_right _ (List.mem_append_left _ (List.mem_singleton_self _))))
    refine Option.bind_eq_some_iff.mpr ⟨_, stored, ?_⟩
    rfl

theorem HoldsCopy.variables_found {child : UaNode} (member : child ∈ variableNodes csManager sourceName path components) :
    space.find? child.nodeId = some child ∧ child.nodeClass = .variable := by
  obtain ⟨rd, listed, rfl⟩ := List.mem_map.mp member
  refine ⟨copied.components_part.found _ (variableCopyNode_mem csManager sourceName listed ?_), rfl⟩
  exact List.mem_append_left _ (List.mem_singleton_self _)

theorem HoldsCopy.folders_found {child : UaNode} (member : child ∈ folderNodes path folders) :
    space.find? child.nodeId = some child ∧ child.nodeClass = .object := by
  obtain ⟨sub, listed, rfl⟩ := List.mem_map.mp member
  exact ⟨copied.folders_part.found _ (newFolder_mem csManager sourceName listed), rfl⟩

theorem HoldsCopy.browse_folders
    (own : hanging space (dirId path) .organizes =
      hanging (copies csManager sourceName path (.folder node components folders)) (dirId path) .organizes) :
    space.browseForward (dirId path) .organizes [.object] = folderNodes path folders := by
  refine browseForward_eq (own.trans (hanging_copies copied.part.apart).2) (fun child member => ?_) fun child member => ?_
  · exact (copied.folders_found member).1
  · exact List.mem_singleton.mpr (copied.folders_found member).2

theorem HoldsCopy.browse_components
    (own : hanging space (dirId path) .hasComponent =
      hanging (copies csManager sourceName path (.folder node components folders)) (dirId path) .hasComponent) :
    space.browseForward (dirId path) .hasComponent [.variable, .method] = variableNodes csManager sourceName path components := by
  refine browseForward_eq (own.trans (hanging_copies copied.part.apart).1) (fun child member => ?_) fun child member => ?_
  · exact (copied.variables_found member).1
  · rw [(copied.variables_found member).2]
    exact List.mem_cons_self

end Layer

theorem names_copied {folder : SourceFolder} (names : folder.NamesApart)
    (variables_ : ∀ rd ∈ folder.components, rd.nodeClass = .variable) :
    (variableNodes csManager sourceName path folder.components ++ folderNodes path folder.folders).map (·.browseName) =
      (folder.components ++ folder.folders.map SourceFolder.node).map (·.browseName) := by
  have all : folder.components.filter (·.nodeClass = .variable) = folder.components :=
    List.filter_eq_self.mpr fun rd member => decide_eq_true (variables_ rd member)
  rw [variableNodes, all, folderNodes, List.map_append, List.map_append, List.map_map, List.map_map, List.map_map]
  refine congrArg₂ (· ++ ·) (List.map_congr_left fun rd member => ?_) (List.map_congr_left fun sub member => ?_)
  · exact names.components rd member (variables_ rd member)
  · exact names.folders sub member

theorem representsEach_copied {folders : List SourceFolder}
    (inner : ∀ sub ∈ folders, ∀ path, HoldsCopy csManager sourceName adapter sub path space →
      (∀ referenceType ≠ .hasTypeDefinition, hanging space (dirId path) referenceType =
        hanging (copies csManager sourceName path sub) (dirId path) referenceType) → Represents space sub (dirId path))
    (known : ∀ sub ∈ folders, adapter.space.hasNode sub.node.nodeId = true)
    (names : ∀ sub ∈ folders, sub.node.displayName = sub.node.browseName)
    (part : PartOf space (dirId path) (folderCopies csManager sourceName path folders))
    (unused : ∀ node ∈ (folderCopies csManager sourceName path folders).nodes, adapter.space.hasNode node.nodeId = false)
    (kept : ∀ nodeId name, adapter.space.sourceName nodeId = some name → space.sourceName nodeId = some name) :
    RepresentsEach space folders (folderNodes path folders) := by
  induction folders with
  | nil =>
    rw [RepresentsEach]
    rfl
  | cons sub rest ih =>
    rw [folderCopies] at part unused
    rw [RepresentsEach]
    have first := part.first (folderCopies_hang csManager sourceName rest path)
    have others := part.rest ((copies_hang csManager sourceName sub _).addition _ _)
    have new : newFolder path sub.node.displayName sub.node.description ∈
        (folderAddition path sub.node.displayName sub.node.description ++
          copies csManager sourceName (path ++ '/' :: sub.node.displayName) sub).nodes :=
      List.mem_append_left _ (List.mem_singleton_self _)
    refine ⟨_, folderNodes path rest, rfl, names sub List.mem_cons_self, .inl ⟨fun same => ?_, ?_⟩, ?_⟩
    · have absent := unused _ (List.mem_append_left _ new)
      rw [same, known sub List.mem_cons_self] at absent
      cases absent
    · refine inner sub List.mem_cons_self _ ⟨first.below, fun node member => ?_, kept⟩ fun referenceType hierarchical => ?_
      · exact unused node (List.mem_append_left _ (List.mem_append_right _ member))
      · exact first.hanging_below hierarchical
    · refine ih (fun other member => inner other (List.mem_cons_of_mem _ member)) (fun other member => ?_)
        (fun other member => ?_) others fun node member => unused node (List.mem_append_right _ member)
      · exact known other (List.mem_cons_of_mem _ member)
      · exact names other (List.mem_cons_of_mem _ member)

/-- A copy without methods represents its source, with all that is below it. -/
theorem HoldsCopy.represents {tree : SourceFolder} (copied : HoldsCopy csManager sourceName adapter tree path space)
    (own : ∀ referenceType ≠ .hasTypeDefinition, hanging space (dirId path) referenceType =
      hanging (copies csManager sourceName path tree) (dirId path) referenceType)
    (shown : tree.Every (Shown csManager sourceName adapter)) (names : tree.Every SourceFolder.NamesApart)
    (plain : tree.hasMethod = false) : Represents space tree (dirId path) := by
  induction tree using SourceFolder.induction generalizing path with
  | folder node components folders ih =>
    rw [SourceFolder.hasMethod, Bool.or_eq_false_iff, SourceFolder.anyMethod_eq, List.any_map, List.any_eq_false,
      List.any_eq_false] at plain
    obtain ⟨no_method, below⟩ := plain
    cases shown with
    | folder shown_here shown_below =>
    cases names with
    | folder names_here names_below =>
    have variables_ : ∀ rd ∈ components, rd.nodeClass = .variable := fun rd member =>
      (shown_here.found member).2.resolve_right fun method => no_method rd member (decide_eq_true method)
    have all : components.filter (·.nodeClass = .variable) = components :=
      List.filter_eq_self.mpr fun rd member => decide_eq_true (variables_ rd member)
    have children : space.children (dirId path) =
        variableNodes csManager sourceName path components ++ folderNodes path folders := by
      rw [AddressSpace.children, copied.browse_components (own _ (by decide)), copied.browse_folders (own _ (by decide))]
    rw [Represents, children]
    refine ⟨?_, _, _, .refl _, ?_, ?_⟩
    · exact (names_copied names_here variables_).symm ▸ names_here.distinct
    · rw [variableNodes, all, List.forall₂_map_right_iff, List.forall₂_same]
      exact fun rd member => copied.stands shown_here names_here member (variables_ rd member)
    · refine representsEach_copied (fun sub member other copied own => ?_) (fun sub member => ?_) names_here.folders
        copied.folders_part (fun inner member => copied.unused inner ?_) copied.kept
      · refine ih sub member copied own (shown_below sub member) (names_below sub member) ?_
        exact Bool.not_eq_true _ ▸ below sub member
      · exact (shown_below sub member).here.known
      · rw [copies]
        exact List.mem_append_right _ member

end Children

end OpcUaAdapter
