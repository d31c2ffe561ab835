import OpcUaAdapter.Proofs.FolderLinks
import OpcUaAdapter.Proofs.FolderTable

/-! The copy of a folder browses the address space it is adding folders to. While the copy
is not made below its source, the tree of the source stays as it was, and the recursion
ends with it. -/

namespace OpcUaAdapter

open Effects

/-- The server adds no node under an id that is in use. -/
def RefusesUsed (server : UaServer) : Prop :=
  ∀ space node parent, server.addsNode space node parent = true → space.hasNode node.nodeId = false

/-- A finite tree of folders: each is there, and the ways down end. -/
inductive FolderTree (space : AddressSpace) : NodeId → Prop where
  | folder {nodeId} (known : space.hasNode nodeId = true)
      (below : ∀ child, space.OrganizesReference nodeId child → FolderTree space child) : FolderTree space nodeId

abbrev AddressSpace.Below (space : AddressSpace) : NodeId → NodeId → Prop :=
  Relation.ReflTransGen space.OrganizesReference

private theorem FolderTree.known_below {space : AddressSpace} {source nodeId : NodeId} (tree : FolderTree space source)
    (below : space.Below source nodeId) : space.hasNode nodeId = true := by
  induction tree with
  | @folder source known _ ih =>
    rcases Relation.ReflTransGen.cases_head below with rfl | ⟨child, first, rest⟩
    · exact known
    · exact ih child first rest

/-- The nodes of the source's tree are still there, and no reference leaves it that was not. -/
structure TreeKept (space : AddressSpace) (source : NodeId) (adapter : UaAdapter) : Prop where
  nodes : ∀ nodeId, space.Below source nodeId → adapter.space.hasNode nodeId = true
  references : ∀ nodeId child, space.Below source nodeId → adapter.space.OrganizesReference nodeId child →
    space.OrganizesReference nodeId child

section Steps

variable {server : UaServer} {space : AddressSpace} {source : NodeId}

theorem TreeKept.of_same {before after : UaAdapter} (kept : TreeKept space source before)
    (nodes : ∀ nodeId, before.space.hasNode nodeId = true → after.space.hasNode nodeId = true)
    (references : ∀ nodeId child, after.space.OrganizesReference nodeId child →
      before.space.OrganizesReference nodeId child) : TreeKept space source after :=
  ⟨fun nodeId below => nodes nodeId (kept.nodes nodeId below),
    fun nodeId child below reference => kept.references nodeId child below (references nodeId child reference)⟩

/-- A node that is added below one outside of the tree. -/
theorem TreeKept.addNode {adapter : UaAdapter} (kept : TreeKept space source adapter) (node : UaNode) (parent : NodeId)
    (referenceType : ReferenceType) (typeDefinition : Option NodeId)
    (outside : referenceType = .organizes → ¬ space.Below source parent) :
    TreeKept space source (adapter.addNode server node parent referenceType typeDefinition).2 := by
  by_cases grants : server.addsNode adapter.space node parent = true
  · have nodes := addNode_nodes adapter node parent referenceType typeDefinition grants
    have references := addNode_references adapter node parent referenceType typeDefinition grants
    refine ⟨fun nodeId below => (nodes nodeId).mpr (.inl (kept.nodes nodeId below)), ?_⟩
    intro nodeId child below reference
    rcases (references nodeId child).mp reference with old | ⟨⟨rfl, -⟩, organizes⟩
    · exact kept.references nodeId child below old
    · exact absurd below (outside organizes)
  · simp only [UaAdapter.addNode, AddressSpace.addNode, if_neg grants]
    exact ⟨kept.nodes, kept.references⟩

theorem TreeKept.addPVChildNodes {adapter : UaAdapter} (kept : TreeKept space source adapter) (pvNodeId : NodeId)
    (pvNodePath namePV : Text) (children : List Text) :
    TreeKept space source (adapter.addPVChildNodes server pvNodeId pvNodePath namePV children) := by
  induction children generalizing adapter with
  | nil => exact kept
  | cons child children ih =>
    have added : TreeKept space source (adapter.addNode server (pvChildNode pvNodePath namePV child) pvNodeId
        .hasComponent (some baseDataVariableType)).2 := kept.addNode _ _ _ _ (by rintro ⟨⟩)
    simp only [UaAdapter.addPVChildNodes]
    split
    next => exact added
    next => exact ih added

theorem TreeKept.newProcessVariable {adapter : UaAdapter} (kept : TreeKept space source adapter) (base : NodeId)
    (oneProcessVariable : ProcessVariable) (namePV overwriteNodeString : Text) :
    TreeKept space source
      (adapter.newProcessVariable server base oneProcessVariable namePV overwriteNodeString).2 := by
  simp only [UaAdapter.newProcessVariable]
  generalize (if overwriteNodeString.isEmpty then namePV else overwriteNodeString) = nameNew
  split
  next => exact kept
  next =>
    split
    next => exact kept.addNode _ base .hasComponent none (by rintro ⟨⟩)
    next =>
      simp only [UaAdapter.mapVariable]
      split
      next => exact kept.of_same (fun _ => id) fun _ _ => id
      next => exact (kept.addNode _ base .hasComponent (some ctkVariable) (by rintro ⟨⟩)).addPVChildNodes _ _ _ _

/-- A folder is created outside of the tree, or nothing is. -/
theorem TreeKept.createFolder (law : RefusesUsed server) {adapter : UaAdapter} (kept : TreeKept space source adapter)
    {base : NodeId} (outside : base.isNull = true ∨ ¬ space.Below source base) (folderName : Text) :
    TreeKept space source (adapter.createFolder server base folderName).2 ∧
      ((adapter.createFolder server base folderName).1.isNull = true ∨
        ¬ space.Below source (adapter.createFolder server base folderName).1) := by
  constructor
  · unfold UaAdapter.createFolder
    split
    next => exact kept
    next filled =>
      split
      next =>
        have created : TreeKept space source (adapter.createUAFolder server base folderName []).2 :=
          kept.addNode _ base .organizes (some folderType) fun _ => outside.resolve_left filled
        exact created.of_same (fun _ => id) fun _ _ => id
      next => exact kept
  · cases created : (adapter.createFolder server base folderName).1.isNull with
    | true => exact .inl rfl
    | false =>
      obtain ⟨node, grants, nodeId, -⟩ := createFolder_created created
      refine .inr fun below => ?_
      have known := kept.nodes _ below
      rw [nodeId, law _ _ _ grants] at known
      cases known

/-- An effect that succeeds and leaves the address space alone. -/
def Quiet {α : Type} (effect : Mapping α) : Prop :=
  ∀ adapter, ∃ value after, outcome effect adapter = (.ok value, after) ∧ after.space = adapter.space

theorem Quiet.ends {α : Type} {effect : Mapping α} (quiet : Quiet effect) :
    Ends (· = .unfinished) (TreeKept space source) effect fun _ => TreeKept space source := by
  intro adapter kept
  obtain ⟨value, after, reached, same⟩ := quiet adapter
  rw [reached]
  exact kept.of_same (fun _ has => same ▸ has) fun _ _ reference => same ▸ reference

private theorem readSourceName_quiet (nodeId : NodeId) : Quiet (Mapping.readSourceName nodeId) := by
  intro adapter
  unfold Mapping.readSourceName
  rw [outcome_bind_ok (outcome_get adapter)]
  dsimp only
  split
  · exact ⟨_, _, rfl, rfl⟩
  · exact ⟨_, _, rfl, rfl⟩

private theorem lastToken_quiet (path : Text) : Quiet (Mapping.lastToken path) := by
  intro adapter
  unfold Mapping.lastToken
  dsimp only
  cases (parseVariablePath path "/").isEmpty with
  | true => exact ⟨_, _, rfl, rfl⟩
  | false => exact ⟨_, _, rfl, rfl⟩

private theorem describe_ends (nodeId : NodeId) (description : Text) :
    Ends (· = .unfinished) (TreeKept space source)
      (Mapping.when (!description.isEmpty) (Mapping.writeDescription nodeId description))
      fun _ => TreeKept space source := by
  refine Ends.ite (Ends.modify fun adapter kept => kept.of_same (fun other has => ?_) fun _ _ => id)
    (Ends.pure fun _ => id)
  exact (AddressSpace.hasNode_writeDescription _ _ _ _).trans has

private theorem newProcessVariable_ends (csManager : ControlSystemPVManager) (base : NodeId) (namePV overwriteNodeString : Text) :
    Ends (· = .unfinished) (TreeKept space source)
      (Mapping.newProcessVariable server csManager base namePV overwriteNodeString) fun _ => TreeKept space source := by
  unfold Mapping.newProcessVariable
  split
  · exact Ends.throw (by rintro ⟨⟩)
  · exact Ends.modifyGet fun adapter kept => kept.newProcessVariable _ _ _ _

private theorem copyComponent_ends (csManager : ControlSystemPVManager) (target : NodeId) (rd : UaNode) :
    Ends (· = .unfinished) (TreeKept space source) (Mapping.copyComponent server csManager target rd)
      fun _ => TreeKept space source := by
  unfold Mapping.copyComponent
  split
  · refine Ends.bind (readSourceName_quiet rd.nodeId).ends fun foundPVSourceName => ?_
    refine Ends.bind (lastToken_quiet rd.displayName).ends fun _ => ?_
    refine Ends.bind (newProcessVariable_ends csManager target foundPVSourceName rd.displayName) fun created => ?_
    exact Ends.modify fun adapter kept => kept.of_same (fun _ => id) fun _ _ => id
  · exact Ends.pure fun _ => id

theorem exists_common_depth {α : Type} {list : List α} {property : α → Nat → Prop}
    (each : ∀ a ∈ list, ∃ depth, ∀ fuel, depth ≤ fuel → property a fuel) :
    ∃ depth, ∀ fuel, depth ≤ fuel → ∀ a ∈ list, property a fuel := by
  induction list with
  | nil => exact ⟨0, by simp⟩
  | cons a list ih =>
    obtain ⟨own, here⟩ := each a List.mem_cons_self
    obtain ⟨depth, rest⟩ := ih fun b member => each b (List.mem_cons_of_mem a member)
    refine ⟨max own depth, fun fuel deep b member => ?_⟩
    rcases List.mem_cons.mp member with rfl | member
    · exact here fuel (le_trans (le_max_left _ _) deep)
    · exact rest fuel (le_trans (le_max_right _ _) deep) b member

/-- The recursion keeps the tree of its source while it is not below its own copy. -/
theorem deepCopy_ends (law : RefusesUsed server) (csManager : ControlSystemPVManager) {layer : NodeId}
    (tree : FolderTree space layer) (inside : space.Below source layer) :
    ∃ depth, ∀ fuel, depth ≤ fuel → ∀ target, (target.isNull = true ∨ ¬ space.Below source target) →
      Ends (· = .unfinished) (TreeKept space source)
        (Mapping.deepCopyHierarchicalLayer server csManager fuel layer target) fun _ => TreeKept space source := by
  induction tree with
  | @folder layer known below ih =>
    have each : ∀ reference ∈ space.references, ∃ depth, ∀ fuel, depth ≤ fuel →
        reference = ⟨layer, .organizes, reference.target⟩ → ∀ target,
          (target.isNull = true ∨ ¬ space.Below source target) →
          Ends (· = .unfinished) (TreeKept space source)
            (Mapping.deepCopyHierarchicalLayer server csManager fuel reference.target target)
            fun _ => TreeKept space source := by
      intro reference member
      by_cases first : reference = ⟨layer, .organizes, reference.target⟩
      · have organizes : space.OrganizesReference layer reference.target := first ▸ member
        obtain ⟨depth, ends⟩ := ih reference.target organizes (inside.tail organizes)
        exact ⟨depth, fun fuel deep _ => ends fuel deep⟩
      · exact ⟨0, fun fuel _ same => absurd same first⟩
    obtain ⟨depth, ends⟩ := exists_common_depth each
    refine ⟨depth + 1, fun fuel deep target outside => ?_⟩
    obtain ⟨fuel, rfl⟩ := Nat.exists_eq_add_of_le' (le_trans (Nat.le_add_left 1 depth) deep)
    have shallower : depth ≤ fuel := by omega
    refine Ends.read fun current kept => Ends.weaken ?_ fun _ (same : _ = current) => same ▸ kept
    refine Ends.bind (Ends.forM fun rd _ => copyComponent_ends csManager target rd) fun _ => ?_
    refine Ends.read fun copied later => Ends.weaken ?_ fun _ (same : _ = copied) => same ▸ later
    refine Ends.bind (Ends.mapM fun rd found => ?_) fun _ => Ends.pure fun _ => id
    refine Ends.read fun now still => Ends.weaken ?_ fun _ (same : _ = now) => same ▸ still
    split
    next => exact Ends.pure fun _ => id
    next folder _ =>
      -- the folder that was found is one of the source's tree, and its copy is outside of it
      have first : space.OrganizesReference layer rd.nodeId :=
        later.references layer rd.nodeId inside (reference_of_mem_browseForward found)
      have recursion := ends fuel shallower ⟨layer, .organizes, rd.nodeId⟩ first rfl
      have created : Ends (· = .unfinished) (TreeKept space source)
          (Mapping.createFolder server target folder.displayName) fun newRootFolder after =>
            TreeKept space source after ∧ (newRootFolder.isNull = true ∨ ¬ space.Below source newRootFolder) :=
        Ends.modifyGet fun adapter kept => kept.createFolder law outside folder.displayName
      refine Ends.bind created fun newRootFolder => ?_
      rintro adapter ⟨kept, apart⟩
      exact Ends.bind (describe_ends newRootFolder folder.description) (fun _ => recursion newRootFolder apart) adapter kept

end Steps

/-- A folder copy ends when the folder it goes to is neither its source nor below it. -/
theorem deep_copy_ends {server : UaServer} (law : RefusesUsed server) (csManager : ControlSystemPVManager)
    (adapter : UaAdapter) {sourceFolderId copyRoot : NodeId} (tree : FolderTree adapter.space sourceFolderId)
    (apart : ¬ adapter.space.Below sourceFolderId copyRoot) :
    ∃ depth, ∀ fuel, depth ≤ fuel →
      (outcome (Mapping.deepCopyHierarchicalLayer server csManager fuel sourceFolderId copyRoot) adapter).1 ≠
        .error .unfinished := by
  obtain ⟨depth, ends⟩ := deepCopy_ends law csManager tree .refl
  have start : TreeKept adapter.space sourceFolderId adapter := ⟨fun _ => tree.known_below, fun _ _ _ => id⟩
  refine ⟨depth, fun fuel deep unfinished => ?_⟩
  have ending := ends fuel deep copyRoot (.inr apart) adapter start
  revert unfinished ending
  rcases outcome _ adapter with ⟨_ | _, after⟩
  · intro unfinished other
    exact other (Except.error.inj unfinished)
  · rintro ⟨⟩

def NodeId.length : NodeId → Nat
  | .string identifier => identifier.length
  | .numeric _ _ => 0

/-- An empty folder that is the only thing in the layer above it, and whose id is the longest. -/
structure NewestFolder (adapter : UaAdapter) (layer target : NodeId) (name : Text) : Prop where
  found : ∃ folder, adapter.space.browseForward layer .organizes [.object] = [folder] ∧ folder.nodeId = target ∧
    adapter.space.find? target = some folder ∧ folder.displayName = name ∧ folder.description = []
  bare : adapter.space.browseForward layer .hasComponent [.variable, .method] = []
  empty : ∀ reference ∈ adapter.space.references, reference.source = target →
    reference.referenceType = .hasTypeDefinition
  longest : ∀ node ∈ adapter.space.nodes, node.nodeId.length ≤ target.length
  sources : ∀ reference ∈ adapter.space.references, reference.source.length ≤ target.length
  parents : ∀ i ∈ adapter.folderVector, i.prevFolderNodeId.length < target.length
  text : ∃ front, target = .string (front ++ "Dir")

/-- The folder that is created in the newest one takes its place. -/
theorem NewestFolder.next {adapter : UaAdapter} {layer target : NodeId} {name : Text}
    (newest : NewestFolder adapter layer target name) :
    NewestFolder (adapter.createFolder belowServer target name).2 target
      (adapter.createFolder belowServer target name).1 name := by
  obtain ⟨front, rfl⟩ := newest.text
  obtain ⟨folder, -, same, there, -⟩ := newest.found
  have absent : (adapter.existFolder (.string (front ++ "Dir")) name).isNull = true := by
    rw [Mapping.existFolder_eq, List.find?_eq_none.mpr]
    · rfl
    · intro i member
      have := newest.parents i member
      simpa using fun _ same => absurd (same ▸ this) (lt_irrefl _)
  have unused : adapter.space.hasNode (.string (front ++ '/' :: name ++ "Dir")) = false := by
    rw [← Bool.not_eq_true, AddressSpace.hasNode_iff]
    rintro ⟨node, member, taken⟩
    have := newest.longest node member
    rw [taken] at this
    simp [NodeId.length] at this
  have parent : adapter.space.hasNode (.string (front ++ "Dir")) = true := by
    rw [AddressSpace.hasNode, there]
    rfl
  have named : NodeId.isNull (.string (front ++ ("Dir" : Text))) = false := rfl
  have longer : (NodeId.string (front ++ "Dir")).length < (NodeId.string (front ++ '/' :: name ++ "Dir")).length := by
    simp [NodeId.length]
  have text : ∃ before, NodeId.string (front ++ '/' :: name ++ "Dir") = .string (before ++ "Dir") := ⟨_, rfl⟩
  simp only [UaAdapter.createFolder, named, absent, Bool.false_eq_true, if_false, if_true, UaAdapter.createUAFolder,
    cutDir_append, UaAdapter.addNode, AddressSpace.addNode, belowServer, unused, parent, Bool.not_false, Bool.and_self]
  generalize NodeId.string (front ++ '/' :: name ++ "Dir") = next at *
  generalize NodeId.string (front ++ "Dir") = target at *
  have before (referenceType : ReferenceType) (other : referenceType ≠ .hasTypeDefinition) :
      (adapter.space.references.filter fun reference =>
        reference.source = target && reference.referenceType = referenceType) = [] := by
    rw [List.filter_eq_nil_iff]
    intro reference member both
    obtain ⟨from_target, type⟩ : reference.source = target ∧ reference.referenceType = referenceType := by
      simpa using both
    exact other (type.symm.trans (newest.empty reference member from_target))
  have new_last : (adapter.space.nodes.find? fun node => node.nodeId = next) = none := by
    rw [AddressSpace.hasNode, AddressSpace.find?, Option.isSome_eq_false_iff, Option.isNone_iff_eq_none] at unused
    exact unused
  have other : next ≠ target := fun same => by simp [same] at longer
  let created : UaNode := { nodeId := next, nodeClass := .object, browseName := name, displayName := name }
  refine ⟨⟨created, ?_, rfl, ?_, rfl, rfl⟩, ?_, ?_, ?_, ?_, ?_, text⟩
  · simp only [AddressSpace.browseForward, List.filter_append, before .organizes (by decide), AddressSpace.find?]
    simp [Option.filter, new_last, created, other]
  · simp [AddressSpace.find?, new_last, created]
  · simp only [AddressSpace.browseForward, List.filter_append, before .hasComponent (by decide), AddressSpace.find?]
    simp
  · intro reference member from_next
    simp only [List.mem_append, List.mem_cons, Option.map_some, Option.toList_some, List.not_mem_nil, or_false] at member
    rcases member with old | rfl | rfl
    · exact absurd (from_next ▸ newest.sources reference old) (Nat.not_le.mpr longer)
    · exact absurd from_next.symm other
    · rfl
  · intro node member
    rcases List.mem_append.mp member with old | new
    · exact (newest.longest node old).trans longer.le
    · rw [List.mem_singleton.mp new]
  · intro reference member
    simp only [List.mem_append, List.mem_cons, Option.map_some, Option.toList_some, List.not_mem_nil, or_false] at member
    rcases member with old | rfl | rfl
    · exact (newest.sources reference old).trans longer.le
    · exact longer.le
    · exact le_refl _
  · intro i member
    rcases List.mem_append.mp member with old | new
    · exact (newest.parents i old).trans longer
    · rw [List.mem_singleton.mp new]
      exact longer

/-- The recursion into the newest folder finds the folder it creates there. -/
theorem newestFolder_endless (csManager : ControlSystemPVManager) (fuel : Nat) {adapter : UaAdapter}
    {layer target : NodeId} {name : Text} (newest : NewestFolder adapter layer target name) :
    (outcome (Mapping.deepCopyHierarchicalLayer belowServer csManager fuel layer target) adapter).1 =
      .error .unfinished := by
  induction fuel generalizing adapter layer target with
  | zero => rfl
  | succ fuel ih =>
    have deeper := ih newest.next
    obtain ⟨folder, found, same, there, named, undescribed⟩ := newest.found
    have quiet (effect : UaNode → Mapping Unit) : outcome (([] : List UaNode).forM effect) adapter = (.ok (), adapter) :=
      rfl
    unfold Mapping.deepCopyHierarchicalLayer
    rw [outcome_bind_ok (outcome_get adapter)]
    dsimp only
    rw [newest.bare, outcome_bind_ok (quiet _), outcome_bind_ok (outcome_get adapter)]
    rw [found, List.mapM_cons]
    refine outcome_bind_error (outcome_bind_error ?_ _) _
    rw [outcome_bind_ok (outcome_get adapter), same, there]
    dsimp only
    rw [named, undescribed, outcome_bind_ok (Mapping.outcome_createFolder target name)]
    exact deeper

def emptyManager : ControlSystemPVManager where
  getAllProcessVariables := []
  getProcessVariable _ := none
  finds := by decide

def withEmptyFolder : UaAdapter :=
  (outcome (Mapping.buildFolder belowServer emptyManager 0 { name := some "a" })
    (mappedAdapter belowServer emptyManager { rootFolder := "measurementServer" } "/" false {})).2

/-- The entry copies the folder to a folder `b` in itself. -/
def copiesIntoItself : FolderEntry :=
  { sourceName := some "a", copy := some "true", destination := some "a", name := some "b" }

def copyDestination : NodeId × UaAdapter := Mapping.enrolledDestination belowServer withEmptyFolder "a"

private theorem copyDestination_newest :
    NewestFolder (copyDestination.2.createFolder belowServer copyDestination.1 "b").2 (.string "measurementServer/aDir")
      (copyDestination.2.createFolder belowServer copyDestination.1 "b").1 "b" := by
  have created : (copyDestination.2.createFolder belowServer copyDestination.1 "b").1 =
    .string "measurementServer/a/bDir" := by decide +kernel
  rw [created]
  refine ⟨⟨{ nodeId := .string "measurementServer/a/bDir", nodeClass := .object, browseName := "b", displayName := "b" },
    ?_, ?_, ?_, ?_, ?_⟩, ?_, ?_, ?_, ?_, ?_, ⟨"measurementServer/a/b", rfl⟩⟩
  all_goals decide +kernel

/-- The copy of an empty folder into itself does not end. -/
theorem copy_into_itself_endless :
    FolderTree withEmptyFolder.space (.string "measurementServer/aDir") ∧
      ∀ fuel, (outcome (Mapping.buildFolder belowServer emptyManager fuel copiesIntoItself) withEmptyFolder).1 =
        .error .unfinished := by
  constructor
  · have none : ∀ reference ∈ withEmptyFolder.space.references, ¬ (reference.source = .string "measurementServer/aDir" ∧
        reference.referenceType = .organizes) := by decide +kernel
    exact .folder (by decide +kernel) fun child reference => absurd ⟨rfl, rfl⟩ (none _ reference)
  · intro fuel
    have recorded : outcome (Mapping.folderHistory copiesIntoItself) withEmptyFolder = (.ok (), withEmptyFolder) := rfl
    rw [Mapping.buildFolder_eq, outcome_bind_ok recorded, if_neg (by decide)]
    unfold Mapping.placeFolder
    rw [outcome_bind_ok (outcome_get withEmptyFolder)]
    dsimp only
    rw [if_neg (by decide +kernel), if_neg (by decide), outcome_bind_ok (Mapping.outcome_enrollDestination _),
      if_pos (by decide)]
    change (outcome (Mapping.mapSourceFolder belowServer emptyManager fuel copiesIntoItself copyDestination.1 "a" "TRUE" "a"
      "b" []) copyDestination.2).1 = _
    unfold Mapping.mapSourceFolder
    rw [if_neg (by decide), outcome_bind_ok (outcome_get _), outcome_bind_ok (outcome_get _), if_neg (by decide +kernel),
      if_neg (by decide), if_pos rfl]
    refine outcome_bind_error ?_ _
    have created : (copyDestination.2.createFolder belowServer copyDestination.1 "b").1.isNull = false := by decide +kernel
    unfold Mapping.copyFolder
    rw [outcome_bind_ok (Mapping.outcome_createFolder copyDestination.1 _), if_neg (Bool.eq_false_iff.mp created),
      outcome_bind_ok (outcome_pure _ _)]
    refine outcome_bind_error ?_ _
    exact newestFolder_endless emptyManager fuel copyDestination_newest

/-- The copy to a folder beside the source, which has a folder of its own. -/
theorem deep_copy_ends_beside :
    ∃ depth, ∀ fuel, depth ≤ fuel →
      (outcome (Mapping.deepCopyHierarchicalLayer belowServer nestedFolder fuel (.string "r/aDir") (.string "r/bDir"))
        elsewhereAdapter).1 ≠ .error .unfinished := by
  have nested : FolderTree elsewhereAdapter.space (.string "r/a/sDir") := by
    have none : ∀ reference ∈ elsewhereAdapter.space.references, ¬ (reference.source = .string "r/a/sDir" ∧
        reference.referenceType = .organizes) := by decide +kernel
    exact .folder (by decide +kernel) fun child reference => absurd ⟨rfl, rfl⟩ (none _ reference)
  have only : ∀ reference ∈ elsewhereAdapter.space.references, reference.source = .string "r/aDir" ∧
      reference.referenceType = .organizes → reference.target = .string "r/a/sDir" := by decide +kernel
  have closed : ∀ reference ∈ elsewhereAdapter.space.references,
      reference.referenceType = .organizes → reference.source ∈ [NodeId.string "r/aDir", .string "r/a/sDir"] →
        reference.target ∈ [NodeId.string "r/aDir", .string "r/a/sDir"] := by decide +kernel
  refine deep_copy_ends (fun _ _ _ grants => (belowServer_law _ _ _ grants).1) nestedFolder elsewhereAdapter
    (.folder (by decide +kernel) fun child reference => ?_) fun below => ?_
  · obtain rfl : child = .string "r/a/sDir" := only _ reference ⟨rfl, rfl⟩
    exact nested
  · exact absurd (walk_within closed (by decide) below) (by decide)

end OpcUaAdapter
