import OpcUaAdapter.Proofs.CopiedFolder

/-! The folder entries that copy. The recursion tells of methods anywhere below the source;
then all folders of the source are linked beside their copies, and its own methods, a
thousand of each. -/

namespace OpcUaAdapter

open Effects

/-- The server adds references between its nodes that are not there yet. -/
def GrantsReferences (server : UaServer) : Prop :=
  ∀ space reference, space.hasNode reference.source = true → space.hasNode reference.target = true →
    reference ∉ space.references → server.addsReference space reference = true

def linked (source : NodeId) (referenceType : ReferenceType) (nodes : List UaNode) : AddressSpace where
  references := nodes.map fun rd => ⟨source, referenceType, rd.nodeId⟩

private theorem hanging_linked (source : NodeId) (used referenceType : ReferenceType) (nodes : List UaNode) :
    hanging (linked source used nodes) source referenceType =
      if used = referenceType then nodes.map fun rd => ⟨source, used, rd.nodeId⟩ else [] := by
  by_cases same : used = referenceType
  · rw [if_pos same, hanging, linked, List.filter_eq_self]
    intro reference member
    obtain ⟨rd, -, rfl⟩ := List.mem_map.mp member
    simp [same]
  · rw [if_neg same, hanging, linked, List.filter_eq_nil_iff]
    intro reference member both
    obtain ⟨rd, -, rfl⟩ := List.mem_map.mp member
    exact same (of_decide_eq_true (Bool.and_eq_true_iff.mp both).2)

private theorem hasNode_linked (space : AddressSpace) (source : NodeId) (referenceType : ReferenceType) (nodes : List UaNode)
    (nodeId : NodeId) : (space ++ linked source referenceType nodes).hasNode nodeId = space.hasNode nodeId := by
  rw [AddressSpace.hasNode_append]
  exact Bool.or_false _

theorem PartOf.of_room {space part : AddressSpace} {parent : NodeId} (room : Room space parent part)
    (sources : SourcesKnown space) : PartOf (space ++ part) parent part where
  found node member := by
    have absent : space.find? node.nodeId = none := by
      have unused := room.unused node member
      rwa [AddressSpace.hasNode, Option.isSome_eq_false_iff, Option.isNone_iff_eq_none] at unused
    rw [AddressSpace.find?_append, absent, Option.none_or]
    obtain ⟨other, found⟩ : ∃ other, part.find? node.nodeId = some other :=
      Option.isSome_iff_exists.mp (AddressSpace.hasNode_iff.mpr ⟨node, member, rfl⟩)
    have same : other.nodeId = node.nodeId := by simpa using List.find?_some found
    rw [found, List.inj_on_of_nodup_map room.distinct (List.mem_of_find?_eq_some found) member same]
  references node member := by
    rw [AddressSpace.references_append, List.filter_append, List.filter_eq_nil_iff.mpr, List.nil_append]
    intro reference stored same
    have known := sources reference stored
    rw [of_decide_eq_true same, room.unused node member] at known
    cases known
  distinct := room.distinct
  apart node member same := by
    have unused := room.unused node member
    rw [same, room.known] at unused
    cases unused

/-- Links from the parent do not matter for a part. -/
theorem PartOf.linked {space part : AddressSpace} {parent : NodeId} (kept : PartOf space parent part)
    (referenceType : ReferenceType) (nodes : List UaNode) :
    PartOf (space ++ linked parent referenceType nodes) parent part where
  found node member := by
    rw [AddressSpace.find?_append, kept.found node member, Option.some_or]
  references node member := by
    have elsewhere : ((OpcUaAdapter.linked parent referenceType nodes).references.filter fun reference =>
        reference.source = node.nodeId) = [] := by
      rw [List.filter_eq_nil_iff]
      intro reference stored same
      obtain ⟨rd, -, rfl⟩ := List.mem_map.mp stored
      exact kept.apart node member (of_decide_eq_true same).symm
    rw [AddressSpace.references_append, List.filter_append, kept.references node member, elsewhere, List.append_nil]
  distinct := kept.distinct
  apart := kept.apart

theorem HoldsCopy.linked {csManager : ControlSystemPVManager} {sourceName : UaNode → Text} {adapter : UaAdapter}
    {tree : SourceFolder} {path : Text} {space : AddressSpace}
    (copied : HoldsCopy csManager sourceName adapter tree path space) (referenceType : ReferenceType) (nodes : List UaNode) :
    HoldsCopy csManager sourceName adapter tree path (space ++ OpcUaAdapter.linked (dirId path) referenceType nodes) where
  part := copied.part.linked referenceType nodes
  unused := copied.unused
  kept nodeId name stored := AddressSpace.sourceName_kept (copied.kept nodeId name stored)

namespace Mapping

section Links

variable {server : UaServer} {adapter : UaAdapter}

private theorem links_added (grants : GrantsReferences server) {source : NodeId} {referenceType : ReferenceType}
    {nodes : List UaNode} (known : adapter.space.hasNode source = true)
    (there : ∀ rd ∈ nodes, adapter.space.hasNode rd.nodeId = true)
    (new : ∀ rd ∈ nodes, ⟨source, referenceType, rd.nodeId⟩ ∉ adapter.space.references)
    (distinct : (nodes.map (·.nodeId)).Nodup) :
    outcome (nodes.forM fun rd => addReference server ⟨source, referenceType, rd.nodeId⟩) adapter =
      (.ok (), { adapter with space := adapter.space ++ linked source referenceType nodes }) := by
  induction nodes generalizing adapter with
  | nil =>
    change (Except.ok (), adapter) = _
    exact congrArg (fun space => (Except.ok (), { adapter with space })) (AddressSpace.append_empty _).symm
  | cons rd rest ih =>
    obtain ⟨first, others⟩ := List.nodup_cons.mp distinct
    have granted := grants adapter.space ⟨source, referenceType, rd.nodeId⟩ known (there rd List.mem_cons_self)
      (new rd List.mem_cons_self)
    have space : adapter.space.addReference server ⟨source, referenceType, rd.nodeId⟩ =
        adapter.space ++ linked source referenceType [rd] := by
      rw [AddressSpace.addReference, if_pos granted]
      exact congrArg (fun nodes => AddressSpace.mk nodes _) (List.append_nil _).symm
    have added : outcome (addReference server ⟨source, referenceType, rd.nodeId⟩) adapter =
        (.ok (), { adapter with space := adapter.space ++ linked source referenceType [rd] }) :=
      congrArg (fun space => (Except.ok (), { adapter with space })) space
    rw [outcome_forM_cons, added]
    refine (ih ?_ (fun other member => ?_) (fun other member stored => ?_) others).trans ?_
    · exact (hasNode_linked _ _ _ _ _).trans known
    · exact (hasNode_linked _ _ _ _ _).trans (there other (List.mem_cons_of_mem _ member))
    · rcases List.mem_append.mp stored with old | same
      · exact new other (List.mem_cons_of_mem _ member) old
      · have ids : other.nodeId = rd.nodeId := congrArg UaReference.target (List.mem_singleton.mp same)
        exact first (List.mem_map.mpr ⟨other, member, ids⟩)
    · dsimp only
      rw [AddressSpace.append_assoc]
      rfl

end Links

end Mapping

/-- A tree can be copied to a new folder: it is shown and its folders name what is in them,
the folder above the copy is not in it, and none of the ids of the copies is in use. -/
structure TreeFits (csManager : ControlSystemPVManager) (sourceName : UaNode → Text) (adapter : UaAdapter)
    (tree : SourceFolder) (base name description : Text) : Prop where
  shown : tree.Every (Shown csManager sourceName adapter)
  names : tree.Every SourceFolder.NamesApart
  outside : tree.Every fun folder => folder.node.nodeId ≠ dirId base
  closed : adapter.space.Closed
  sources : SourcesKnown adapter.space
  ids : FolderIdsKnown adapter
  room : Room adapter.space (dirId base)
    (folderAddition base name description ++ copies csManager sourceName (base ++ '/' :: name) tree)

def wholeCopy (csManager : ControlSystemPVManager) (sourceName : UaNode → Text) (tree : SourceFolder)
    (base name description : Text) : AddressSpace :=
  folderAddition base name description ++ copies csManager sourceName (base ++ '/' :: name) tree

private theorem wholeCopy_hangs (csManager : ControlSystemPVManager) (sourceName : UaNode → Text) (tree : SourceFolder)
    (base name description : Text) : Hangs (dirId base) (wholeCopy csManager sourceName tree base name description) :=
  (copies_hang csManager sourceName tree _).addition _ _

theorem Room.undescribed {space more : AddressSpace} {base name description : Text}
    (room : Room space (dirId base) (folderAddition base name description ++ more)) :
    Room space (dirId base) (folderAddition base name [] ++ more) where
  known := room.known
  unused node member := by
    rcases List.mem_append.mp member with own | inner
    · rw [List.mem_singleton.mp own]
      exact room.unused (newFolder base name description) (List.mem_append_left _ (List.mem_singleton_self _))
    · exact room.unused node (List.mem_append_right _ inner)
  distinct := room.distinct

/-- The nodes of the source that are linked into the copy. -/
def linkedFolders (tree : SourceFolder) : List UaNode := (tree.folders.map SourceFolder.node).take 1000

def linkedMethods (tree : SourceFolder) : List UaNode := (tree.components.filter (·.nodeClass = .method)).take 1000

def links (tree : SourceFolder) (path : Text) : AddressSpace :=
  if tree.hasMethod then
    linked (dirId path) .organizes (linkedFolders tree) ++ linked (dirId path) .hasComponent (linkedMethods tree)
  else {}

private theorem Shown.children_found {csManager : ControlSystemPVManager} {sourceName : UaNode → Text} {adapter : UaAdapter}
    {folder : SourceFolder} (shown : Shown csManager sourceName adapter folder) {rd : UaNode}
    (member : rd ∈ folder.components ++ folder.folders.map SourceFolder.node) :
    adapter.space.find? rd.nodeId = some rd := by
  rw [← shown.components, ← shown.folders] at member
  rcases List.mem_append.mp member with component | sub
  · exact (found_of_mem_browseForward component).1
  · exact (found_of_mem_browseForward sub).1

theorem Shown.ids_distinct {csManager : ControlSystemPVManager} {sourceName : UaNode → Text} {adapter : UaAdapter}
    {folder : SourceFolder} (shown : Shown csManager sourceName adapter folder) (names : folder.NamesApart) :
    ((folder.components ++ folder.folders.map SourceFolder.node).map (·.nodeId)).Nodup := by
  refine List.Nodup.map_on (fun first here second member same => ?_) names.distinct.of_map
  have found := shown.children_found here
  rw [same, shown.children_found member] at found
  exact (Option.some.inj found).symm

namespace Mapping

section Runs

variable {server : UaServer} {csManager : ControlSystemPVManager} {sourceName : UaNode → Text} {adapter : UaAdapter}
  {tree : SourceFolder} {base name description : Text}

private theorem existFolder_created {folders more : List FolderInfo} {prev folderNodeId : NodeId}
    (absent : (folders.find? fun i => i.folderName = name && i.prevFolderNodeId = prev) = none)
    (table : adapter.folderVector = folders ++ [⟨name, folderNodeId, prev⟩] ++ more) :
    adapter.existFolder prev name = folderNodeId := by
  unfold UaAdapter.existFolder
  rw [table, List.append_assoc, List.find?_append, absent, Option.none_or, List.singleton_append, List.find?_cons_of_pos]
  simp

private theorem copyFolder_room (law : AddsNewBelow server) (fits : TreeFits csManager sourceName adapter tree base name description)
    {fuel : Nat} (deep : tree.depth ≤ fuel) (destination : Text) :
    ∃ after, outcome (copyFolder server csManager fuel tree.node.nodeId (dirId base) destination name description) adapter =
        (.ok tree.hasMethod, after) ∧ Adds (wholeCopy csManager sourceName tree base name description) adapter after ∧
      after.existFolder (dirId base) name = dirId (base ++ '/' :: name) := by
  have room := fits.room.undescribed
  have new : adapter.space.hasNode (dirId (base ++ '/' :: name)) = false :=
    room.unused (newFolder base name []) (List.mem_append_left _ (List.mem_singleton_self _))
  have alone : Hangs (dirId base) (folderAddition base name []) := .single _ _ _
  obtain ⟨created, creates, adds_folder, table⟩ := createFolder_new law fits.ids room.first
  have ready : Ready csManager sourceName created tree (base ++ '/' :: name) := by
    refine ⟨shown_later fits.shown fits.closed fits.outside alone room.first adds_folder, ?_, ?_, adds_folder.ids fits.ids, ?_⟩
    · refine fits.shown.mono fun folder shown same => ?_
      rw [← same, shown.known] at new
      cases new
    · rw [adds_folder.space]
      exact alone.closed fits.closed
    · rw [adds_folder.space]
      exact room.below
  obtain ⟨copied, copies_tree, adds_copies⟩ := deepCopy_room law deep ready
  obtain ⟨after, describes, adds, same⟩ := describe_new fits.room (.inl rfl) (adds_folder.trans adds_copies)
  refine ⟨after, ?_, adds, ?_⟩
  · unfold copyFolder
    rw [outcome_bind_ok (outcome_createFolder _ _), creates]
    have filled : (dirId (base ++ '/' :: name)).isNull = false := rfl
    rw [filled]
    exact (outcome_bind_ok copies_tree _).trans (outcome_bind_ok describes _)
  · obtain ⟨more, rows⟩ := adds_copies.folders
    have grown : after.folderVector = adapter.folderVector ++ [⟨name, dirId (base ++ '/' :: name), dirId base⟩] ++ more := by
      rw [same, ← rows, table]
    exact existFolder_created (existFolder_new fits.ids new) grown

private theorem browse_methods {space : AddressSpace} {nodeId : NodeId} {components : List UaNode}
    (found : space.browseForward nodeId .hasComponent [.variable, .method] = components) :
    space.browseForward nodeId .hasComponent [.method] = components.filter (·.nodeClass = .method) := by
  rw [← found, AddressSpace.browseForward, AddressSpace.browseForward, List.filter_filterMap]
  refine List.filterMap_congr fun reference _ => ?_
  rw [Option.filter_filter]
  refine congrArg (Option.filter · (space.find? reference.target)) (funext fun node => ?_)
  simpa using Or.inr

private theorem linkFolder_room (grants : GrantsReferences server)
    (fits : TreeFits csManager sourceName adapter tree base name description) {copied : UaAdapter}
    (adds : Adds (wholeCopy csManager sourceName tree base name description) adapter copied)
    (exists_ : copied.existFolder (dirId base) name = dirId (base ++ '/' :: name)) (destination : Text) :
    ∃ after, outcome (linkFolder server tree.node.nodeId (dirId base) destination name description true) copied =
        (.ok (), after) ∧
      after.space = adapter.space ++ wholeCopy csManager sourceName tree base name description ++
        linked (dirId (base ++ '/' :: name)) .organizes (linkedFolders tree) ++
        linked (dirId (base ++ '/' :: name)) .hasComponent (linkedMethods tree) := by
  have hangs := wholeCopy_hangs csManager sourceName tree base name description
  obtain ⟨described, describes, again, -⟩ := describe_new fits.room (.inr rfl) adds
  have shown := (shown_later fits.shown fits.closed fits.outside hangs fits.room again).here
  have inside : newFolder base name description ∈ (wholeCopy csManager sourceName tree base name description).nodes :=
    List.mem_append_left _ (List.mem_singleton_self _)
  have new : adapter.space.hasNode (dirId (base ++ '/' :: name)) = false := fits.room.unused _ inside
  have there : described.space.hasNode (dirId (base ++ '/' :: name)) = true := by
    rw [again.space, AddressSpace.hasNode_append, Bool.or_eq_true]
    exact .inr (AddressSpace.hasNode_iff.mpr ⟨_, inside, rfl⟩)
  have known {rd : UaNode} (member : rd ∈ tree.components ++ tree.folders.map SourceFolder.node) :
      adapter.space.hasNode rd.nodeId = true := by
    rw [AddressSpace.hasNode, fits.shown.here.children_found member]
    rfl
  have later {rd : UaNode} (member : rd ∈ tree.components ++ tree.folders.map SourceFolder.node) :
      described.space.hasNode rd.nodeId = true := by
    rw [again.space]
    exact AddressSpace.hasNode_kept (known member)
  have unlinked {rd : UaNode} (member : rd ∈ tree.components ++ tree.folders.map SourceFolder.node)
      {referenceType : ReferenceType} (hierarchical : referenceType = .hasComponent ∨ referenceType = .organizes) :
      ⟨dirId (base ++ '/' :: name), referenceType, rd.nodeId⟩ ∉ described.space.references := by
    rw [again.space]
    intro stored
    rcases List.mem_append.mp stored with old | added
    · have source := fits.sources _ old
      rw [new] at source
      cases source
    · obtain ⟨node, copied, same⟩ := AddressSpace.hasNode_iff.mp (hangs.targets _ added hierarchical)
      have unused := fits.room.unused node copied
      rw [same, known member] at unused
      cases unused
  have distinct := fits.shown.here.ids_distinct fits.names.here
  rw [List.map_append] at distinct
  have subfolders : ∀ rd ∈ linkedFolders tree, rd ∈ tree.components ++ tree.folders.map SourceFolder.node :=
    fun rd member => List.mem_append_right _ (List.mem_of_mem_take member)
  have methods : ∀ rd ∈ linkedMethods tree, rd ∈ tree.components ++ tree.folders.map SourceFolder.node :=
    fun rd member => List.mem_append_left _ (List.mem_of_mem_filter (List.mem_of_mem_take member))
  have first := @links_added _ described grants _ .organizes (linkedFolders tree) there (fun rd member => later (subfolders rd member))
    (fun rd member => unlinked (subfolders rd member) (.inr rfl)) (distinct.of_append_right.sublist ((List.take_sublist _ _).map _))
  have second := @links_added _ { described with
      space := described.space ++ linked (dirId (base ++ '/' :: name)) .organizes (linkedFolders tree) } grants _
    .hasComponent (linkedMethods tree) ((hasNode_linked _ _ _ _ _).trans there)
    (fun rd member => (hasNode_linked _ _ _ _ _).trans (later (methods rd member))) (fun rd member stored => ?_)
    (distinct.of_append_left.sublist (((List.take_sublist _ _).trans List.filter_sublist).map _))
  · have filled : (dirId (base ++ '/' :: name)).isNull = false := rfl
    have elsewhere : ∀ reference ∈ (linked (dirId (base ++ '/' :: name)) .organizes (linkedFolders tree)).references,
        reference.source ≠ tree.node.nodeId := by
      intro reference member same
      obtain ⟨rd, -, rfl⟩ := List.mem_map.mp member
      have known := fits.shown.here.known
      rw [← same, new] at known
      cases known
    have closed : described.space.Closed := by
      rw [again.space]
      exact hangs.closed fits.closed
    have found := browse_methods shown.components
    suffices run : outcome (linkFolder server tree.node.nodeId (dirId base) destination name description true) copied =
        (.ok (), { described with
          space := (described.space ++ linked (dirId (base ++ '/' :: name)) .organizes (linkedFolders tree)) ++
            linked (dirId (base ++ '/' :: name)) .hasComponent (linkedMethods tree) }) by
      refine ⟨_, run, ?_⟩
      dsimp only
      rw [again.space]
      rfl
    unfold linkFolder
    rw [outcome_bind_ok (outcome_get copied)]
    simp only [if_true, exists_, filled, Bool.false_eq_true, if_false, pure_bind, Bool.not_false, Bool.true_and]
    rw [outcome_bind_ok describes, outcome_bind_ok (outcome_get described), outcome_bind_ok (outcome_get described),
      shown.folders]
    refine (outcome_bind_ok first _).trans ?_
    rw [outcome_bind_ok (outcome_get _)]
    dsimp only
    rw [AddressSpace.browseForward_kept closed (.inl rfl) _ elsewhere, found]
    exact second
  · rcases List.mem_append.mp stored with old | link
    · exact unlinked (methods rd member) (.inl rfl) old
    · obtain ⟨other, -, same⟩ := List.mem_map.mp link
      cases congrArg UaReference.referenceType same

end Runs

end Mapping

namespace FolderEntry

variable (entry : FolderEntry) (server : UaServer) (adapter : UaAdapter)

def placed : NodeId × UaAdapter := Mapping.enrolledDestination server (entry.recorded adapter) entry.base

/-- The name of the process variable behind a variable, as it is stored by then. -/
def storedName (rd : UaNode) : Text := ((entry.placed server adapter).2.space.sourceName rd.nodeId).getD []

/-- The entry copies a tree to a folder that is new. -/
structure CopiesTree (csManager : ControlSystemPVManager) (tree : SourceFolder) (parent : Text) : Prop where
  history : ¬ entry.HistoryMisplaced
  named : entry.folder ≠ []
  copies : entry.copyMode = "TRUE"
  sourced : entry.source ≠ []
  elsewhere : entry.source ≠ entry.path
  free : (entry.recorded adapter).space.hasNode (entry.targetNode (entry.recorded adapter)) = false
  above : (entry.placed server adapter).1 = dirId parent
  source : tree.node.nodeId = .string (rootFolderOf (entry.placed server adapter).2 ++ '/' :: entry.source ++ "Dir")
  isFolder : (entry.placed server adapter).2.space.isFolder tree.node.nodeId = true
  fits : TreeFits csManager (entry.storedName server adapter) (entry.placed server adapter).2 tree parent entry.folder
    (elementContent entry.description)

end FolderEntry

namespace Mapping

section Entries

variable {server : UaServer} (law : AddsNewBelow server) (grants : GrantsReferences server)
  {csManager : ControlSystemPVManager} {adapter : UaAdapter} {entry : FolderEntry} {tree : SourceFolder} {parent : Text}

include law grants

theorem mapSourceFolder_copies (copies : entry.CopiesTree server adapter csManager tree parent) {fuel : Nat}
    (deep : tree.depth ≤ fuel) :
    ∃ after, outcome (mapSourceFolder server csManager fuel entry (dirId parent) entry.source "TRUE" entry.base entry.folder
        (elementContent entry.description)) (entry.placed server adapter).2 = (.ok (), after) ∧
      after.space = (entry.placed server adapter).2.space ++
        wholeCopy csManager (entry.storedName server adapter) tree parent entry.folder (elementContent entry.description) ++
        links tree (parent ++ '/' :: entry.folder) := by
  have different : ¬ ((entry.base.isEmpty && decide (entry.source = entry.folder) ||
      !entry.base.isEmpty && decide (entry.source = entry.base ++ '/' :: entry.folder)) = true) := by
    have elsewhere := copies.elsewhere
    unfold FolderEntry.path at elsewhere
    intro equal
    revert elsewhere
    split
    next root => simpa [root] using equal
    next nested => simpa [nested] using equal
  have unequal : sourceAndDestinationEqual entry.source entry.base entry.folder = false := by
    unfold sourceAndDestinationEqual
    revert different
    cases entry.base.isEmpty with
    | true => simp
    | false => simp
  have isFolder := copies.isFolder
  rw [copies.source] at isFolder
  obtain ⟨copied, copies_tree, adds, existing⟩ := copyFolder_room law copies.fits deep entry.base
  unfold mapSourceFolder
  rw [if_neg different, outcome_bind_ok (outcome_get _)]
  dsimp only
  rw [outcome_bind_ok (outcome_get _), if_neg (by rw [Bool.not_eq_true', Bool.not_eq_false]; exact isFolder),
    if_neg (by rw [unequal]; decide), if_pos rfl]
  have copied_source := copies_tree
  rw [copies.source, rootFolderOf] at copied_source
  rw [outcome_bind_ok copied_source]
  unfold links
  cases found : tree.hasMethod with
  | false => exact ⟨copied, rfl, adds.space.trans (AddressSpace.append_empty _).symm⟩
  | true =>
    obtain ⟨after, linked_tree, space⟩ := linkFolder_room grants copies.fits adds existing entry.base
    rw [copies.source, rootFolderOf] at linked_tree
    exact ⟨after, linked_tree, space.trans (AddressSpace.append_assoc _ _ _)⟩

theorem buildFolder_copies (copies : entry.CopiesTree server adapter csManager tree parent) {fuel : Nat}
    (deep : tree.depth ≤ fuel) :
    ∃ after, outcome (buildFolder server csManager fuel entry) adapter = (.ok (), after) ∧
      after.space = (entry.placed server adapter).2.space ++
        wholeCopy csManager (entry.storedName server adapter) tree parent entry.folder (elementContent entry.description) ++
        links tree (parent ++ '/' :: entry.folder) := by
  have sourced : entry.source.isEmpty = false := List.isEmpty_eq_false_iff.mpr copies.sourced
  obtain ⟨after, mapped, space⟩ := mapSourceFolder_copies law grants copies deep
  refine ⟨after, ?_, space⟩
  suffices reached : outcome (placeFolder server csManager fuel entry entry.source entry.copyMode entry.base entry.folder
      (elementContent entry.description)) (entry.recorded adapter) = (.ok (), after) by
    have named : ¬ (elementContent entry.name).isEmpty = true := fun empty => copies.named (List.isEmpty_iff.mp empty)
    rw [buildFolder_eq, outcome_bind_ok (folderHistory_recorded copies.history), if_neg named]
    exact reached
  unfold placeFolder
  rw [outcome_bind_ok (outcome_get _)]
  dsimp only
  rw [entry.targetNode_eq, if_neg (by rw [copies.free]; decide), if_neg (by rw [sourced, Bool.and_false]; decide),
    outcome_bind_ok (outcome_enrollDestination _), sourced, if_pos (by rfl), copies.copies]
  have above := copies.above
  unfold FolderEntry.placed at above mapped
  rw [above]
  exact mapped

end Entries

end Mapping

section Content

variable {csManager : ControlSystemPVManager} {sourceName : UaNode → Text} {adapter : UaAdapter} {tree : SourceFolder}
  {base name description : Text}

def copiedSpace (csManager : ControlSystemPVManager) (sourceName : UaNode → Text) (adapter : UaAdapter)
    (tree : SourceFolder) (base name description : Text) : AddressSpace :=
  adapter.space ++ wholeCopy csManager sourceName tree base name description

theorem TreeFits.part (fits : TreeFits csManager sourceName adapter tree base name description) :
    PartOf (copiedSpace csManager sourceName adapter tree base name description) (dirId base)
      (wholeCopy csManager sourceName tree base name description) := .of_room fits.room fits.sources

private theorem TreeFits.holdsCopy (fits : TreeFits csManager sourceName adapter tree base name description) :
    HoldsCopy csManager sourceName adapter tree (base ++ '/' :: name)
      (copiedSpace csManager sourceName adapter tree base name description) where
  part := fits.part.below
  unused node member := fits.room.unused node (List.mem_append_right _ member)
  kept _ _ stored := AddressSpace.sourceName_kept stored

theorem TreeFits.hanging (fits : TreeFits csManager sourceName adapter tree base name description)
    (referenceType : ReferenceType) (hierarchical : referenceType ≠ .hasTypeDefinition) :
    hanging (copiedSpace csManager sourceName adapter tree base name description) (dirId (base ++ '/' :: name))
        referenceType =
      OpcUaAdapter.hanging (copies csManager sourceName (base ++ '/' :: name) tree) (dirId (base ++ '/' :: name))
        referenceType := fits.part.hanging_below hierarchical

theorem children_linked (fits : TreeFits csManager sourceName adapter tree base name description)
    (found : tree.hasMethod = true) :
    (copiedSpace csManager sourceName adapter tree base name description ++ links tree (base ++ '/' :: name)).children
        (dirId (base ++ '/' :: name)) =
      (variableNodes csManager sourceName (base ++ '/' :: name) tree.components ++ linkedMethods tree) ++
        (folderNodes (base ++ '/' :: name) tree.folders ++ linkedFolders tree) := by
  rw [links, if_pos found, ← AddressSpace.append_assoc]
  have copied := (fits.holdsCopy.linked .organizes (linkedFolders tree)).linked .hasComponent (linkedMethods tree)
  have known {rd : UaNode} (member : rd ∈ tree.components ++ tree.folders.map SourceFolder.node) :
      (copiedSpace csManager sourceName adapter tree base name description ++
        linked (dirId (base ++ '/' :: name)) .organizes (linkedFolders tree) ++
        linked (dirId (base ++ '/' :: name)) .hasComponent (linkedMethods tree)).find? rd.nodeId = some rd := by
    have there := fits.shown.here.children_found member
    rw [AddressSpace.find?_append, AddressSpace.find?_append, copiedSpace, AddressSpace.find?_append, there]
    rfl
  have objects : ∀ rd ∈ tree.folders.map SourceFolder.node, rd.nodeClass = .object := by
    intro rd member
    rw [← fits.shown.here.folders] at member
    exact List.mem_singleton.mp (found_of_mem_browseForward member).2
  have components := fits.hanging .hasComponent (by decide)
  have folders := fits.hanging .organizes (by decide)
  have apart := fits.holdsCopy.part.apart
  generalize copiedSpace csManager sourceName adapter tree base name description = space at *
  cases tree with
  | folder node inner subs =>
  obtain ⟨own_components, own_folders⟩ := hanging_copies apart
  unfold AddressSpace.children
  refine congrArg₂ (· ++ ·) (browseForward_eq ?_ (fun child member => ?_) fun child member => ?_)
    (browseForward_eq ?_ (fun child member => ?_) fun child member => ?_)
  · rw [hanging_append, hanging_append, hanging_linked, hanging_linked, if_neg (by decide), if_pos rfl, components,
      own_components, List.append_nil, List.map_append]
    rfl
  · rcases List.mem_append.mp member with copy | method
    · exact (copied.variables_found copy).1
    · exact known (List.mem_append_left _ (List.mem_of_mem_filter (List.mem_of_mem_take method)))
  · rcases List.mem_append.mp member with copy | method
    · rw [(copied.variables_found copy).2]
      exact List.mem_cons_self
    · have class_ : child.nodeClass = .method :=
        of_decide_eq_true (List.mem_filter.mp (List.mem_of_mem_take method)).2
      rw [class_]
      exact List.mem_cons_of_mem _ (List.mem_singleton_self _)
  · rw [hanging_append, hanging_append, hanging_linked, hanging_linked, if_pos rfl, if_neg (by decide), folders,
      own_folders, List.append_nil, List.map_append]
    rfl
  · rcases List.mem_append.mp member with copy | link
    · exact (copied.folders_found copy).1
    · exact known (List.mem_append_right _ (List.mem_of_mem_take link))
  · refine List.mem_singleton.mpr ?_
    rcases List.mem_append.mp member with copy | link
    · exact (copied.folders_found copy).2
    · exact objects child (List.mem_of_mem_take link)

theorem Shown.methods_eq {folder : SourceFolder} (shown : Shown csManager sourceName adapter folder) :
    folder.components.filter (·.nodeClass = .method) = folder.components.filter fun rd => !decide (rd.nodeClass = .variable) := by
  refine List.filter_congr fun rd member => ?_
  rcases (shown.found member).2 with variable_ | method
  · simp [variable_]
  · simp [method]

/-- What stands for a component of a folder: a copy of a variable, a method itself. -/
def standIn (csManager : ControlSystemPVManager) (sourceName : UaNode → Text) (path : Text) (rd : UaNode) : UaNode :=
  if rd.nodeClass = .variable then variableCopyNode csManager sourceName path rd else rd

private theorem standIns_perm {folder : SourceFolder} (shown : Shown csManager sourceName adapter folder) (path : Text) :
    (variableNodes csManager sourceName path folder.components ++ folder.components.filter (·.nodeClass = .method)).Perm
      (folder.components.map (standIn csManager sourceName path)) := by
  have variables_ : variableNodes csManager sourceName path folder.components =
      (folder.components.filter (·.nodeClass = .variable)).map (standIn csManager sourceName path) := by
    refine List.map_congr_left fun rd member => ?_
    exact (if_pos (of_decide_eq_true (List.mem_filter.mp member).2)).symm
  have methods : folder.components.filter (·.nodeClass = .method) =
      (folder.components.filter fun rd => !decide (rd.nodeClass = .variable)).map (standIn csManager sourceName path) := by
    rw [shown.methods_eq]
    refine ((List.map_congr_left fun rd member => ?_).trans (List.map_id _)).symm
    exact if_neg (by simpa using (List.mem_filter.mp member).2)
  rw [variables_, methods, ← List.map_append]
  exact (List.filter_append_perm _ _).map _

theorem represents_linked_iff (fits : TreeFits csManager sourceName adapter tree base name description)
    (found : tree.hasMethod = true) :
    Represents (copiedSpace csManager sourceName adapter tree base name description ++ links tree (base ++ '/' :: name)) tree
        (dirId (base ++ '/' :: name)) ↔
      tree.folders = [] ∧ (tree.components.filter (·.nodeClass = .method)).length ≤ 1000 := by
  have children := children_linked fits found
  have copied : HoldsCopy csManager sourceName adapter tree (base ++ '/' :: name)
      (copiedSpace csManager sourceName adapter tree base name description ++ links tree (base ++ '/' :: name)) := by
    rw [links, if_pos found, ← AddressSpace.append_assoc]
    exact (fits.holdsCopy.linked _ _).linked _ _
  have shown := fits.shown.here
  have names := fits.names.here
  generalize copiedSpace csManager sourceName adapter tree base name description ++ links tree (base ++ '/' :: name) = space
    at *
  cases tree with
  | folder node components folders =>
  simp only [SourceFolder.components, SourceFolder.folders] at children ⊢
  rw [Represents, children]
  constructor
  · rintro ⟨distinct, parts, subs, perm, stands, each⟩
    have none : folders = [] := by
      cases folders with
      | nil => rfl
      | cons sub rest =>
        -- the copy of the first folder and the link to it go by one name
        simp only [List.map_append] at distinct
        have clash := List.disjoint_of_nodup_append distinct.of_append_right
        refine (clash List.mem_cons_self ?_).elim
        refine List.mem_map.mpr ⟨sub.node, List.mem_cons_self, ?_⟩
        exact (names.folders sub List.mem_cons_self).symm
    subst none
    refine ⟨rfl, ?_⟩
    have whole : components.length = parts.length := stands.length_eq
    have none : subs.length = 0 := each.length
    have counted : (components.filter (·.nodeClass = .variable)).length +
        min 1000 (components.filter (·.nodeClass = .method)).length = parts.length + subs.length := by
      have lengths := perm.length_eq
      rw [List.length_append, List.length_append, List.length_append, variableNodes, List.length_map, linkedMethods,
        List.length_take] at lengths
      exact lengths.trans List.length_append
    have split : components.length = (components.filter (·.nodeClass = .variable)).length +
        (components.filter (·.nodeClass = .method)).length := by
      have methods : components.filter (·.nodeClass = .method) = _ := shown.methods_eq
      rw [methods]
      exact List.length_eq_length_filter_add _
    omega
  · rintro ⟨rfl, few⟩
    have all : linkedMethods (.folder node components []) = components.filter (·.nodeClass = .method) :=
      List.take_of_length_le few
    have perm := standIns_perm shown (base ++ '/' :: name)
    simp only [SourceFolder.components] at perm
    have rest : folderNodes (base ++ '/' :: name) [] ++ linkedFolders (.folder node components []) = [] := rfl
    rw [all, rest, List.append_nil]
    have named : ∀ rd ∈ components, (standIn csManager sourceName (base ++ '/' :: name) rd).browseName = rd.browseName := by
      intro rd member
      unfold standIn
      split
      next variable_ => exact names.components rd member variable_
      next => rfl
    refine ⟨?_, components.map (standIn csManager sourceName (base ++ '/' :: name)), [], by rw [List.append_nil]; exact perm, ?_, ?_⟩
    · have distinct := names.distinct
      have same : (components.map (standIn csManager sourceName (base ++ '/' :: name))).map (·.browseName) =
          components.map (·.browseName) := by
        rw [List.map_map]
        exact List.map_congr_left named
      rw [(perm.map _).nodup_iff, same]
      simpa [SourceFolder.components, SourceFolder.folders] using distinct
    · rw [List.forall₂_map_right_iff, List.forall₂_same]
      intro rd member
      unfold standIn
      split
      next variable_ => exact copied.stands shown names member variable_
      next other =>
        have method := (shown.found member).2.resolve_left other
        exact ⟨rfl, fun _ => rfl, fun neither => absurd method neither⟩
    · rw [RepresentsEach]

theorem represents_copy_iff (fits : TreeFits csManager sourceName adapter tree base name description) :
    Represents (copiedSpace csManager sourceName adapter tree base name description ++ links tree (base ++ '/' :: name)) tree
        (dirId (base ++ '/' :: name)) ↔
      tree.hasMethod = false ∨ tree.folders = [] ∧ (tree.components.filter (·.nodeClass = .method)).length ≤ 1000 := by
  cases found : tree.hasMethod with
  | false =>
    have same : links tree (base ++ '/' :: name) = {} := if_neg (by rw [found]; exact Bool.false_ne_true)
    rw [same, AddressSpace.append_empty]
    exact iff_of_true (fits.holdsCopy.represents (fun _ hierarchical => fits.hanging _ hierarchical) fits.shown fits.names
      found) (.inl rfl)
  | true => exact (represents_linked_iff fits found).trans (by simp)

end Content

private theorem FolderIdsKnown.of_baseNames {adapter : UaAdapter}
    (known : ∀ i ∈ adapter.folderVector,
      adapter.space.hasNode (dirId (i.prevFolderNodeId.baseName ++ '/' :: i.folderName)) = true) :
    FolderIdsKnown adapter := by
  intro i member path same
  have name : i.prevFolderNodeId.baseName = path := (congrArg NodeId.baseName same).trans (cutDir_append path)
  exact name ▸ known i member

/-- A folder with a folder and a variable in it, copied beside itself. -/
def copiedBeside : FolderEntry := { sourceName := some "a", copy := some "true", name := some "c" }

def besideTree : SourceFolder :=
  .folder ⟨.string "r/aDir", .object, "a", "a", [], none⟩ []
    [.folder ⟨.string "r/a/sDir", .object, "s", "s", [], none⟩ [⟨.string "r/a/s/v", .variable, "v", "v", [], none⟩] []]

theorem copiedBeside_fits : TreeFits nestedFolder (copiedBeside.storedName belowServer elsewhereAdapter)
    (copiedBeside.placed belowServer elsewhereAdapter).2 besideTree "r" "c" [] where
  shown := by
    refine .folder ⟨by decide +kernel, by decide +kernel, by decide +kernel, fun rd member => ?_⟩ fun sub member => ?_
    · cases member
    obtain rfl := List.mem_singleton.mp member
    refine .folder ⟨by decide +kernel, by decide +kernel, by decide +kernel, fun rd member _ => ?_⟩ fun sub member => ?_
    · obtain rfl := List.mem_singleton.mp member
      exact ⟨by decide, by decide +kernel, ⟨"/a/s/v", .int32, true, 1, []⟩, by decide +kernel, by decide +kernel⟩
    · cases member
  names := by
    refine .folder ⟨by decide, by decide, by decide⟩ fun sub member => ?_
    obtain rfl := List.mem_singleton.mp member
    exact .folder ⟨by decide, by decide, by decide⟩ fun sub member => absurd member List.not_mem_nil
  outside := by
    refine .folder (by decide) fun sub member => ?_
    obtain rfl := List.mem_singleton.mp member
    exact .folder (by decide) fun sub member => absurd member List.not_mem_nil
  closed := by
    unfold AddressSpace.Closed
    decide +kernel
  sources := by
    unfold SourcesKnown
    decide +kernel
  ids := .of_baseNames (by decide +kernel)
  room := ⟨by decide +kernel, by decide +kernel, by decide +kernel⟩

/-- A folder with a method, and a folder with a variable in it. -/
def methodFolder : ControlSystemPVManager where
  getAllProcessVariables := [⟨"/a/m", .void, true, 1, []⟩, ⟨"/a/s/v", .int32, true, 1, []⟩]
  getProcessVariable name :=
    if name = "a/m" then some ⟨"/a/m", .void, true, 1, []⟩
    else if name = "a/s/v" then some ⟨"/a/s/v", .int32, true, 1, []⟩
    else none
  finds := by decide

def methodTree : SourceFolder :=
  .folder ⟨.string "r/aDir", .object, "a", "a", [], none⟩ [⟨.string "r/a/m", .method, "m", "m", [], none⟩]
    [.folder ⟨.string "r/a/sDir", .object, "s", "s", [], none⟩ [⟨.string "r/a/s/v", .variable, "v", "v", [], none⟩] []]

def newDestination : FolderEntry := { name := some "d" }

def copiedInto : FolderEntry := { sourceName := some "a", copy := some "true", destination := some "d", name := some "c" }

def methodStart : UaAdapter :=
  mappedAdapter belowServer methodFolder { rootFolder := "r" } "/" false { folders := [newDestination, copiedInto] }

/-- The adapter once the destination is there. -/
def methodAdapter : UaAdapter := (outcome (Mapping.buildFolder belowServer methodFolder 2 newDestination) methodStart).2

private theorem methodAdapter_reached :
    Reaches (Mapping.buildFolder belowServer methodFolder 2) methodStart [newDestination] methodAdapter := by
  have made : (outcome (Mapping.buildFolder belowServer methodFolder 2 newDestination) methodStart).1 = .ok () := by
    decide +kernel
  exact reaches_cons.mpr ⟨methodAdapter, Prod.ext made rfl, rfl⟩

private theorem copiedInto_fits : TreeFits methodFolder (copiedInto.storedName belowServer methodAdapter)
    (copiedInto.placed belowServer methodAdapter).2 methodTree "r/d" "c" [] where
  shown := by
    refine .folder ⟨by decide +kernel, by decide +kernel, by decide +kernel, fun rd member variable_ => ?_⟩ fun sub member => ?_
    · obtain rfl := List.mem_singleton.mp member
      cases variable_
    obtain rfl := List.mem_singleton.mp member
    refine .folder ⟨by decide +kernel, by decide +kernel, by decide +kernel, fun rd member _ => ?_⟩ fun sub member => ?_
    · obtain rfl := List.mem_singleton.mp member
      exact ⟨by decide, by decide +kernel, ⟨"/a/s/v", .int32, true, 1, []⟩, by decide +kernel, by decide +kernel⟩
    · cases member
  names := by
    refine .folder ⟨by decide, by decide, by decide⟩ fun sub member => ?_
    obtain rfl := List.mem_singleton.mp member
    exact .folder ⟨by decide, by decide, by decide⟩ fun sub member => absurd member List.not_mem_nil
  outside := by
    refine .folder (by decide) fun sub member => ?_
    obtain rfl := List.mem_singleton.mp member
    exact .folder (by decide) fun sub member => absurd member List.not_mem_nil
  closed := by
    unfold AddressSpace.Closed
    decide +kernel
  sources := by
    unfold SourcesKnown
    decide +kernel
  ids := .of_baseNames (by decide +kernel)
  room := ⟨by decide +kernel, by decide +kernel, by decide +kernel⟩

private theorem copiedInto_copies : copiedInto.CopiesTree belowServer methodAdapter methodFolder methodTree "r/d" := by
  refine ⟨?_, by decide, by decide, by decide, by decide, by decide +kernel, by decide +kernel, by decide +kernel,
    by decide +kernel, copiedInto_fits⟩
  rintro ⟨history, -⟩
  exact absurd history (by decide)

end OpcUaAdapter
