import OpcUaAdapter.Proofs.FolderGraph
import OpcUaAdapter.Proofs.HistorizingTable
import OpcUaAdapter.Proofs.RootFolder

/-! The folder entries of the map file and the graph of the Organizes references. An entry
that links a folder adds references back to what was there; while the folder it links into
cannot be reached from its source, they close no cycle. -/

namespace OpcUaAdapter

open Effects

theorem reference_of_mem_browseForward {space : AddressSpace} {source : NodeId} {referenceType : ReferenceType}
    {nodeClasses : List NodeClass} {rd : UaNode} (member : rd ∈ space.browseForward source referenceType nodeClasses) :
    ⟨source, referenceType, rd.nodeId⟩ ∈ space.references := by
  obtain ⟨⟨from_, type, target⟩, kept, found⟩ := List.mem_filterMap.mp member
  obtain ⟨stored, same⟩ := List.mem_filter.mp kept
  obtain ⟨rfl, rfl⟩ : from_ = source ∧ type = referenceType := by simpa using same
  obtain ⟨there, -⟩ := Option.filter_eq_some_iff.mp found
  obtain rfl : rd.nodeId = target := by simpa using List.find?_some there
  exact stored

namespace Mapping

section Links

variable {server : UaServer} {adapter : UaAdapter}

theorem linkSubfolders_ordered (ordered : Ordered adapter) {copyRoot : NodeId}
    (source : adapter.space.hasNode copyRoot = true ∨ ¬ OrganizedId copyRoot) {subfolders : List UaNode}
    (each : ∀ rd ∈ subfolders, adapter.space.hasNode rd.nodeId = true ∧ OrganizedId rd.nodeId ∧
      ¬ Relation.ReflTransGen adapter.space.OrganizesReference rd.nodeId copyRoot) :
    Ordered (outcome (subfolders.forM fun rd => addReference server ⟨copyRoot, .organizes, rd.nodeId⟩) adapter).2 := by
  induction subfolders generalizing adapter with
  | nil => exact ordered
  | cons rd subfolders ih =>
    rw [outcome_forM_cons]
    change Ordered (outcome (subfolders.forM _)
      { adapter with space := adapter.space.addReference server ⟨copyRoot, .organizes, rd.nodeId⟩ }).2
    by_cases adds : server.addsReference adapter.space ⟨copyRoot, .organizes, rd.nodeId⟩ = true
    · obtain ⟨known, named, apart⟩ := each rd List.mem_cons_self
      have references (first last : NodeId) :
          (adapter.space.addReference server ⟨copyRoot, .organizes, rd.nodeId⟩).OrganizesReference first last ↔
            adapter.space.OrganizesReference first last ∨ first = copyRoot ∧ last = rd.nodeId := by
        simp [AddressSpace.addReference, adds, AddressSpace.OrganizesReference]
      have nodes (nodeId : NodeId) :
          (adapter.space.addReference server ⟨copyRoot, .organizes, rd.nodeId⟩).hasNode nodeId =
            adapter.space.hasNode nodeId := by
        rw [AddressSpace.addReference, if_pos adds]
        rfl
      generalize adapter.space.addReference server ⟨copyRoot, .organizes, rd.nodeId⟩ = linked at *
      apply @ih { adapter with space := linked }
      · refine ⟨?_, ?_, ?_, fun i member filled => (nodes _).trans (ordered.table i member filled)⟩
        · exact (ordered.acyclic.insert apart).mono fun first last => (references first last).mp
        · intro first last reference
          rw [nodes]
          rcases (references first last).mp reference with old | ⟨rfl, -⟩
          · exact ordered.sources first last old
          · exact source
        · intro first last reference
          rw [nodes]
          rcases (references first last).mp reference with old | ⟨-, rfl⟩
          · exact ordered.targets first last old
          · exact ⟨known, named⟩
      · rw [nodes]
        exact source
      · intro other member
        obtain ⟨other_known, other_named, other_apart⟩ := each other (List.mem_cons_of_mem _ member)
        refine ⟨(nodes _).trans other_known, other_named, fun walk => ?_⟩
        rcases Relation.reflTransGen_iff_eq_or_transGen.mp walk with same | walk
        · exact other_apart (same ▸ .refl)
        · have old_walk := Relation.TransGen.mono (fun first last => (references first last).mp) _ _ walk
          rcases transGen_insert old_walk with old | ⟨before, -⟩
          · exact other_apart old.to_reflTransGen
          · exact other_apart before
    · rw [AddressSpace.addReference, if_neg adds]
      exact ih ordered source fun other member => each other (List.mem_cons_of_mem _ member)

theorem linkFrom_ordered (ordered : Ordered adapter) {copyRoot sourceFolderId : NodeId}
    (known : adapter.space.hasNode copyRoot = true ∨ ¬ OrganizedId copyRoot)
    (apart : ¬ Relation.TransGen adapter.space.OrganizesReference sourceFolderId copyRoot) (count : Nat) :
    Ordered (outcome (((adapter.space.browseForward sourceFolderId .organizes [.object]).take count).forM fun rd =>
      addReference server ⟨copyRoot, .organizes, rd.nodeId⟩) adapter).2 := by
  refine linkSubfolders_ordered ordered known fun rd member => ?_
  have first : adapter.space.OrganizesReference sourceFolderId rd.nodeId :=
    reference_of_mem_browseForward (List.mem_of_mem_take member)
  obtain ⟨there, named⟩ := ordered.targets _ _ first
  exact ⟨there, named, fun rest => apart (Relation.TransGen.head' first rest)⟩

/-- The folder that is linked into: an id without a node where none was created. -/
def linkedFolder (rootFolder : Text) (created : NodeId) (destination folder : Text) : NodeId :=
  if !created.isNull then created
  else if destination.isEmpty then .string (rootFolder ++ '/' :: folder)
  else .string (rootFolder ++ '/' :: destination ++ '/' :: folder)

private theorem spread_ordered {α : Type} (ordered : Ordered adapter) {effect : Mapping α} (spreads : Keeps Spreads effect) :
    Ordered (outcome effect adapter).2 := (spreads adapter ordered).1

theorem ordered_bind {α β : Type} {effect : Mapping α} {next : α → Mapping β} (ordered : Ordered adapter)
    (spreads : Keeps Spreads effect)
    (rest : ∀ value after, outcome effect adapter = (.ok value, after) → Ordered after → Extends adapter after →
      Ordered (outcome (next value) after).2) :
    Ordered (outcome (effect >>= next) adapter).2 := by
  obtain ⟨kept, grown⟩ := spreads adapter ordered
  rw [outcome_bind]
  rcases reached : outcome effect adapter with ⟨_ | value, after⟩
  · rw [reached] at kept
    exact kept
  · rw [reached] at kept grown
    exact rest value after reached kept grown

theorem ordered_then {α β : Type} {effect : Mapping α} {next : α → Mapping β}
    (ordered : Ordered (outcome effect adapter).2) (spreads : ∀ value, Keeps Spreads (next value)) :
    Ordered (outcome (effect >>= next) adapter).2 := by
  rw [outcome_bind]
  rcases reached : outcome effect adapter with ⟨_ | value, after⟩
  · rw [reached] at ordered
    exact ordered
  · rw [reached] at ordered
    exact (spreads value after ordered).1

/-- A folder that can be linked into from a source. -/
structure Linkable (adapter : UaAdapter) (sourceFolderId copyRoot : NodeId) : Prop where
  known : adapter.space.hasNode copyRoot = true ∨ ¬ OrganizedId copyRoot
  apart : ¬ Relation.TransGen adapter.space.OrganizesReference sourceFolderId copyRoot

theorem Linkable.unreached {sourceFolderId copyRoot : NodeId} (ordered : Ordered adapter)
    (other : ¬ OrganizedId copyRoot) : Linkable adapter sourceFolderId copyRoot := by
  refine ⟨.inr other, fun walk => ?_⟩
  obtain ⟨_, _, last⟩ := Relation.TransGen.tail'_iff.mp walk
  exact other (ordered.targets _ _ last).2

theorem Linkable.later {after : UaAdapter} {sourceFolderId copyRoot : NodeId} (ordered : Ordered adapter)
    (linkable : Linkable adapter sourceFolderId copyRoot) (later : Ordered after) (grown : Extends adapter after) :
    Linkable after sourceFolderId copyRoot := by
  rcases linkable.known with known | other
  · exact ⟨.inl (grown.nodes _ known), fun walk => linkable.apart (grown.walk ordered later known walk)⟩
  · exact .unreached later other

private theorem linkFolder_ordered (law : AddsBelow server) (ordered : Ordered adapter)
    {sourceFolderId folderPathNodeId : NodeId} {destination folder : Text} {foundMethod : Bool} (description : Text)
    (existing : NodeId) (existing_eq : existing = if foundMethod then adapter.existFolder folderPathNodeId folder else .null)
    (target : ∀ created after,
      outcome (if existing.isNull then createFolder server folderPathNodeId folder else pure existing) adapter =
        (.ok created, after) →
      Linkable after sourceFolderId (linkedFolder (rootFolderOf after) created destination folder)) :
    Ordered (outcome (linkFolder server sourceFolderId folderPathNodeId destination folder description foundMethod)
      adapter).2 := by
  have := serverSteps_spreads law
  unfold linkFolder
  rw [outcome_bind_ok (outcome_get adapter)]
  dsimp only
  rw [← existing_eq]
  refine ordered_bind ordered (Keeps.ite (createFolder_keeps server _ _) (Keeps.pure _))
    fun created linked reached in_order _ => ?_
  have linkable := target created linked reached
  refine ordered_bind in_order (when_keeps (writeDescription_keeps _ _) _) fun _ described written later grown => ?_
  have root : rootFolderOf described = rootFolderOf linked := by
    have same := KeepsRoot.same (when_keeps (writeDescription_keeps created description)
      (!created.isNull && !description.isEmpty)) linked
    rw [written] at same
    exact same
  rw [outcome_bind_ok (outcome_get described), outcome_bind_ok (outcome_get described)]
  rw [← root] at linkable
  have linkable := linkable.later in_order later grown
  have linked_order := @linkFrom_ordered server _ later _ _ linkable.known linkable.apart 1000
  have components : Keeps Spreads (get >>= fun adapter : UaAdapter =>
      ((adapter.space.browseForward sourceFolderId .hasComponent
        (if foundMethod then [.method] else [.variable, .method])).take 1000).forM fun rd =>
          addReference server ⟨linkedFolder (rootFolderOf described) created destination folder, .hasComponent, rd.nodeId⟩) :=
    Keeps.read fun _ => Keeps.forM fun _ _ => addComponent_keeps server _ _
  exact ordered_then linked_order fun _ => components

/-- The folder an entry goes to is there, neither the source nor below it, and so is a folder
of the entry's name in it; a name like a folder's node id is new there and can be created. -/
structure TargetApart (server : UaServer) (adapter : UaAdapter) (sourceFolderId base : NodeId) (folder : Text) :
    Prop where
  known : adapter.space.hasNode base = true
  apart : ¬ Relation.ReflTransGen adapter.space.OrganizesReference sourceFolderId base
  existing : (adapter.existFolder base folder).isNull = false →
    ¬ Relation.TransGen adapter.space.OrganizesReference sourceFolderId (adapter.existFolder base folder)
  named : ("Dir" : Text) <:+ folder →
    (∀ i ∈ adapter.folderVector, i.folderName = folder → i.prevFolderNodeId ≠ base) ∧
      (adapter.createFolder server base folder).1.isNull = false

theorem linkedFolder_unreached {created : NodeId} (null : created.isNull = true) (rootFolder destination : Text)
    {folder : Text} (plain : ¬ ("Dir" : Text) <:+ folder) :
    ¬ OrganizedId (linkedFolder rootFolder created destination folder) := by
  have other (front : Text) : ¬ OrganizedId (.string (front ++ '/' :: folder)) := by
    rintro ⟨text, same, dir | slash⟩
    · obtain rfl := NodeId.string.inj same
      rcases List.suffix_or_suffix_of_suffix dir (List.suffix_append front ('/' :: folder)) with inside | inside
      · rcases List.suffix_cons_iff.mp inside with same | inside
        · exact absurd same (by simp)
        · exact plain inside
      · have : '/' ∈ ("Dir" : Text) := inside.subset List.mem_cons_self
        exact absurd this (by decide)
    · obtain rfl := NodeId.string.inj same
      exact slash (by simp)
  unfold linkedFolder
  rw [null]
  simp only [Bool.not_true, Bool.false_eq_true, if_false]
  split
  · exact other rootFolder
  · have text : rootFolder ++ '/' :: destination ++ '/' :: folder = (rootFolder ++ '/' :: destination) ++ '/' :: folder := by
      simp
    exact text ▸ other _

theorem createFolder_linkable (law : AddsBelow server) (ordered : Ordered adapter) {sourceFolderId base : NodeId}
    (known : adapter.space.hasNode base = true)
    (apart : ¬ Relation.ReflTransGen adapter.space.OrganizesReference sourceFolderId base) (destination : Text)
    {folder : Text} (named : ("Dir" : Text) <:+ folder → (adapter.createFolder server base folder).1.isNull = false) :
    Linkable (adapter.createFolder server base folder).2 sourceFolderId
      (linkedFolder (rootFolderOf (adapter.createFolder server base folder).2)
        (adapter.createFolder server base folder).1 destination folder) := by
  obtain ⟨later, grown⟩ := createFolder_spreads law adapter base folder [] ordered
  cases created : (adapter.createFolder server base folder).1.isNull with
  | true => exact .unreached later (linkedFolder_unreached created _ _ fun dir => by simp [named dir] at created)
  | false =>
    obtain ⟨node, grants, nodeId, space, -, -⟩ := createFolder_created created
    have target : linkedFolder (rootFolderOf (adapter.createFolder server base folder).2)
        (adapter.createFolder server base folder).1 destination folder = node.nodeId := by
      rw [linkedFolder, created, nodeId]
      rfl
    rw [target]
    refine ⟨.inl ?_, fun walk => ?_⟩
    · rw [space]
      exact (addNode_nodes adapter node base .organizes (some folderType) grants node.nodeId).mpr (.inr rfl)
    · obtain ⟨parent, way, last⟩ := Relation.TransGen.tail'_iff.mp walk
      rw [space, addNode_references adapter node base .organizes (some folderType) grants] at last
      rcases last with old | ⟨⟨rfl, -⟩, -⟩
      · have unused := (law _ _ _ grants).1
        rw [(ordered.targets _ _ old).1] at unused
        cases unused
      · rcases Relation.reflTransGen_iff_eq_or_transGen.mp way with rfl | way
        · exact apart .refl
        · exact apart (grown.walk ordered later known way).to_reflTransGen

theorem existFolder_eq (base : NodeId) (folder : Text) :
    adapter.existFolder base folder =
      ((adapter.folderVector.find? fun i => i.folderName = folder && i.prevFolderNodeId = base).map
        FolderInfo.folderNodeId).getD .null := by
  unfold UaAdapter.existFolder
  cases adapter.folderVector.find? _ with
  | none => rfl
  | some i => rfl

theorem existing_after_copy (law : AddsBelow server) (ordered : Ordered adapter) {sourceFolderId base : NodeId}
    (filled : base.isNull = false) {folder : Text} (target : TargetApart server adapter sourceFolderId base folder) {after : UaAdapter}
    (later : Ordered after) (grown : Extends (adapter.createFolder server base folder).2 after) :
    (after.existFolder base folder).isNull = false ∧ Linkable after sourceFolderId (after.existFolder base folder) ∨
      (after.existFolder base folder).isNull = true ∧ ¬ ("Dir" : Text) <:+ folder := by
  obtain ⟨middle, first⟩ := createFolder_spreads law adapter base folder [] ordered
  obtain ⟨behind, table⟩ := grown.table
  cases listed : adapter.folderVector.find? fun i => i.folderName = folder && i.prevFolderNodeId = base with
  | some i =>
    -- the entry that was found before is found again
    have same : after.existFolder base folder = adapter.existFolder base folder := by
      obtain ⟨new, front⟩ := first.table
      rw [existFolder_eq, existFolder_eq, ← table, ← front, List.append_assoc, List.find?_append, listed]
      rfl
    rw [same]
    cases null : (adapter.existFolder base folder).isNull with
    | true =>
      refine .inr ⟨rfl, fun dir => ?_⟩
      have matches_ := List.find?_some listed
      simp only [Bool.and_eq_true, decide_eq_true_eq] at matches_
      exact (target.named dir).1 i (List.mem_of_find?_eq_some listed) matches_.1 matches_.2
    | false =>
      have known : adapter.space.hasNode (adapter.existFolder base folder) = true := by
        rw [existFolder_eq, listed] at null ⊢
        exact ordered.table i (List.mem_of_find?_eq_some listed) null
      have linkable : Linkable adapter sourceFolderId (adapter.existFolder base folder) :=
        ⟨.inl known, target.existing null⟩
      exact .inl ⟨rfl, linkable.later ordered later (first.trans grown)⟩
  | none =>
    have absent : (adapter.existFolder base folder).isNull = true := by
      rw [existFolder_eq, listed]
      rfl
    have entered : (adapter.createFolder server base folder).2.folderVector =
        adapter.folderVector ++ [⟨folder, (adapter.createFolder server base folder).1, base⟩] := by
      simp only [UaAdapter.createFolder, filled, absent, Bool.false_eq_true, if_false, if_true]
      rfl
    have same : after.existFolder base folder = (adapter.createFolder server base folder).1 := by
      rw [existFolder_eq, ← table, entered, List.append_assoc, List.find?_append, listed]
      simp
    rw [same]
    cases null : (adapter.createFolder server base folder).1.isNull with
    | true => exact .inr ⟨rfl, fun dir => by simp [(target.named dir).2] at null⟩
    | false =>
      have linkable := createFolder_linkable law ordered target.known target.apart [] fun dir => (target.named dir).2
      rw [linkedFolder, null] at linkable
      exact .inl ⟨rfl, linkable.later middle later grown⟩

theorem copyFolder_spreads (law : AddsBelow server) (csManager : ControlSystemPVManager) (fuel : Nat)
    (sourceFolderId base : NodeId) (destination folder description : Text) :
    ∃ rest : NodeId → Mapping Bool,
      copyFolder server csManager fuel sourceFolderId base destination folder description =
        createFolder server base folder >>= rest ∧ ∀ created, Keeps Spreads (rest created) := by
  have := serverSteps_spreads law
  refine ⟨_, rfl, fun created => ?_⟩
  refine Keeps.bind (Keeps.ite ?_ (Keeps.pure _)) fun copyRoot => ?_
  · unfold existingDestination
    refine Keeps.bind (note_keeps _) fun _ => Keeps.ite (Keeps.read fun _ => Keeps.pure _) ?_
    refine Keeps.bind (Keeps.modify fun _ => ?_) fun _ => Keeps.read fun _ => Keeps.pure _
    exact .of_same (fun _ => rfl) (fun _ _ => .rfl) rfl
  · refine Keeps.bind (deepCopyHierarchicalLayer_keeps server csManager fuel _ _) fun found => ?_
    exact Keeps.bind (when_keeps (writeDescription_keeps _ _) _) fun _ => Keeps.pure _

theorem linkOnly_ordered (law : AddsBelow server) (ordered : Ordered adapter) {sourceFolderId base : NodeId}
    {folder : Text} (target : TargetApart server adapter sourceFolderId base folder) (destination description : Text) :
    Ordered (outcome (linkFolder server sourceFolderId base destination folder description false) adapter).2 := by
  refine linkFolder_ordered law ordered description .null rfl fun created after reached => ?_
  obtain ⟨rfl, rfl⟩ : (adapter.createFolder server base folder).1 = created ∧
      (adapter.createFolder server base folder).2 = after := by
    have null : NodeId.null.isNull = true := rfl
    rw [if_pos null, outcome_createFolder] at reached
    exact ⟨Except.ok.inj (Prod.mk.inj reached).1, (Prod.mk.inj reached).2⟩
  exact createFolder_linkable law ordered target.known target.apart destination fun dir => (target.named dir).2

theorem linkMethods_ordered (law : AddsBelow server) (ordered : Ordered adapter) {sourceFolderId base : NodeId}
    (filled : base.isNull = false) {folder : Text} (target : TargetApart server adapter sourceFolderId base folder)
    {after : UaAdapter} (later : Ordered after) (grown : Extends (adapter.createFolder server base folder).2 after)
    (destination description : Text) :
    Ordered (outcome (linkFolder server sourceFolderId base destination folder description true) after).2 := by
  obtain ⟨-, first⟩ := createFolder_spreads law adapter base folder [] ordered
  have all := first.trans grown
  refine linkFolder_ordered law later description (after.existFolder base folder) rfl fun created last reached => ?_
  rcases existing_after_copy law ordered filled target later grown with ⟨present, linkable⟩ | ⟨absent, plain⟩
  · obtain ⟨rfl, rfl⟩ : after.existFolder base folder = created ∧ after = last := by
      rw [if_neg (by simp [present])] at reached
      exact ⟨Except.ok.inj (Prod.mk.inj reached).1, (Prod.mk.inj reached).2⟩
    rw [linkedFolder, present]
    exact linkable
  · obtain ⟨rfl, rfl⟩ : (after.createFolder server base folder).1 = created ∧
        (after.createFolder server base folder).2 = last := by
      rw [if_pos absent, outcome_createFolder] at reached
      exact ⟨Except.ok.inj (Prod.mk.inj reached).1, (Prod.mk.inj reached).2⟩
    refine createFolder_linkable law later (all.nodes _ target.known) (fun way => ?_) destination fun dir => absurd dir plain
    rcases Relation.reflTransGen_iff_eq_or_transGen.mp way with same | way
    · exact target.apart (same ▸ .refl)
    · exact target.apart (all.walk ordered later target.known way).to_reflTransGen

private theorem mapSourceFolder_ordered (law : AddsBelow server) (csManager : ControlSystemPVManager) (fuel : Nat)
    (ordered : Ordered adapter) (entry : FolderEntry) {base : NodeId} (filled : base.isNull = false)
    (sourceName copy destination folder description : Text)
    (target : sourceName ≠ (if destination.isEmpty then folder else destination ++ '/' :: folder) →
      adapter.space.isFolder (.string (rootFolderOf adapter ++ '/' :: sourceName ++ "Dir")) = true →
        TargetApart server adapter (.string (rootFolderOf adapter ++ '/' :: sourceName ++ "Dir")) base folder) :
    Ordered (outcome (mapSourceFolder server csManager fuel entry base sourceName copy destination folder description)
      adapter).2 := by
  have raised (errorMessage : Text) : Ordered (outcome (raiseError errorMessage "Skipping Folder." entry.line) adapter).2 :=
    spread_ordered ordered (raiseError_keeps _ _ _)
  unfold mapSourceFolder
  split
  next => exact raised _
  next elsewhere =>
    rw [outcome_bind_ok (outcome_get adapter), outcome_bind_ok (outcome_get adapter)]
    split
    next => exact raised _
    next source =>
      split
      next => exact raised _
      next =>
        have target := target (by
          split
          next empty => simpa [empty] using elsewhere
          next nested => simpa [nested] using elsewhere) (by simpa [rootFolderOf] using source)
        by_cases copies : copy = "TRUE"
        · rw [if_pos copies]
          have copied := copyFolder_spreads law csManager fuel
            (.string (rootFolderOf adapter ++ '/' :: sourceName ++ "Dir")) base destination folder description
          rw [rootFolderOf] at copied target
          obtain ⟨rest, split, spreads⟩ := copied
          obtain ⟨middle, -⟩ := createFolder_spreads law adapter base folder [] ordered
          have kept := spreads (adapter.createFolder server base folder).1 _ middle
          change Ordered (outcome (copyFolder server csManager fuel _ base destination folder description >>= _) adapter).2
          rw [outcome_bind, split, outcome_bind_ok (outcome_createFolder base folder)]
          revert kept
          rcases outcome (rest (adapter.createFolder server base folder).1) (adapter.createFolder server base folder).2
            with ⟨_ | found, after⟩
          · exact And.left
          · rintro ⟨later, grown⟩
            cases found with
            | false =>
              have skipped (effect : Mapping Unit) : when (decide (copy ≠ "TRUE") || false) effect = pure () := by
                simp [copies, when]
              dsimp only
              rw [skipped]
              exact later
            | true =>
              dsimp only
              rw [Bool.or_true]
              exact linkMethods_ordered law ordered filled target later grown destination description
        · rw [if_neg copies]
          have linked (effect : Mapping Unit) : when (decide (copy ≠ "TRUE") || false) effect = effect := by
            rw [decide_eq_true copies]
            rfl
          change Ordered (outcome (when (decide (copy ≠ "TRUE") || false) _) adapter).2
          rw [linked]
          exact linkOnly_ordered law ordered target destination description

/-- An entry with a name and a source whose checks are passed, so that its source is mapped. -/
structure MapsSource (server : UaServer) (adapter : UaAdapter) (sourceName destination folder : Text) : Prop where
  named : folder ≠ []
  sourced : sourceName ≠ []
  free : adapter.space.hasNode (.string (if destination.isEmpty then rootFolderOf adapter ++ '/' :: folder ++ "Dir"
    else targetFolder (rootFolderOf adapter) destination folder)) = false
  elsewhere : sourceName ≠ (if destination.isEmpty then folder else destination ++ '/' :: folder)
  source : (enrolledDestination server adapter destination).2.space.isFolder
    (.string (rootFolderOf adapter ++ '/' :: sourceName ++ "Dir")) = true

private theorem enrolledDestination_spreads (law : AddsBelow server) (adapter : UaAdapter) (destination : Text) :
    Spreads adapter (enrolledDestination server adapter destination).2 := by
  have enrolled := enroll_spreads law adapter (destination ++ "/replacePart") "/"
  unfold enrolledDestination
  dsimp only
  split
  · exact enrolled.trans (.of_same (fun _ => rfl) (fun _ _ => .rfl) rfl)
  · exact enrolled

private theorem placeFolder_ordered (law : AddsBelow server) (csManager : ControlSystemPVManager) (fuel : Nat)
    (ordered : Ordered adapter) (entry : FolderEntry) (sourceName copy destination : Text) {folder : Text}
    (named : folder ≠ []) (description : Text)
    (target : MapsSource server adapter sourceName destination folder →
      TargetApart server (enrolledDestination server adapter destination).2
        (.string (rootFolderOf adapter ++ '/' :: sourceName ++ "Dir"))
        (enrolledDestination server adapter destination).1 folder) :
    Ordered (outcome (placeFolder server csManager fuel entry sourceName copy destination folder description)
      adapter).2 := by
  have := serverSteps_spreads law
  have root := @enrolledDestination_root server adapter destination
  obtain ⟨enrolled, -⟩ := enrolledDestination_spreads law adapter destination ordered
  unfold placeFolder
  rw [outcome_bind_ok (outcome_get adapter)]
  dsimp only
  generalize pvNode_eq : (if destination.isEmpty = true then
    NodeId.string (adapter.serverConfig.rootFolder ++ '/' :: folder ++ "Dir")
    else .string (adapter.serverConfig.rootFolder ++ '/' :: destination ++ '/' :: folder ++ "Dir")) = pvNode
  split
  next => exact spread_ordered ordered (Keeps.ite (writeDescription_keeps _ _) (raiseError_keeps _ _ _))
  next free =>
    split
    next => exact spread_ordered ordered (raiseError_keeps _ _ _)
    next =>
      rw [outcome_bind_ok (outcome_enrollDestination destination)]
      split
      next sourced =>
        refine mapSourceFolder_ordered law csManager fuel enrolled entry (enrolledDestination_known destination) _ _ _ _ _
          fun elsewhere source => ?_
        rw [root] at source ⊢
        refine target ⟨named, by simpa using sourced, ?_, elsewhere, source⟩
        rw [Bool.not_eq_true] at free
        rw [← free, ← pvNode_eq, rootFolderOf, targetFolder]
        split
        · rfl
        · rfl
      next =>
        refine spread_ordered enrolled (Keeps.bind (createFolder_keeps server _ _) fun _ => ?_)
        exact when_keeps (writeDescription_keeps _ _) _

/-- If the entry maps a source, it goes to a folder that is apart from it. -/
def LinksApart (server : UaServer) (entry : FolderEntry) (adapter : UaAdapter) : Prop :=
  let sourceName := getAttributeValueFromNode entry.sourceName
  let destination := elementContent entry.destination
  let folder := elementContent entry.name
  ∀ recorded, outcome (folderHistory entry) adapter = (.ok (), recorded) →
    MapsSource server recorded sourceName destination folder →
      TargetApart server (enrolledDestination server recorded destination).2
        (.string (rootFolderOf recorded ++ '/' :: sourceName ++ "Dir"))
        (enrolledDestination server recorded destination).1 folder

/-- The step lemma: one folder entry. -/
theorem buildFolder_ordered (law : AddsBelow server) (csManager : ControlSystemPVManager) (fuel : Nat)
    (ordered : Ordered adapter) {entry : FolderEntry} (apart : LinksApart server entry adapter) :
    Ordered (outcome (buildFolder server csManager fuel entry) adapter).2 := by
  rw [buildFolder_eq]
  refine ordered_bind ordered (when_keeps (addFolderHistory_keeps _ _ _ _ _ _) _) fun _ recorded reached later _ => ?_
  split
  next =>
    exact spread_ordered later (when_keeps (raiseError_keeps _ _ _) _)
  next named => exact placeFolder_ordered law csManager fuel later entry _ _ _ (by simpa using named) _ (apart recorded reached)

end Links

end Mapping

open Mapping

theorem history_walks_end {space : AddressSpace} (acyclic : Acyclic space.OrganizesReference)
    (forEach : ChildNodeCalls space) (historyfolders : List AdapterFolderHistorySetup) :
    ∃ depth, ∀ fuel, depth ≤ fuel → (addFolderHistorizing space forEach fuel historyfolders {}).isSome = true := by
  have below : Acyclic space.Organizes := acyclic.mono fun source target organizes => organizes.2
  choose reached walks is_reached using folder_walk below forEach
  obtain ⟨depth, ends⟩ := addFolderHistorizing_entries walks historyfolders
  refine ⟨depth, fun fuel deep => ?_⟩
  have walked := ends fuel deep []
  exact Option.isSome_iff_exists.mpr ⟨_, walked⟩

/-- The adapter when the constructor starts with the map file's folders. -/
def mappedAdapter (server : UaServer) (csManager : ControlSystemPVManager) (serverConfig : ServerConfig)
    (pvSeparator : Text) (mappingExceptions : Bool) (mapFile : MapFile) : UaAdapter :=
  (({ serverConfig, pvSeparator, mappingExceptions } : UaAdapter).mapSelfToNamespace server).implicitMapping server
    csManager mapFile

private theorem mappedAdapter_ordered {server : UaServer} (law : AddsBelow server) (csManager : ControlSystemPVManager)
    (serverConfig : ServerConfig) (pvSeparator : Text) (mappingExceptions : Bool) (mapFile : MapFile) :
    Ordered (mappedAdapter server csManager serverConfig pvSeparator mappingExceptions mapFile) := by
  have start : Ordered { serverConfig, pvSeparator, mappingExceptions } := ordered_initial rfl rfl
  exact (implicitMapping_spreads law _ csManager mapFile (mapSelfToNamespace_spreads law _ start).1).1

/-- While every entry that maps a source goes to a folder apart from it, the Organizes
references have no cycle after any entry, and the walks for the histories end. -/
theorem folder_links_acyclic {server : UaServer} (law : AddsBelow server) (csManager : ControlSystemPVManager)
    (fuel : Nat) (serverConfig : ServerConfig) (pvSeparator : Text) (mappingExceptions : Bool) (mapFile : MapFile)
    (apart : ∀ done entry rest state, mapFile.folders = done ++ entry :: rest →
      Reaches (buildFolder server csManager fuel)
        (mappedAdapter server csManager serverConfig pvSeparator mappingExceptions mapFile) done state →
      LinksApart server entry state) :
    let start := mappedAdapter server csManager serverConfig pvSeparator mappingExceptions mapFile
    (∀ done rest state, mapFile.folders = done ++ rest → Reaches (buildFolder server csManager fuel) start done state →
      Acyclic state.space.OrganizesReference) ∧
    ∀ after, outcome (applyMapping server csManager fuel mapFile) start = (.ok (), after) →
      ∀ (forEach : ChildNodeCalls after.space) historyfolders, ∃ depth, ∀ walkFuel, depth ≤ walkFuel →
        (addFolderHistorizing after.space forEach walkFuel historyfolders {}).isSome = true := by
  have := serverSteps_spreads law
  have begins := mappedAdapter_ordered law csManager serverConfig pvSeparator mappingExceptions mapFile
  have step (entry : FolderEntry) (state : UaAdapter) (ordered : Ordered state) (apart : LinksApart server entry state) :
      Ordered (outcome (buildFolder server csManager fuel entry) state).2 :=
    buildFolder_ordered law csManager fuel ordered apart
  have ordered {done rest : List FolderEntry} {state : UaAdapter} (split : mapFile.folders = done ++ rest)
      (reached : Reaches (buildFolder server csManager fuel)
        (mappedAdapter server csManager serverConfig pvSeparator mappingExceptions mapFile) done state) : Ordered state :=
    Reaches.invariant step begins apart split reached
  refine ⟨fun done rest state split reached => (ordered split reached).acyclic, fun after finished => ?_⟩
  refine history_walks_end (Ordered.acyclic ?_)
  rw [applyMapping, outcome_bind] at finished
  rcases reached : outcome (buildFolderStructure server csManager fuel mapFile.folders) _ with ⟨_ | _, folders⟩
  · rw [reached] at finished
    cases finished
  · rw [reached] at finished
    have variables_kept : Keeps Spreads (explicitVarMapping server csManager mapFile.processVariables >>= fun _ =>
        addAdditionalVariables server mapFile.additionalVariables) :=
      Keeps.bind (explicitVarMapping_keeps server csManager _) fun _ => addAdditionalVariables_keeps server _
    have last := spread_ordered (ordered (List.append_nil _).symm reached) variables_kept
    dsimp only at finished
    rw [finished] at last
    exact last

theorem walk_endless {space : AddressSpace} {forEach : ChildNodeCalls space} {loops : NodeId → Prop}
    (next : ∀ nodeId, loops nodeId → ∃ child, loops child ∧ space.Organizes nodeId child) (history : Text) (fuel : Nat)
    {nodeId : NodeId} (inside : loops nodeId) (table : HistorizingTable) :
    (forEach.calls nodeId).foldlM (getChildVariables space forEach history fuel) table = none := by
  have stuck {f : HistorizingTable → ChildReference → Option HistorizingTable} {references : List ChildReference}
      {reference : ChildReference} (member : reference ∈ references) (never : ∀ table, f table reference = none)
      (table : HistorizingTable) : references.foldlM f table = none := by
    induction references generalizing table with
    | nil => cases member
    | cons first references ih =>
      rw [List.foldlM_cons]
      rcases List.mem_cons.mp member with rfl | later
      · rw [never]
        rfl
      · cases f table first with
        | none => rfl
        | some table => exact ih later table
  obtain ⟨child, again, organizes⟩ := next nodeId inside
  refine stuck (mem_calls_iff.mpr organizes) (fun table => ?_) table
  induction fuel generalizing nodeId child table with
  | zero => rfl
  | succ fuel ih =>
    obtain ⟨grandchild, still, below⟩ := next child again
    simp only [getChildVariables, Bool.false_eq_true, if_false, if_true]
    rw [stuck (mem_calls_iff.mpr below) fun table => ih again grandchild still below table]
    rfl

/-- A server that stores every reference, and adds nodes under new ids below those it has. -/
def belowServer : UaServer where
  addsNode space node parent := !space.hasNode node.nodeId && space.hasNode parent
  addsReference _ _ := true

theorem belowServer_law : AddsBelow belowServer := by
  intro space node parent grants
  simpa [belowServer] using grants

def nestedFolder : ControlSystemPVManager where
  getAllProcessVariables := [⟨"/a/s/v", .int32, true, 1, []⟩, ⟨"/b/w", .int32, true, 1, []⟩]
  getProcessVariable name :=
    if name = "a/s/v" then some ⟨"/a/s/v", .int32, true, 1, []⟩
    else if name = "b/w" then some ⟨"/b/w", .int32, true, 1, []⟩
    else none
  finds := by decide

/-- The folder `a` is linked as a folder `x` in itself, which then contains itself. -/
theorem folder_linked_into_itself :
    let entry : FolderEntry :=
      { sourceName := some "a", destination := some "a", name := some "x", history := some "minute" }
    let start := mappedAdapter belowServer nestedFolder { rootFolder := "r" } "/" false { folders := [entry] }
    let mapped := outcome (applyMapping belowServer nestedFolder 1 { folders := [entry] }) start
    mapped.1.isOk = true ∧ ¬ Acyclic mapped.2.space.OrganizesReference ∧
      ∀ fuel, addFolderHistorizing mapped.2.space (storedCalls _) fuel mapped.2.serverConfig.historyfolders {} = none := by
  intro entry start mapped
  have folders : mapped.2.serverConfig.historyfolders = [⟨"minute", .string "r/a/xDir"⟩] := by decide +kernel
  have there : mapped.2.space.hasNode (.string "r/a/xDir") = true := by decide +kernel
  have loop : ⟨.string "r/a/xDir", .organizes, .string "r/a/xDir"⟩ ∈ mapped.2.space.references := by decide +kernel
  refine ⟨by decide +kernel, fun acyclic => acyclic _ (.single loop), fun fuel => ?_⟩
  have endless := @walk_endless _ (storedCalls mapped.2.space) (· = .string "r/a/xDir")
    (by rintro _ rfl; exact ⟨_, rfl, there, loop⟩) "minute" fuel _ rfl {}
  rw [folders, addFolderHistorizing, List.foldlM_cons, if_pos there, endless]
  rfl

/-- What a closed list of nodes has, a walk from one of them stays in. -/
theorem walk_within {space : AddressSpace} {nodes : List NodeId}
    (closed : ∀ reference ∈ space.references, reference.referenceType = .organizes → reference.source ∈ nodes →
      reference.target ∈ nodes) {first last : NodeId} (inside : first ∈ nodes)
    (walk : Relation.ReflTransGen space.OrganizesReference first last) : last ∈ nodes := by
  induction walk with
  | refl => exact inside
  | tail _ reference ih => exact closed _ reference rfl ih

def linkedElsewhere : FolderEntry := { sourceName := some "a", destination := some "b", name := some "x" }

def elsewhereAdapter : UaAdapter :=
  mappedAdapter belowServer nestedFolder { rootFolder := "r" } "/" false { folders := [linkedElsewhere] }

private theorem linkedElsewhere_apart : LinksApart belowServer linkedElsewhere elsewhereAdapter := by
  intro recorded kept _
  cases kept
  refine ⟨by decide +kernel, fun walk => ?_, fun present => ?_, fun dir => ?_⟩
  · have closed : ∀ reference ∈ (enrolledDestination belowServer elsewhereAdapter "b").2.space.references,
        reference.referenceType = .organizes → reference.source ∈ [NodeId.string "r/aDir", .string "r/a/sDir"] →
          reference.target ∈ [NodeId.string "r/aDir", .string "r/a/sDir"] := by decide +kernel
    have within := walk_within closed (by decide) walk
    revert within
    decide +kernel
  · have absent : ((enrolledDestination belowServer elsewhereAdapter "b").2.existFolder
        (enrolledDestination belowServer elsewhereAdapter "b").1 "x").isNull = true := by decide +kernel
    exact absurd (absent.symm.trans present) (by decide)
  · exact absurd dir (by decide)

theorem folder_links_acyclic_of_other_folder :
    (∀ done rest state, [linkedElsewhere] = done ++ rest →
      Reaches (buildFolder belowServer nestedFolder 1) elsewhereAdapter done state →
      Acyclic state.space.OrganizesReference) ∧
    ∀ after, outcome (applyMapping belowServer nestedFolder 1 { folders := [linkedElsewhere] }) elsewhereAdapter =
        (.ok (), after) →
      ∀ (forEach : ChildNodeCalls after.space) historyfolders, ∃ depth, ∀ walkFuel, depth ≤ walkFuel →
        (addFolderHistorizing after.space forEach walkFuel historyfolders {}).isSome = true := by
  refine folder_links_acyclic belowServer_law nestedFolder 1 { rootFolder := "r" } "/" false
    { folders := [linkedElsewhere] } fun done entry rest state split reached => ?_
  obtain ⟨rfl, rfl⟩ : done = [] ∧ entry = linkedElsewhere := by
    cases done with
    | nil => exact ⟨rfl, (List.cons.inj split).1.symm⟩
    | cons first done => simp at split
  cases reached
  exact linkedElsewhere_apart

end OpcUaAdapter
