import Mathlib.Data.List.Nodup
import OpcUaAdapter.Proofs.AdapterGrowth
import OpcUaAdapter.Proofs.FolderTable

/-! The implicit mapping as a sequence of requests for nodes. As long as the ids are
new, each folder, variable and child node gets the node it stands for; the first id that
is not new belongs to two requests. -/

namespace OpcUaAdapter

def nameTokens (separator name : Text) : List Text :=
  if separator.isEmpty then [name.drop 1] else parseVariablePath name separator

/-- What the implicit mapping asks a node for. -/
inductive NodeRequest where
  | folder (path : List Text)
  | pv (name : Text)
  | child (name part : Text)
deriving DecidableEq

def NodeRequest.nodeId (rootFolder separator : Text) : NodeRequest → NodeId
  | folder path => folderId rootFolder path
  | pv name => .string (treePath rootFolder (nameTokens separator name))
  | child name part => .string (treePath rootFolder (nameTokens separator name) ++ '/' :: part)

/-- The folders of the variables are the proper prefixes of their tokens. -/
def IsFolder (separator : Text) (processVariables : List ProcessVariable) (path : List Text) : Prop :=
  path ≠ [] ∧ ∃ pv ∈ processVariables, path <+: (nameTokens separator pv.name).dropLast

def IsMethod (useBoolAsVoid : Bool) (pv : ProcessVariable) : Prop := pv.valueType = .void ∧ useBoolAsVoid = false

/-- Everything a node is asked for when the variables are mapped. -/
inductive Wanted (useBoolAsVoid : Bool) (separator : Text) (processVariables : List ProcessVariable) :
    NodeRequest → Prop where
  | folder {path} (folder : IsFolder separator processVariables path) :
      Wanted useBoolAsVoid separator processVariables (.folder path)
  | pv {pv} (listed : pv ∈ processVariables) : Wanted useBoolAsVoid separator processVariables (.pv pv.name)
  | child {pv child} (listed : pv ∈ processVariables) (below : ¬ IsMethod useBoolAsVoid pv)
      (named : child ∈ pvChildNames) : Wanted useBoolAsVoid separator processVariables (.child pv.name child)

/-- The requests that have been made since the start, all of them granted. -/
structure Logged (rootFolder separator : Text) (start adapter : UaAdapter) (made : List NodeRequest) : Prop where
  requested : adapter.requested = start.requested ++ made.map (NodeRequest.nodeId rootFolder separator)
  distinct : (made.map (NodeRequest.nodeId rootFolder separator)).Nodup
  used : ∀ nodeId, adapter.space.hasNode nodeId = true ↔
    start.space.hasNode nodeId = true ∨ nodeId ∈ made.map (NodeRequest.nodeId rootFolder separator)

/-- An id was requested twice since the start, for two different things. -/
structure Clash (rootFolder separator : Text) (wanted : NodeRequest → Prop) (start adapter : UaAdapter) : Prop where
  repeated : ∃ ids, start.requested ++ ids <+: adapter.requested ∧ ¬ ids.Nodup
  shared : ∃ first second, wanted first ∧ wanted second ∧ first ≠ second ∧
    first.nodeId rootFolder separator = second.nodeId rootFolder separator

theorem Clash.grows {rootFolder separator : Text} {wanted : NodeRequest → Prop} {start before after : UaAdapter}
    (clash : Clash rootFolder separator wanted start before) (grows : Grows before after) :
    Clash rootFolder separator wanted start after := by
  obtain ⟨⟨ids, requested, repeated⟩, shared⟩ := clash
  exact ⟨⟨ids, requested.trans grows.requested, repeated⟩, shared⟩

/-- A server that adds a node just when its id is not used yet. -/
def AddsUnused (server : UaServer) : Prop :=
  ∀ space node parent, server.addsNode space node parent = !space.hasNode node.nodeId

/-- No node exists below the root folder. -/
def Untouched (rootFolder : Text) (start : UaAdapter) : Prop :=
  ∀ text, start.space.hasNode (.string (rootFolder ++ '/' :: text)) = false

theorem NodeRequest.nodeId_below {separator : Text} {request : NodeRequest}
    (rooted : match request with
      | .folder path => path ≠ []
      | .pv name | .child name _ => nameTokens separator name ≠ []) (rootFolder : Text) :
    ∃ text, request.nodeId rootFolder separator = .string (rootFolder ++ '/' :: text) := by
  have below {path : List Text} (filled : path ≠ []) (rest : Text) :
      ∃ text, treePath rootFolder path ++ rest = rootFolder ++ '/' :: text := by
    obtain ⟨token, path, rfl⟩ := List.exists_cons_of_ne_nil filled
    exact ⟨token ++ (path.flatMap fun token => '/' :: token) ++ rest, by simp [treePath]⟩
  cases request with
  | folder path =>
    obtain ⟨text, same⟩ := below rooted "Dir"
    exact ⟨text, congrArg NodeId.string same⟩
  | pv name =>
    obtain ⟨text, same⟩ := below rooted []
    rw [List.append_nil] at same
    exact ⟨text, congrArg NodeId.string same⟩
  | child name part =>
    obtain ⟨text, same⟩ := below rooted ('/' :: part)
    exact ⟨text, congrArg NodeId.string same⟩

section Requests

variable {server : UaServer} {rootFolder separator : Text} {wanted : NodeRequest → Prop} {start adapter : UaAdapter}
  {made : List NodeRequest}

theorem Logged.refused (logged : Logged rootFolder separator start adapter made)
    (inside : ∀ other ∈ made, wanted other) {request : NodeRequest} (asked : wanted request) (new : request ∉ made)
    (fresh : start.space.hasNode (request.nodeId rootFolder separator) = false)
    (taken : adapter.space.hasNode (request.nodeId rootFolder separator) = true) {after : UaAdapter}
    (requested : after.requested = adapter.requested ++ [request.nodeId rootFolder separator]) :
    Clash rootFolder separator wanted start after := by
  have earlier : request.nodeId rootFolder separator ∈ made.map (NodeRequest.nodeId rootFolder separator) := by
    rcases (logged.used _).mp taken with before | earlier
    · rw [fresh] at before
      cases before
    · exact earlier
  obtain ⟨other, member, same⟩ := List.mem_map.mp earlier
  refine ⟨⟨made.map (NodeRequest.nodeId rootFolder separator) ++ [request.nodeId rootFolder separator], ?_, ?_⟩, ?_⟩
  · have listed : after.requested = start.requested ++
        (made.map (NodeRequest.nodeId rootFolder separator) ++ [request.nodeId rootFolder separator]) := by
      rw [requested, logged.requested, List.append_assoc]
    exact listed ▸ List.prefix_rfl
  · exact fun distinct => (List.nodup_append.mp distinct).2.2 _ earlier _ (List.mem_singleton_self _) rfl
  · exact ⟨other, request, inside other member, asked, fun equal => new (equal ▸ member), same⟩

theorem addNode_taken (law : AddsUnused server) {node : UaNode}
    (taken : adapter.space.hasNode node.nodeId = true) (parent : NodeId) (referenceType : ReferenceType)
    (typeDefinition : Option NodeId) :
    adapter.addNode server node parent referenceType typeDefinition =
      (.null, { adapter with requested := adapter.requested ++ [node.nodeId] }) := by
  simp [UaAdapter.addNode, AddressSpace.addNode, law adapter.space node parent, taken]

def UaAdapter.withNode (adapter : UaAdapter) (node : UaNode) (parent : NodeId) (referenceType : ReferenceType)
    (typeDefinition : Option NodeId) : UaAdapter :=
  { adapter with
    space :=
      { nodes := adapter.space.nodes ++ [node]
        references := adapter.space.references ++ ⟨parent, referenceType, node.nodeId⟩ ::
          (typeDefinition.map fun target => ⟨node.nodeId, .hasTypeDefinition, target⟩).toList }
    requested := adapter.requested ++ [node.nodeId] }

theorem addNode_free (law : AddsUnused server) {node : UaNode}
    (free : adapter.space.hasNode node.nodeId = false) (parent : NodeId) (referenceType : ReferenceType)
    (typeDefinition : Option NodeId) :
    adapter.addNode server node parent referenceType typeDefinition =
      (node.nodeId, adapter.withNode node parent referenceType typeDefinition) := by
  simp [UaAdapter.addNode, AddressSpace.addNode, UaAdapter.withNode, law adapter.space node parent, free]

theorem Logged.granted (logged : Logged rootFolder separator start adapter made) {request : NodeRequest}
    {node : UaNode} (asks : node.nodeId = request.nodeId rootFolder separator)
    (free : adapter.space.hasNode node.nodeId = false) (parent : NodeId) (referenceType : ReferenceType)
    (typeDefinition : Option NodeId) :
    Logged rootFolder separator start (adapter.withNode node parent referenceType typeDefinition)
      (made ++ [request]) := by
  have unused : request.nodeId rootFolder separator ∉ made.map (NodeRequest.nodeId rootFolder separator) := by
    intro earlier
    rw [asks, (logged.used _).mpr (.inr earlier)] at free
    cases free
  refine ⟨?_, ?_, ?_⟩
  · simp [UaAdapter.withNode, logged.requested, asks]
  · rw [List.map_append, List.nodup_append]
    refine ⟨logged.distinct, by simp, ?_⟩
    rintro earlier member _ new rfl
    exact unused (List.mem_singleton.mp new ▸ member)
  · intro nodeId
    have grown : (adapter.withNode node parent referenceType typeDefinition).space.hasNode nodeId = true ↔
        adapter.space.hasNode nodeId = true ∨ node.nodeId = nodeId := by
      simp [AddressSpace.hasNode_iff, UaAdapter.withNode, or_and_right, exists_or]
    rw [grown, logged.used, asks, List.map_append, List.mem_append, or_assoc, List.map_singleton,
      List.mem_singleton, @eq_comm _ nodeId]

end Requests

section Folders

variable {server : UaServer} {rootFolder separator : Text} {wanted : NodeRequest → Prop} {start adapter : UaAdapter}
  {made : List NodeRequest} {folders : List (List Text)}

/-- All requests were granted, and the folder table holds the paths that were asked for. -/
structure FoldersKept (rootFolder separator : Text) (wanted : NodeRequest → Prop) (start adapter : UaAdapter)
    (made : List NodeRequest) (folders : List (List Text)) : Prop where
  logged : Logged rootFolder separator start adapter made
  inside : ∀ request ∈ made, wanted request
  kept : adapter.folderVector = folders.map (folderInfo rootFolder)
  listed : ∀ path, .folder path ∈ made ↔ path ∈ folders
  filled : ∀ path ∈ folders, path ≠ []
  closed : ∀ path ∈ folders, path.dropLast = [] ∨ path.dropLast ∈ folders

theorem FoldersKept.folderTable (kept : FoldersKept rootFolder separator wanted start adapter made folders) :
    FolderTable rootFolder adapter folders := by
  refine ⟨kept.kept, fun first here second there same => ?_, kept.filled, kept.closed⟩
  have paths := List.inj_on_of_nodup_map kept.logged.distinct ((kept.listed first).mpr here)
    ((kept.listed second).mpr there) same
  injection paths

private theorem untouched_folder (untouched : Untouched rootFolder start) {path : List Text} (filled : path ≠ []) :
    start.space.hasNode (folderId rootFolder path) = false := by
  obtain ⟨token, path, rfl⟩ := List.exists_cons_of_ne_nil filled
  have below : treePath rootFolder (token :: path) ++ "Dir" =
      rootFolder ++ '/' :: (token ++ (path.flatMap fun token => '/' :: token) ++ "Dir") := by
    simp [treePath]
  rw [folderId, below]
  exact untouched _

/-- A missing folder below a known one is created, or its id is taken. -/
theorem FoldersKept.createFolder (law : AddsUnused server) (untouched : Untouched rootFolder start)
    (kept : FoldersKept rootFolder separator wanted start adapter made folders) {path : List Text}
    (here : path = [] ∨ path ∈ folders) {token : Text} (missing : path ++ [token] ∉ folders)
    (asked : wanted (.folder (path ++ [token]))) :
    Clash rootFolder separator wanted start (adapter.createFolder server (folderId rootFolder path) token).2 ∨
    (adapter.createFolder server (folderId rootFolder path) token).1 = folderId rootFolder (path ++ [token]) ∧
      FoldersKept rootFolder separator wanted start
        (adapter.createFolder server (folderId rootFolder path) token).2
        (made ++ [.folder (path ++ [token])]) (folders ++ [path ++ [token]]) := by
  have new : NodeRequest.folder (path ++ [token]) ∉ made := mt (kept.listed _).mp missing
  have fresh := untouched_folder untouched (List.append_ne_nil_of_right_ne_nil path (List.cons_ne_nil token []))
  have absent : (adapter.existFolder (folderId rootFolder path) token).isNull = true := by
    rw [kept.folderTable.existFolder here, if_neg missing]
    rfl
  unfold UaAdapter.createFolder
  simp only [folderId_ne_null, Bool.false_eq_true, if_false, absent, if_true, createUAFolder_eq]
  cases taken : adapter.space.hasNode (folderId rootFolder (path ++ [token])) with
  | true =>
    left
    rw [addNode_taken law taken]
    exact kept.logged.refused kept.inside asked new fresh taken rfl
  | false =>
    right
    rw [addNode_free law taken]
    obtain ⟨requested, distinct, used⟩ : Logged rootFolder separator start
        (adapter.withNode (folderNode rootFolder path token []) (folderId rootFolder path) .organizes (some folderType))
        (made ++ [.folder (path ++ [token])]) := kept.logged.granted rfl taken _ _ _
    refine ⟨rfl, ⟨requested, distinct, used⟩, ?_, ?_, ?_, ?_, ?_⟩
    · intro request member
      rcases List.mem_append.mp member with old | new
      · exact kept.inside request old
      · exact List.mem_singleton.mp new ▸ asked
    · rw [List.map_append, ← kept.kept]
      simp [UaAdapter.withNode, folderInfo, folderNode]
    · intro other
      simp [kept.listed]
    · intro other member
      rcases List.mem_append.mp member with old | new
      · exact kept.filled other old
      · exact List.mem_singleton.mp new ▸ by simp
    · intro other member
      rcases List.mem_append.mp member with old | new
      · exact (kept.closed other old).imp_right (List.mem_append_left _)
      · rw [List.mem_singleton.mp new, List.dropLast_concat]
        exact here.imp_right (List.mem_append_left _)

theorem prefix_append_iff {before left other : List Text} :
    other ≠ [] ∧ other <+: before ++ left ↔ other ≠ [] ∧ other <+: before ∨ OnWay before left other := by
  constructor
  · rintro ⟨filled, inside⟩
    rcases List.prefix_or_prefix_of_prefix inside (List.prefix_append before left) with short | ⟨part, rfl⟩
    · exact .inl ⟨filled, short⟩
    · by_cases empty : part = []
      · rw [empty, List.append_nil] at filled ⊢
        exact .inl ⟨filled, List.prefix_rfl⟩
      · exact .inr ⟨part, empty, (List.prefix_append_right_inj before).mp inside, rfl⟩
  · rintro (⟨filled, inside⟩ | ⟨part, filled, inside, rfl⟩)
    · exact ⟨filled, inside.trans (List.prefix_append before left)⟩
    · exact ⟨List.append_ne_nil_of_right_ne_nil _ filled, (List.prefix_append_right_inj before).mpr inside⟩

/-- The folders left over are created one below the other. -/
theorem FoldersKept.createFolders (law : AddsUnused server) (untouched : Untouched rootFolder start)
    (kept : FoldersKept rootFolder separator wanted start adapter made folders) {path left : List Text}
    (here : path = [] ∨ path ∈ folders) (missing : ∀ token ∈ left.head?, path ++ [token] ∉ folders)
    (asked : ∀ other, OnWay path left other → wanted (.folder other)) :
    Clash rootFolder separator wanted start (adapter.createFolders server (folderId rootFolder path) left).2 ∨
    (adapter.createFolders server (folderId rootFolder path) left).1 = folderId rootFolder (path ++ left) ∧
      ∃ made' folders', FoldersKept rootFolder separator wanted start
        (adapter.createFolders server (folderId rootFolder path) left).2 (made ++ made') folders' ∧
        (∀ request ∈ made', ∃ other, request = .folder other) ∧
        ∀ other, other ∈ folders' ↔ other ∈ folders ∨ OnWay path left other := by
  induction left generalizing adapter made folders path with
  | nil =>
    right
    refine ⟨by simp [UaAdapter.createFolders], [], folders, by simpa [UaAdapter.createFolders] using kept, by simp, ?_⟩
    exact fun other => (or_iff_left not_onWay_nil).symm
  | cons token left ih =>
    unfold UaAdapter.createFolders
    rcases kept.createFolder law untouched here (missing token rfl) (asked _ (onWay_cons.mpr (.inl rfl))) with
      clash | ⟨same, next⟩
    · exact .inl (clash.grows (UaAdapter.createFolders_grows server _ _ _))
    · simp only [same]
      have below : ∀ other ∈ left.head?, path ++ [token] ++ [other] ∉ folders ++ [path ++ [token]] := by
        intro other first member
        rcases List.mem_append.mp member with old | new
        · have closed := kept.closed _ old
          rw [List.dropLast_concat] at closed
          exact missing token rfl (closed.resolve_left (by simp))
        · have := congrArg List.length (List.mem_singleton.mp new)
          simp at this
      rcases ih next (.inr (by simp)) below (fun other way => asked other (onWay_cons.mpr (.inr way))) with
        clash | ⟨created, made', folders', kept', only, members⟩
      · exact .inl clash
      · right
        refine ⟨by simpa using created, .folder (path ++ [token]) :: made', folders', ?_, ?_, ?_⟩
        · simpa using kept'
        · intro request member
          rcases List.mem_cons.mp member with rfl | old
          · exact ⟨_, rfl⟩
          · exact only request old
        · intro other
          rw [members other, List.mem_append, List.mem_singleton, onWay_cons, or_assoc]

/-- After a call for a path, the folders are the ones before and the prefixes of it. -/
theorem FoldersKept.createFolderPath (law : AddsUnused server) (untouched : Untouched rootFolder start)
    (kept : FoldersKept rootFolder separator wanted start adapter made folders) {path : List Text}
    (asked : ∀ part, part ≠ [] → part <+: path → wanted (.folder part)) :
    Clash rootFolder separator wanted start (adapter.createFolderPath server (folderId rootFolder []) path).2 ∨
    (adapter.createFolderPath server (folderId rootFolder []) path).1 = folderId rootFolder path ∧
      ∃ made' folders', FoldersKept rootFolder separator wanted start
        (adapter.createFolderPath server (folderId rootFolder []) path).2 (made ++ made') folders' ∧
        (∀ request ∈ made', ∃ other, request = .folder other) ∧
        ∀ other, other ∈ folders' ↔ other ∈ folders ∨ other ≠ [] ∧ other <+: path := by
  unfold UaAdapter.createFolderPath
  simp only [folderId_ne_null, Bool.false_eq_true, if_false]
  have exists_ : adapter.existFolderPath (folderId rootFolder []) path = _ := kept.folderTable.existFolderPath (.inl rfl)
  rw [List.nil_append] at exists_
  have known_prefix {whole other : List Text} (known : whole = [] ∨ whole ∈ folders) (filled : other ≠ [])
      (inside : other <+: whole) : other ∈ folders := by
    obtain ⟨rest, rfl⟩ := inside
    exact kept.folderTable.prefix_mem filled (known.resolve_left (List.append_ne_nil_of_left_ne_nil filled rest))
  by_cases there : path = [] ∨ path ∈ folders
  · rw [if_pos there] at exists_
    simp only [exists_, folderId_ne_null, Bool.false_eq_true, if_false]
    refine .inr ⟨trivial, [], folders, by simpa using kept, by simp, fun other => ?_⟩
    exact (or_iff_left_of_imp fun inside => known_prefix there inside.1 inside.2).symm
  · rw [if_neg there] at exists_
    obtain ⟨some_token, absent⟩ := not_or.mp there
    obtain ⟨before, token, rest, split, partly, known, missing⟩ :=
      kept.folderTable.partlyExisting (.inl rfl) ((List.nil_append path).symm ▸ absent) some_token
    rw [List.nil_append] at known missing partly
    have null : NodeId.null.isNull = true := rfl
    simp only [exists_, null, if_true, partly]
    have prefixes {other : List Text} : other ≠ [] ∧ other <+: path ↔
        other ≠ [] ∧ other <+: before ∨ OnWay before (token :: rest) other := split ▸ prefix_append_iff
    have below : ∀ other, OnWay before (token :: rest) other → wanted (.folder other) := by
      intro other way
      obtain ⟨filled, inside⟩ := prefixes.mpr (.inr way)
      exact asked other filled inside
    rcases kept.createFolders law untouched known (by simpa using missing) below with
      clash | ⟨created, made', folders', kept', only, members⟩
    · exact .inl clash
    · refine .inr ⟨by rw [created, split], made', folders', kept', only, fun other => ?_⟩
      rw [members other, prefixes, ← or_assoc]
      exact or_congr_left (or_iff_left_of_imp fun inside => known_prefix known inside.1 inside.2).symm

/-- Only the requests, the ids in use and the folder table matter. -/
theorem FoldersKept.congr (kept : FoldersKept rootFolder separator wanted start adapter made folders)
    {after : UaAdapter} (requested : after.requested = adapter.requested)
    (used : ∀ nodeId, after.space.hasNode nodeId = adapter.space.hasNode nodeId)
    (listed : after.folderVector = adapter.folderVector) :
    FoldersKept rootFolder separator wanted start after made folders := by
  refine ⟨⟨requested.trans kept.logged.requested, kept.logged.distinct, fun nodeId => ?_⟩, kept.inside,
    listed.trans kept.kept, kept.listed, kept.filled, kept.closed⟩
  rw [used]
  exact kept.logged.used nodeId

/-- A node that is no folder is added, or its id is taken. -/
theorem FoldersKept.addNode (law : AddsUnused server)
    (kept : FoldersKept rootFolder separator wanted start adapter made folders) {request : NodeRequest}
    (asked : wanted request) (other : ∀ path, request ≠ .folder path) (new : request ∉ made)
    (fresh : start.space.hasNode (request.nodeId rootFolder separator) = false) {node : UaNode}
    (asks : node.nodeId = request.nodeId rootFolder separator) (parent : NodeId) (referenceType : ReferenceType)
    (typeDefinition : Option NodeId) :
    Clash rootFolder separator wanted start (adapter.addNode server node parent referenceType typeDefinition).2 ∨
    (adapter.addNode server node parent referenceType typeDefinition).1 = request.nodeId rootFolder separator ∧
      adapter.space.hasNode (request.nodeId rootFolder separator) = false ∧
      ⟨parent, referenceType, request.nodeId rootFolder separator⟩ ∈
        (adapter.addNode server node parent referenceType typeDefinition).2.space.references ∧
      FoldersKept rootFolder separator wanted start
        (adapter.addNode server node parent referenceType typeDefinition).2 (made ++ [request]) folders := by
  cases taken : adapter.space.hasNode (request.nodeId rootFolder separator) with
  | true =>
    left
    rw [← asks] at taken
    rw [addNode_taken law taken]
    exact kept.logged.refused kept.inside asked new fresh (asks ▸ taken) (by rw [asks])
  | false =>
    right
    rw [← asks] at taken
    rw [addNode_free law taken]
    refine ⟨asks, rfl, ?_, kept.logged.granted asks taken _ _ _, ?_, kept.kept, ?_, kept.filled, kept.closed⟩
    · simp [UaAdapter.withNode, asks]
    · intro earlier member
      rcases List.mem_append.mp member with old | last
      · exact kept.inside earlier old
      · exact List.mem_singleton.mp last ▸ asked
    · intro path
      rw [List.mem_append, List.mem_singleton, kept.listed]
      exact or_iff_left fun same => other path same.symm

end Folders

end OpcUaAdapter
