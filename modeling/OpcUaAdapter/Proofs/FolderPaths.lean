import Mathlib.Data.List.Nodup
import OpcUaAdapter.Proofs.FolderTable

/-! Sequences of calls that create folder paths below the root folder, on a server that
refuses the id of an earlier folder. The folder table grows by what is missing of a path
and names each folder once. -/

namespace OpcUaAdapter

/-- The tokens of a path that is separated by slashes. -/
def AreTokens (path : List Text) : Prop := ∀ token ∈ path, token ≠ [] ∧ '/' ∉ token

private theorem not_separator_of_mem {separator : Char → Bool} {text part : Text} (member : part ∈ text.splitOnP separator) :
    ∀ c ∈ part, separator c = false := by
  induction text generalizing part with
  | nil =>
    rw [List.splitOnP_nil, List.mem_singleton] at member
    simp [member]
  | cons first text ih =>
    obtain ⟨head, tail, split⟩ := List.exists_cons_of_ne_nil (List.splitOnP_ne_nil separator text)
    rw [List.splitOnP_cons_eq_if_modifyHead, split] at member
    rw [split] at ih
    split at member
    · rcases List.mem_cons.mp member with rfl | member
      · simp
      · exact ih member
    next plain =>
      rcases List.mem_cons.mp member with rfl | member
      · rintro c (_ | ⟨_, inside⟩)
        · simpa using plain
        · exact ih List.mem_cons_self c inside
      · exact ih (List.mem_cons_of_mem head member)

theorem areTokens_parsed (path : Text) : AreTokens (parseVariablePath path "/") := by
  intro token member
  obtain ⟨part, filled⟩ := List.mem_filter.mp member
  refine ⟨by rintro rfl; simp at filled, fun slash => ?_⟩
  simpa using not_separator_of_mem part _ slash

/-- An object node is added just when its id is not the id of a folder. -/
def AddsNewFolders (server : UaServer) : Prop :=
  ∀ space node parent, node.nodeClass = .object →
    (server.addsNode space node parent = true ↔ space.isFolder node.nodeId = false)

def createFolderPaths (server : UaServer) (base : NodeId) (adapter : UaAdapter) (paths : List (List Text)) :
    UaAdapter :=
  paths.foldl (fun adapter path => (adapter.createFolderPath server base path).2) adapter

def foldersBelow (path : List Text) : List Text → List (List Text)
  | [] => []
  | token :: left => (path ++ [token]) :: foldersBelow (path ++ [token]) left

private theorem mem_foldersBelow {path left other : List Text} : other ∈ foldersBelow path left ↔ OnWay path left other := by
  induction left generalizing path with
  | nil => simp [foldersBelow, not_onWay_nil]
  | cons token left ih => rw [foldersBelow, List.mem_cons, ih, onWay_cons]

theorem treePath_inj_of_tokens {rootFolder : Text} {first second : List Text} (here : ∀ token ∈ first, '/' ∉ token)
    (there : ∀ token ∈ second, '/' ∉ token) (same : treePath rootFolder first = treePath rootFolder second) :
    first = second := by
  have longer (path : List Text) (token : Text) : treePath rootFolder (path ++ [token]) ≠ treePath rootFolder [] := by
    intro equal
    have := congrArg List.length equal
    simp [treePath] at this
  induction first using List.reverseRecOn generalizing second with
  | nil =>
    rcases List.eq_nil_or_concat second with rfl | ⟨path, token, rfl⟩
    · rfl
    · rw [List.concat_eq_append] at same
      exact absurd same.symm (longer path token)
  | append_singleton first last ih =>
    rcases List.eq_nil_or_concat second with rfl | ⟨path, token, rfl⟩
    · exact absurd same (longer first last)
    · rw [List.concat_eq_append] at same there ⊢
      rw [treePath_append, treePath_append] at same
      obtain ⟨front, rfl⟩ := Paths.append_separator_inj (here last (by simp)) (there token (by simp)) same
      rw [ih (fun token member => here token (List.mem_append_left _ member))
        (fun token member => there token (List.mem_append_left _ member)) front]

private theorem folderId_inj_of_tokens {rootFolder : Text} {first second : List Text} (here : AreTokens first)
    (there : AreTokens second) (same : folderId rootFolder first = folderId rootFolder second) : first = second :=
  treePath_inj_of_tokens (fun token member => (here token member).2) (fun token member => (there token member).2)
    (List.append_cancel_right (NodeId.string.inj same))

/-- The folders of the table are those of the server. -/
structure OwnFolders (rootFolder : Text) (adapter : UaAdapter) (folders : List (List Text)) : Prop where
  folderTable : FolderTable rootFolder adapter folders
  once : folders.Nodup
  plain : ∀ path ∈ folders, AreTokens path
  nodes : ∀ path, path ≠ [] → AreTokens path →
    (adapter.space.isFolder (folderId rootFolder path) = true ↔ path ∈ folders)

section Calls

variable {server : UaServer} {rootFolder : Text} {adapter : UaAdapter} {folders : List (List Text)}

theorem areTokens_append {first second : List Text} :
    AreTokens (first ++ second) ↔ AreTokens first ∧ AreTokens second := List.forall_mem_append

/-- A missing folder below a known one is created and enters the table. -/
theorem OwnFolders.createFolder (law : AddsNewFolders server) (own : OwnFolders rootFolder adapter folders)
    {path : List Text} (here : path = [] ∨ path ∈ folders) {token : Text} (missing : path ++ [token] ∉ folders)
    (plain : AreTokens (path ++ [token])) :
    (adapter.createFolder server (folderId rootFolder path) token).1 = folderId rootFolder (path ++ [token]) ∧
      OwnFolders rootFolder (adapter.createFolder server (folderId rootFolder path) token).2
        (folders ++ [path ++ [token]]) := by
  have filled : path ++ [token] ≠ [] := by simp
  have absent : (adapter.existFolder (folderId rootFolder path) token).isNull = true := by
    rw [own.folderTable.existFolder here, if_neg missing]
    rfl
  have new : adapter.space.isFolder (folderId rootFolder (path ++ [token])) = false := by
    rw [← Bool.not_eq_true, own.nodes _ filled plain]
    exact missing
  have added := (law adapter.space (folderNode rootFolder path token []) (folderId rootFolder path) rfl).mpr new
  have each {property : List Text → Prop} (old : ∀ other ∈ folders, property other) (last : property (path ++ [token])) :
      ∀ other ∈ folders ++ [path ++ [token]], property other :=
    List.forall_mem_append.mpr ⟨old, List.forall_mem_singleton.mpr last⟩
  have tokens := each own.plain plain
  unfold UaAdapter.createFolder
  simp only [folderId_ne_null, Bool.false_eq_true, if_false, absent, if_true, createUAFolder_eq,
    UaAdapter.addNode, AddressSpace.addNode, if_pos added]
  refine ⟨rfl, ⟨⟨?_, ?_, ?_, ?_⟩, ?_, tokens, ?_⟩⟩
  · rw [List.map_append, ← own.folderTable.table]
    simp [folderInfo, folderNode]
  · exact fun first here second there => folderId_inj_of_tokens (tokens first here) (tokens second there)
  · exact each own.folderTable.filled filled
  · refine each (fun other member => (own.folderTable.closed other member).imp_right (List.mem_append_left _)) ?_
    rw [List.dropLast_concat]
    exact here.imp_right (List.mem_append_left _)
  · exact List.Nodup.append own.once (List.nodup_singleton _) (by simpa using missing)
  · intro other nonempty othersPlain
    have ids : folderId rootFolder other = folderId rootFolder (path ++ [token]) ↔ other = path ++ [token] :=
      ⟨folderId_inj_of_tokens othersPlain plain, fun same => same ▸ rfl⟩
    have old := own.nodes other nonempty othersPlain
    simp only [AddressSpace.isFolder, decide_eq_true_eq] at old
    simp [AddressSpace.isFolder, folderNode, old, ids]

/-- The folders left over are created one below the other. -/
theorem OwnFolders.createFolders (law : AddsNewFolders server) (own : OwnFolders rootFolder adapter folders)
    {path left : List Text} (here : path = [] ∨ path ∈ folders) (missing : ∀ token ∈ left.head?, path ++ [token] ∉ folders)
    (plain : AreTokens (path ++ left)) :
    (adapter.createFolders server (folderId rootFolder path) left).1 = folderId rootFolder (path ++ left) ∧
      OwnFolders rootFolder (adapter.createFolders server (folderId rootFolder path) left).2
        (folders ++ foldersBelow path left) := by
  induction left generalizing adapter folders path with
  | nil => simpa [UaAdapter.createFolders, foldersBelow] using own
  | cons token left ih =>
    rw [List.append_cons] at plain
    obtain ⟨same, next⟩ := own.createFolder law here (missing token rfl) (areTokens_append.mp plain).1
    have below : ∀ other ∈ left.head?, path ++ [token] ++ [other] ∉ folders ++ [path ++ [token]] := by
      intro other first member
      rcases List.mem_append.mp member with old | last
      · exact missing token rfl (own.folderTable.prefix_mem (by simp) old)
      · have := congrArg List.length (List.mem_singleton.mp last)
        simp at this
    unfold UaAdapter.createFolders
    simp only [same]
    obtain ⟨created, all⟩ := ih next (.inr (by simp)) below plain
    refine ⟨by simpa using created, ?_⟩
    simpa [foldersBelow] using all

/-- A call keeps the table of folders and adds what is missing of the path. -/
theorem OwnFolders.createFolderPath (law : AddsNewFolders server) (own : OwnFolders rootFolder adapter folders)
    {path : List Text} (plain : AreTokens path) :
    (adapter.createFolderPath server (folderId rootFolder []) path).1 = folderId rootFolder path ∧
      ∃ before missing, path = before ++ missing ∧ (before = [] ∨ before ∈ folders) ∧
        (∀ token ∈ missing.head?, before ++ [token] ∉ folders) ∧
        OwnFolders rootFolder (adapter.createFolderPath server (folderId rootFolder []) path).2
          (folders ++ foldersBelow before missing) := by
  have exists_ : adapter.existFolderPath (folderId rootFolder []) path = _ := own.folderTable.existFolderPath (.inl rfl)
  rw [List.nil_append] at exists_
  unfold UaAdapter.createFolderPath
  simp only [folderId_ne_null, Bool.false_eq_true, if_false]
  by_cases there : path = [] ∨ path ∈ folders
  · rw [if_pos there] at exists_
    simp only [exists_, folderId_ne_null, Bool.false_eq_true, if_false]
    exact ⟨trivial, path, [], by simp, there, by simp, by simpa [foldersBelow] using own⟩
  · rw [if_neg there] at exists_
    obtain ⟨some_token, absent⟩ := not_or.mp there
    obtain ⟨before, token, rest, split, partly, known, missing⟩ :=
      own.folderTable.partlyExisting (.inl rfl) ((List.nil_append path).symm ▸ absent) some_token
    rw [List.nil_append] at known missing partly
    have null : NodeId.null.isNull = true := rfl
    simp only [exists_, null, if_true, partly]
    have first : ∀ other ∈ (token :: rest).head?, before ++ [other] ∉ folders := by simpa using missing
    obtain ⟨created, all⟩ := own.createFolders law known first (split ▸ plain)
    exact ⟨by rw [created, split], before, token :: rest, split, known, first, all⟩

private theorem OwnFolders.createFolderPaths (law : AddsNewFolders server) (own : OwnFolders rootFolder adapter folders)
    {paths : List (List Text)} (plain : ∀ path ∈ paths, AreTokens path) :
    ∃ folders, OwnFolders rootFolder (createFolderPaths server (folderId rootFolder []) adapter paths) folders := by
  induction paths generalizing adapter folders with
  | nil => exact ⟨folders, own⟩
  | cons path paths ih =>
    obtain ⟨-, before, missing, -, -, -, next⟩ := own.createFolderPath law (plain path List.mem_cons_self)
    exact ih next fun other member => plain other (List.mem_cons_of_mem _ member)

theorem OwnFolders.start (empty : adapter.folderVector = []) (noFolder : ∀ nodeId, adapter.space.isFolder nodeId = false) :
    OwnFolders rootFolder adapter [] := by
  refine ⟨⟨empty, by simp, by simp, by simp⟩, List.nodup_nil, by simp, fun path _ _ => ?_⟩
  simp [noFolder]

/-- The entries of the table have their own ids, and their own names below their parents. -/
theorem OwnFolders.distinct (own : OwnFolders rootFolder adapter folders) :
    (adapter.folderVector.map fun i => (i.prevFolderNodeId, i.folderName)).Nodup ∧
      (adapter.folderVector.map (·.folderNodeId)).Nodup := by
  rw [own.folderTable.table, List.map_map, List.map_map]
  constructor
  · refine own.once.map_on fun first here second there same => ?_
    obtain ⟨parents, names⟩ := Prod.mk.inj same
    obtain ⟨before, last, rfl⟩ := (List.eq_nil_or_concat second).resolve_left (own.folderTable.filled second there)
    have closed := own.folderTable.closed _ there
    rw [List.concat_eq_append, List.dropLast_concat] at closed
    rw [List.concat_eq_append]
    apply (own.folderTable.folderInfo_iff closed here last).mp
    refine ⟨names.trans ?_, parents.trans ?_⟩
    · simp [folderInfo]
    · simp [folderInfo]
  · exact own.once.map_on own.folderTable.distinct

end Calls

/-- What a call does to the table: behind the existing part of the path, each missing
folder is added below the one before. -/
def AddsMissing (rootFolder : Text) (before after : UaAdapter) (path : List Text) : Prop :=
  ∃ present missing, path = present ++ missing ∧
    (before.existFolderPath (folderId rootFolder []) present).isNull = false ∧
    (∀ token ∈ missing.head?, (before.existFolderPath (folderId rootFolder []) (present ++ [token])).isNull = true) ∧
    after.folderVector = before.folderVector ++ (foldersBelow present missing).map (folderInfo rootFolder)

/-- After any calls with paths of tokens, a further call finds or creates the whole path. -/
theorem folder_paths_created {server : UaServer} (law : AddsNewFolders server) (rootFolder : Text) (start : UaAdapter)
    (empty : start.folderVector = []) (noFolder : ∀ nodeId, start.space.isFolder nodeId = false)
    (paths : List (List Text)) (tokens : ∀ path ∈ paths, AreTokens path) (path : List Text) (plain : AreTokens path) :
    let root := folderId rootFolder []
    let before := createFolderPaths server root start paths
    let after := (before.createFolderPath server root path).2
    (before.createFolderPath server root path).1.isNull = false ∧
      after.existFolderPath root path = (before.createFolderPath server root path).1 ∧
      after.createFolderPath server root path = ((before.createFolderPath server root path).1, after) ∧
      before.folderVector <+: after.folderVector ∧ AddsMissing rootFolder before after path ∧
      (after.folderVector.map fun i => (i.prevFolderNodeId, i.folderName)).Nodup ∧
      (after.folderVector.map (·.folderNodeId)).Nodup := by
  intro root before after
  have fresh : OwnFolders rootFolder start [] := .start empty noFolder
  obtain ⟨folders, own⟩ := fresh.createFolderPaths law tokens
  obtain ⟨created, present, missing, split, known, first, next⟩ := own.createFolderPath law plain
  change OwnFolders rootFolder after _ at next
  have there : path = [] ∨ path ∈ folders ++ foldersBelow present missing := by
    by_cases whole : missing = []
    · rw [split, whole, List.append_nil]
      exact known.imp_right (List.mem_append_left _)
    · exact .inr (List.mem_append_right _ (mem_foldersBelow.mpr ⟨missing, whole, List.prefix_rfl, split⟩))
  have found : after.existFolderPath root path = folderId rootFolder path := by
    have search := @FolderTable.existFolderPath _ _ _ next.folderTable [] path (.inl rfl)
    rwa [List.nil_append, if_pos there] at search
  have entries : after.folderVector = before.folderVector ++ (foldersBelow present missing).map (folderInfo rootFolder) := by
    rw [next.folderTable.table, own.folderTable.table, List.map_append]
  refine ⟨created ▸ folderId_ne_null rootFolder path, found.trans created.symm, ?_, ?_, ?_, next.distinct⟩
  · rw [created]
    unfold UaAdapter.createFolderPath
    rw [found]
    rfl
  · exact entries ▸ List.prefix_append _ _
  · refine ⟨present, missing, split, ?_, fun token head => ?_, entries⟩
    · have search := @FolderTable.existFolderPath _ _ _ own.folderTable [] present (.inl rfl)
      rw [List.nil_append, if_pos known] at search
      exact search ▸ folderId_ne_null rootFolder present
    · have search := @FolderTable.existFolderPath _ _ _ own.folderTable [] (present ++ [token]) (.inl rfl)
      rw [List.nil_append, if_neg (by simpa using first token head)] at search
      exact search ▸ rfl

/-- A server that refuses the ids of folders only. -/
def newFolderServer : UaServer where
  addsNode space node _ := !space.isFolder node.nodeId
  addsReference _ _ := true

def deviceAdapter : UaAdapter :=
  ({ serverConfig.rootFolder := "device" } : UaAdapter).mapSelfToNamespace newFolderServer

example : deviceAdapter.ownNodeId = folderId "device" [] := by decide

private theorem deviceAdapter_noFolder (nodeId : NodeId) : deviceAdapter.space.isFolder nodeId = false := by
  have types : ∀ reference ∈ deviceAdapter.space.references, reference.target ≠ folderType := by decide
  rw [AddressSpace.isFolder, decide_eq_false_iff_not]
  exact fun member => types _ member rfl

theorem folder_paths_of_device :
    let root := folderId "device" []
    let before := createFolderPaths newFolderServer root deviceAdapter [["a", "b"], ["a"]]
    let path : List Text := ["a", "c", "d"]
    let after := (before.createFolderPath newFolderServer root path).2
    (before.createFolderPath newFolderServer root path).1.isNull = false ∧
      after.existFolderPath root path = (before.createFolderPath newFolderServer root path).1 ∧
      after.createFolderPath newFolderServer root path =
        ((before.createFolderPath newFolderServer root path).1, after) ∧
      before.folderVector <+: after.folderVector ∧ AddsMissing "device" before after path ∧
      (after.folderVector.map fun i => (i.prevFolderNodeId, i.folderName)).Nodup ∧
      (after.folderVector.map (·.folderNodeId)).Nodup :=
  folder_paths_created (fun _ _ _ _ => by simp [newFolderServer]) "device" _ rfl deviceAdapter_noFolder _ (by simp [AreTokens]) _ (by simp [AreTokens])

end OpcUaAdapter
