import OpcUaAdapter.UaAdapter
import OpcUaAdapter.Library.Paths

/-! The folder table as a set of paths: what its entries are, what a search finds there,
and where the existing part of a path ends. -/

namespace OpcUaAdapter

def treePath (rootFolder : Text) (path : List Text) : Text := rootFolder ++ path.flatMap fun token => '/' :: token

def folderId (rootFolder : Text) (path : List Text) : NodeId := .string (treePath rootFolder path ++ "Dir")

theorem treePath_append (rootFolder : Text) (path : List Text) (token : Text) :
    treePath rootFolder (path ++ [token]) = treePath rootFolder path ++ '/' :: token := by
  simp [treePath]

theorem cutDir_append (text : Text) : cutDir (text ++ "Dir") = text := by
  have length : (text ++ ("Dir" : Text)).length - 3 = text.length := by
    rw [List.length_append]
    exact Nat.add_sub_cancel _ _
  rw [cutDir, length, List.take_left]

theorem baseName_folderId (rootFolder : Text) (path : List Text) :
    (folderId rootFolder path).baseName = treePath rootFolder path := cutDir_append _

def folderInfo (rootFolder : Text) (path : List Text) : FolderInfo :=
  ⟨path.getLast?.getD [], folderId rootFolder path, folderId rootFolder path.dropLast⟩

theorem folderId_ne_null (rootFolder : Text) (path : List Text) : (folderId rootFolder path).isNull = false := rfl

/-- The table holds the folders with these paths, each with an id of its own and below a
folder of the table or the root folder. -/
structure FolderTable (rootFolder : Text) (adapter : UaAdapter) (folders : List (List Text)) : Prop where
  table : adapter.folderVector = folders.map (folderInfo rootFolder)
  distinct : ∀ first ∈ folders, ∀ second ∈ folders, folderId rootFolder first = folderId rootFolder second → first = second
  filled : ∀ path ∈ folders, path ≠ []
  closed : ∀ path ∈ folders, path.dropLast = [] ∨ path.dropLast ∈ folders

section Search

variable {rootFolder : Text} {adapter : UaAdapter} {folders : List (List Text)}

theorem FolderTable.path_eq (kept : FolderTable rootFolder adapter folders)
    {first second : List Text} (here : first = [] ∨ first ∈ folders) (there : second = [] ∨ second ∈ folders)
    (same : folderId rootFolder first = folderId rootFolder second) : first = second := by
  have longer {path : List Text} (member : path ∈ folders) : folderId rootFolder path ≠ folderId rootFolder [] := by
    intro equal
    injection equal with equal
    have := congrArg List.length (List.append_cancel_right equal)
    obtain ⟨token, rest, rfl⟩ := List.exists_cons_of_ne_nil (kept.filled path member)
    simp [treePath] at this
  rcases here with rfl | here <;> rcases there with rfl | there
  · rfl
  · exact absurd same.symm (longer there)
  · exact absurd same (longer here)
  · exact kept.distinct first here second there same

theorem FolderTable.folderInfo_iff (kept : FolderTable rootFolder adapter folders)
    {path : List Text} (here : path = [] ∨ path ∈ folders) {other : List Text} (member : other ∈ folders)
    (token : Text) :
    (folderInfo rootFolder other).folderName = token ∧
        (folderInfo rootFolder other).prevFolderNodeId = folderId rootFolder path ↔ other = path ++ [token] := by
  obtain ⟨before, last, rfl⟩ := (List.eq_nil_or_concat other).resolve_left (kept.filled other member)
  have closed := kept.closed _ member
  rw [List.concat_eq_append, List.dropLast_concat] at closed
  simp only [folderInfo, List.concat_eq_append, List.getLast?_concat, Option.getD_some, List.dropLast_concat]
  constructor
  · rintro ⟨rfl, same⟩
    rw [kept.path_eq closed here same]
  · intro same
    obtain ⟨front, back⟩ := List.append_inj' same rfl
    exact ⟨List.singleton_inj.mp back, by rw [front]⟩

/-- The entry for a folder below a known path is found just when the folder is there. -/
theorem FolderTable.find (kept : FolderTable rootFolder adapter folders)
    {path : List Text} (here : path = [] ∨ path ∈ folders) (token : Text) :
    (adapter.folderVector.find? fun i => i.folderName = token && i.prevFolderNodeId = folderId rootFolder path) =
      if path ++ [token] ∈ folders then some (folderInfo rootFolder (path ++ [token])) else none := by
  rw [kept.table, List.find?_map]
  cases found : folders.find? _ with
  | some other =>
    have member := List.mem_of_find?_eq_some found
    have matches_ := List.find?_some found
    simp only [Function.comp_apply, Bool.and_eq_true, decide_eq_true_eq] at matches_
    rw [kept.folderInfo_iff here member] at matches_
    rw [← matches_, if_pos member]
    rfl
  | none =>
    rw [if_neg]
    · rfl
    intro member
    have missing := List.find?_eq_none.mp found _ member
    simp only [Function.comp_apply, Bool.and_eq_true, decide_eq_true_eq] at missing
    exact missing ((kept.folderInfo_iff here member token).mpr rfl)

theorem FolderTable.existFolder (kept : FolderTable rootFolder adapter folders)
    {path : List Text} (here : path = [] ∨ path ∈ folders) (token : Text) :
    adapter.existFolder (folderId rootFolder path) token =
      if path ++ [token] ∈ folders then folderId rootFolder (path ++ [token]) else .null := by
  unfold UaAdapter.existFolder
  rw [kept.find here]
  by_cases member : path ++ [token] ∈ folders
  · simp only [if_pos member]
    rfl
  · simp only [if_neg member]

theorem FolderTable.prefix_mem (kept : FolderTable rootFolder adapter folders)
    {path rest : List Text} (filled : path ≠ []) (member : path ++ rest ∈ folders) : path ∈ folders := by
  induction rest using List.reverseRecOn with
  | nil => simpa using member
  | append_singleton rest token ih =>
    rw [← List.append_assoc] at member
    have closed := kept.closed _ member
    rw [List.dropLast_concat] at closed
    exact ih (closed.resolve_left (List.append_ne_nil_of_left_ne_nil filled rest))

theorem FolderTable.existFolderPath (kept : FolderTable rootFolder adapter folders)
    {path tokens : List Text} (here : path = [] ∨ path ∈ folders) :
    adapter.existFolderPath (folderId rootFolder path) tokens =
      if tokens = [] ∨ path ++ tokens ∈ folders then folderId rootFolder (path ++ tokens) else .null := by
  induction tokens generalizing path with
  | nil => simp [UaAdapter.existFolderPath]
  | cons token tokens ih =>
    unfold UaAdapter.existFolderPath
    rw [kept.existFolder here]
    by_cases next : path ++ [token] ∈ folders
    · simp only [if_pos next, folderId_ne_null, Bool.false_eq_true, if_false]
      rw [ih (.inr next), List.append_assoc, List.singleton_append]
      by_cases last : tokens = []
      · simp [last, next]
      · simp [last]
    · have absent : path ++ token :: tokens ∉ folders := by
        intro member
        rw [List.append_cons] at member
        exact next (kept.prefix_mem (by simp) member)
      simp [next, absent, NodeId.isNull]

/-- The path is split before the first folder that is missing, or before its last one. -/
theorem FolderTable.partlyExisting (kept : FolderTable rootFolder adapter folders)
    {path tokens : List Text} (here : path = [] ∨ path ∈ folders) (missing : path ++ tokens ∉ folders)
    (some_token : tokens ≠ []) :
    ∃ before token rest, tokens = before ++ token :: rest ∧
      adapter.partlyExisting (folderId rootFolder path) tokens = (folderId rootFolder (path ++ before), token :: rest) ∧
      (path ++ before = [] ∨ path ++ before ∈ folders) ∧ path ++ before ++ [token] ∉ folders := by
  induction tokens generalizing path with
  | nil => exact absurd rfl some_token
  | cons token tokens ih =>
    cases tokens with
    | nil => exact ⟨[], token, [], rfl, by simp [UaAdapter.partlyExisting], by simpa using here, by simpa using missing⟩
    | cons next tokens =>
      have found := kept.find here token
      simp only [@eq_comm _ _ token] at found
      unfold UaAdapter.partlyExisting
      rw [found]
      by_cases member : path ++ [token] ∈ folders
      · rw [if_pos member]
        obtain ⟨before, last, rest, split, partly, known, absent⟩ :=
          ih (.inr member) (by simpa using missing) (List.cons_ne_nil _ _)
        refine ⟨token :: before, last, rest, by rw [split]; rfl, ?_, by simpa using known, by simpa using absent⟩
        simp only [List.append_assoc, List.singleton_append] at partly
        exact partly
      · rw [if_neg member]
        exact ⟨[], token, next :: tokens, rfl, by simp, by simpa using here, by simpa using member⟩

end Search

/-- The folders on the way from a path to what lies below it. -/
def OnWay (path left other : List Text) : Prop := ∃ part, part ≠ [] ∧ part <+: left ∧ other = path ++ part

theorem not_onWay_nil {path other : List Text} : ¬ OnWay path [] other := by
  rintro ⟨part, filled, inside, _⟩
  exact filled (List.prefix_nil.mp inside)

theorem onWay_cons {path left other : List Text} {token : Text} :
    OnWay path (token :: left) other ↔ other = path ++ [token] ∨ OnWay (path ++ [token]) left other := by
  constructor
  · rintro ⟨part, filled, inside, rfl⟩
    obtain ⟨first, rest, rfl⟩ := List.exists_cons_of_ne_nil filled
    obtain ⟨rfl, tail⟩ := List.cons_prefix_cons.mp inside
    by_cases last : rest = []
    · exact .inl (by rw [last])
    · exact .inr ⟨rest, last, tail, List.append_cons path first rest⟩
  · rintro (rfl | ⟨part, _, inside, rfl⟩)
    · exact ⟨[token], List.cons_ne_nil _ _, (List.prefix_cons_inj token).mpr List.nil_prefix, rfl⟩
    · exact ⟨token :: part, List.cons_ne_nil _ _, (List.prefix_cons_inj token).mpr inside,
        (List.append_cons path token part).symm⟩

def folderNode (rootFolder : Text) (path : List Text) (token description : Text) : UaNode where
  nodeId := folderId rootFolder (path ++ [token])
  nodeClass := .object
  browseName := token
  displayName := token
  description := description

theorem createUAFolder_eq (server : UaServer) (rootFolder : Text) (adapter : UaAdapter) (path : List Text) (token description : Text) :
    adapter.createUAFolder server (folderId rootFolder path) token description =
      adapter.addNode server (folderNode rootFolder path token description) (folderId rootFolder path) .organizes
        (some folderType) := by
  have text : cutDir (treePath rootFolder path ++ "Dir") ++ '/' :: token ++ "Dir" =
      treePath rootFolder (path ++ [token]) ++ "Dir" := by
    rw [cutDir_append, treePath_append]
  simp only [UaAdapter.createUAFolder, folderNode, folderId, text]

end OpcUaAdapter
