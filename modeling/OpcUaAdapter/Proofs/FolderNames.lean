import OpcUaAdapter.Proofs.FolderPaths
import OpcUaAdapter.Proofs.MappingSteps
import OpcUaAdapter.Proofs.VariableRenaming
import OpcUaAdapter.Proofs.VariableUpdates

/-! The names of folders: the entries of the folder table have the ids that the mapping asks
for, and a path that is enrolled leads to the folder whose id its text gives. -/

namespace OpcUaAdapter

open Effects

/-- A path cut at its slashes, the last of which stands before a name. -/
theorem parseVariablePath_concat (path : Text) {name : Text} (filled : name ≠ []) (plain : '/' ∉ name) :
    parseVariablePath (path ++ '/' :: name) "/" = parseVariablePath path "/" ++ [name] := by
  have single : name.splitOnP (fun c => ("/" : Text).contains c) = [name] := by
    refine List.splitOnP_eq_singleton fun c member => ?_
    have other : c ≠ '/' := fun same => plain (same ▸ member)
    simpa using other
  unfold parseVariablePath
  rw [List.splitOnP_append_cons _ _ (by decide), single, List.filter_append]
  simp [filled]

/-- The letters of a path are those of its tokens. -/
theorem flatten_parseVariablePath (path : Text) :
    (parseVariablePath path "/").flatten = path.filter fun c => c ≠ '/' := by
  have letters : (path.splitOnP fun c => ("/" : Text).contains c).flatten = path.filter fun c => c ≠ '/' := by
    induction path with
    | nil => rfl
    | cons c path ih =>
      obtain ⟨head, tail, split⟩ :=
        List.exists_cons_of_ne_nil (List.splitOnP_ne_nil (fun c => ("/" : Text).contains c) path)
      rw [List.splitOnP_cons_eq_if_modifyHead, split]
      rw [split] at ih
      by_cases slash : c = '/'
      · simpa [slash] using ih
      · simpa [slash] using ih
  unfold parseVariablePath
  rw [← letters]
  generalize (path.splitOnP fun c => ("/" : Text).contains c) = tokens
  induction tokens with
  | nil => rfl
  | cons token tokens ih => cases token <;> simp [ih]

/-- The id that is asked for when a folder is created. -/
def createdFolderId (base : NodeId) (folderName : Text) : NodeId :=
  .string (match base with
    | .string identifier => cutDir identifier ++ '/' :: folderName ++ "Dir"
    | .numeric _ identifier => '/' :: intText identifier ++ "Dir")

private theorem createdFolderId_folderId (rootFolder : Text) (path : List Text) (folderName : Text) :
    createdFolderId (folderId rootFolder path) folderName = folderId rootFolder (path ++ [folderName]) := by
  unfold createdFolderId folderId
  rw [treePath_append]
  exact congrArg (fun text => NodeId.string (text ++ '/' :: folderName ++ "Dir")) (cutDir_append _)

/-- The folders of the table are below known ones, and go by the ids that were asked for
unless the server has refused them. -/
structure NamesFolders (adapter : UaAdapter) : Prop where
  rooted : ∀ i ∈ adapter.folderVector, i.prevFolderNodeId.isNull = false
  named : ∀ i ∈ adapter.folderVector,
    i.folderNodeId = .null ∨ i.folderNodeId = createdFolderId i.prevFolderNodeId i.folderName

/-- The id of the folder with a path, or none. -/
def IsFolderId (rootFolder : Text) (path : List Text) (nodeId : NodeId) : Prop :=
  nodeId = .null ∨ nodeId = folderId rootFolder path

section Folders

variable {server : UaServer} {rootFolder : Text} {adapter : UaAdapter} {base : NodeId} {path : List Text}

theorem NamesFolders.existFolder (names : NamesFolders adapter) (here : base = folderId rootFolder path)
    (folderName : Text) : IsFolderId rootFolder (path ++ [folderName]) (adapter.existFolder base folderName) := by
  unfold UaAdapter.existFolder
  split
  next i found =>
    have named := List.find?_some found
    simp only [Bool.and_eq_true, decide_eq_true_eq] at named
    refine (names.named i (List.mem_of_find?_eq_some found)).imp_right fun same => ?_
    rw [same, named.1, named.2, here, createdFolderId_folderId]
  next => exact .inl rfl

theorem NamesFolders.existFolderPath (names : NamesFolders adapter) (here : base = folderId rootFolder path)
    (left : List Text) : IsFolderId rootFolder (path ++ left) (adapter.existFolderPath base left) := by
  induction left generalizing base path with
  | nil => exact .inr (by rw [here, List.append_nil]; rfl)
  | cons folder left ih =>
    unfold UaAdapter.existFolderPath
    dsimp only
    split
    next => exact .inl rfl
    next known =>
      have found := (names.existFolder here folder).resolve_left fun null => known (by rw [null]; rfl)
      have below := ih found
      rwa [List.append_assoc] at below

/-- Behind a folder that the server has refused, nothing is found. -/
theorem NamesFolders.partlyExisting_null (names : NamesFolders adapter) (left : List Text) :
    adapter.partlyExisting .null left = (.null, left) := by
  generalize none : NodeId.null = base
  fun_cases adapter.partlyExisting base left with
  | case1 base folder next left i found =>
    have known := List.find?_some found
    simp only [Bool.and_eq_true, decide_eq_true_eq] at known
    have rooted := names.rooted i (List.mem_of_find?_eq_some found)
    rw [known.2, ← none] at rooted
    cases rooted
  | case2 base folder next left missing => rfl
  | case3 base left single => rfl

/-- Where the existing part of a path ends, and what is left of the path. -/
theorem NamesFolders.partlyExisting (names : NamesFolders adapter) (here : base = folderId rootFolder path)
    (left : List Text) : ∃ front, left = front ++ (adapter.partlyExisting base left).2 ∧
      IsFolderId rootFolder (path ++ front) (adapter.partlyExisting base left).1 := by
  fun_induction adapter.partlyExisting base left generalizing path with
  | case1 base folder next left i found ih =>
    have known := List.find?_some found
    simp only [Bool.and_eq_true, decide_eq_true_eq] at known
    have member := List.mem_of_find?_eq_some found
    rcases names.named i member with null | same
    · rw [null, names.partlyExisting_null]
      exact ⟨[folder], rfl, .inl rfl⟩
    · rw [known.2, here, ← known.1, createdFolderId_folderId] at same
      obtain ⟨front, split, last⟩ := ih same
      exact ⟨folder :: front, congrArg (folder :: ·) split, by simpa using last⟩
  | case2 base folder next left missing => exact ⟨[], rfl, .inr (by rw [here, List.append_nil])⟩
  | case3 base left single => exact ⟨[], rfl, .inr (by rw [here, List.append_nil])⟩

private theorem createUAFolder_fst (folderName : Text) :
    (adapter.createUAFolder server base folderName []).1 = .null ∨
      (adapter.createUAFolder server base folderName []).1 = createdFolderId base folderName := by
  refine (adapter.addNode_fst server _ base .organizes (some folderType)).imp_right fun same => same.trans ?_
  unfold createdFolderId
  cases base <;> rfl

theorem NamesFolders.createFolder (names : NamesFolders adapter) (base : NodeId) (folderName : Text) :
    NamesFolders (adapter.createFolder server base folderName).2 := by
  unfold UaAdapter.createFolder
  split
  next => exact names
  next known =>
  split
  next absent =>
    have asked := @createUAFolder_fst server adapter base folderName
    refine ⟨fun i member => ?_, fun i member => ?_⟩
    · change i ∈ adapter.folderVector ++ [_] at member
      rcases List.mem_append.mp member with old | new
      · exact names.rooted i old
      · rw [List.mem_singleton.mp new]
        exact Bool.eq_false_iff.mpr known
    · change i ∈ adapter.folderVector ++ [_] at member
      rcases List.mem_append.mp member with old | new
      · exact names.named i old
      · rw [List.mem_singleton.mp new]
        exact asked
  next => exact names

private theorem createFolder_fst (here : IsFolderId rootFolder path base) (folderName : Text) :
    IsFolderId rootFolder (path ++ [folderName]) (adapter.createFolder server base folderName).1 := by
  unfold UaAdapter.createFolder
  split
  next => exact .inl rfl
  next known =>
  have here := here.resolve_left fun null => known (by rw [null]; rfl)
  split
  next absent =>
    refine (@createUAFolder_fst server adapter base folderName).imp_right fun same => ?_
    rw [same, here, createdFolderId_folderId]
  next => exact .inl rfl

theorem NamesFolders.createFolders (names : NamesFolders adapter) (base : NodeId) (left : List Text) :
    NamesFolders (adapter.createFolders server base left).2 := by
  induction left generalizing adapter base with
  | nil => exact names
  | cons folder left ih => exact ih (names.createFolder base folder) _

private theorem createFolders_fst (here : IsFolderId rootFolder path base) (left : List Text) :
    IsFolderId rootFolder (path ++ left) (adapter.createFolders server base left).1 := by
  induction left generalizing adapter base path with
  | nil => rwa [List.append_nil]
  | cons folder left ih =>
    have first := @createFolder_fst server _ adapter _ _ here folder
    have below := @ih (adapter.createFolder server base folder).2 _ _ first
    rwa [List.append_assoc] at below

theorem NamesFolders.enroll (names : NamesFolders adapter) (text separator : Text) :
    NamesFolders (adapter.enrollFolderPathFromString server text separator).2 := by
  simp only [UaAdapter.enrollFolderPathFromString]
  generalize (if separator.isEmpty then [] else parseVariablePath text separator) = varPathVector
  split
  next => exact names
  next =>
  unfold UaAdapter.createFolderPath
  split
  next => exact names
  next =>
  split
  next => exact names.createFolders _ _
  next => exact names

/-- The folder of a path, found or created, has the id of the path where it has one. -/
theorem NamesFolders.enroll_fst (names : NamesFolders adapter) (own : IsFolderId rootFolder [] adapter.ownNodeId)
    (text : Text) : IsFolderId rootFolder (parseVariablePath text "/").dropLast
      (adapter.enrollFolderPathFromString server text "/").1 := by
  unfold UaAdapter.enrollFolderPathFromString
  simp only [show ("/" : Text).isEmpty = false from rfl, Bool.false_eq_true, if_false]
  split
  next => exact .inl rfl
  next =>
  unfold UaAdapter.createFolderPath
  split
  next => exact .inl rfl
  next known =>
  have here := own.resolve_left fun null => known (by rw [null]; rfl)
  split
  next =>
    obtain ⟨front, split, last⟩ := names.partlyExisting here (parseVariablePath text "/").dropLast
    have created := @createFolders_fst server _ adapter _ _ last
      (adapter.partlyExisting adapter.ownNodeId (parseVariablePath text "/").dropLast).2
    rwa [List.append_assoc, ← split] at created
  next => exact names.existFolderPath here _

end Folders

theorem NamesFolders.congr {adapter after : UaAdapter} (names : NamesFolders adapter)
    (same : after.folderVector = adapter.folderVector) : NamesFolders after :=
  ⟨fun i member => names.rooted i (same ▸ member), fun i member => names.named i (same ▸ member)⟩

namespace UaAdapter

variable (server : UaServer) (adapter : UaAdapter)

theorem enroll_variableVector (path separator : Text) :
    (adapter.enrollFolderPathFromString server path separator).2.variableVector = adapter.variableVector := by
  have folder (adapter : UaAdapter) (base : NodeId) (folderName : Text) :
      (adapter.createFolder server base folderName).2.variableVector = adapter.variableVector := by
    unfold createFolder
    split
    next => rfl
    next => split <;> rfl
  have all (base : NodeId) (path : List Text) :
      (adapter.createFolders server base path).2.variableVector = adapter.variableVector := by
    induction path generalizing adapter base with
    | nil => rfl
    | cons name path ih => exact (ih _ _).trans (folder _ _ _)
  simp only [enrollFolderPathFromString]
  generalize (if separator.isEmpty then [] else parseVariablePath path separator) = varPathVector
  split
  next => rfl
  next =>
  unfold createFolderPath
  split
  next => rfl
  next =>
  split
  next => exact all _ _
  next => rfl

theorem newProcessVariable_tables (base : NodeId) (oneProcessVariable : ProcessVariable)
    (namePV overwriteNodeString : Text) :
    let after := (adapter.newProcessVariable server base oneProcessVariable namePV overwriteNodeString).2
    after.folderVector = adapter.folderVector ∧ after.variableVector = adapter.variableVector := by
  have children (adapter : UaAdapter) (pvNodeId : NodeId) (pvNodePath : Text) (children : List Text) :
      (adapter.addPVChildNodes server pvNodeId pvNodePath namePV children).folderVector = adapter.folderVector ∧
        (adapter.addPVChildNodes server pvNodeId pvNodePath namePV children).variableVector =
          adapter.variableVector := by
    induction children generalizing adapter with
    | nil => exact ⟨rfl, rfl⟩
    | cons child children ih =>
      unfold addPVChildNodes
      dsimp only
      split
      next => exact ⟨rfl, rfl⟩
      next => exact ih _
  simp only [newProcessVariable]
  generalize (if overwriteNodeString.isEmpty then namePV else overwriteNodeString) = nameNew
  split
  next => exact ⟨rfl, rfl⟩
  next =>
  split
  next => exact ⟨rfl, rfl⟩
  next =>
  unfold mapVariable
  dsimp only
  split
  next => exact ⟨rfl, rfl⟩
  next => exact children _ _ _ _

end UaAdapter

/-- The adapter's own node stays, and the names of the folders are kept. -/
def NamesOn (before after : UaAdapter) : Prop :=
  after.ownNodeId = before.ownNodeId ∧ (NamesFolders before → NamesFolders after)

theorem NamesOn.of_same {before after : UaAdapter} (own : after.ownNodeId = before.ownNodeId)
    (folders : after.folderVector = before.folderVector) : NamesOn before after := ⟨own, fun names => names.congr folders⟩

instance : LocalSteps NamesOn where
  refl _ := ⟨rfl, id⟩
  trans _ _ _ first rest := ⟨rest.1.trans first.1, rest.2 ∘ first.2⟩
  aside same := .of_same same.own same.folders
  writeDescription _ _ _ := .of_same rfl rfl
  writeDisplayName _ _ _ := .of_same rfl rfl

instance (server : UaServer) : ServerSteps server NamesOn where
  addComponent _ _ _ := .of_same rfl rfl
  createFolder adapter base folderName :=
    ⟨(adapter.createFolder_grows server base folderName []).own, fun names => names.createFolder base folderName⟩
  enroll adapter path separator :=
    ⟨(adapter.enrollFolderPathFromString_grows server path separator).own, fun names => names.enroll path separator⟩
  newProcessVariable adapter base oneProcessVariable namePV overwriteNodeString :=
    .of_same (adapter.newProcessVariable_grows server base oneProcessVariable namePV overwriteNodeString).own
      (adapter.newProcessVariable_tables server base oneProcessVariable namePV overwriteNodeString).1
  newAdditionalVariable adapter base name value description := by
    apply NamesOn.of_same (adapter.newAdditionalVariable_grows server base name value description).own
    simp only [UaAdapter.newAdditionalVariable]
    split <;> rfl

instance : FaultSteps NamesOn where
  fault _ _ := .of_same rfl rfl

instance : AdditionalSteps NamesOn where
  enter _ _ := .of_same rfl rfl

instance (server : UaServer) : LinkSteps server NamesOn where
  addReference _ _ := .of_same rfl rfl

instance : RootSteps NamesOn where
  move _ _ := .of_same rfl rfl

end OpcUaAdapter
