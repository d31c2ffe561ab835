import OpcUaAdapter.Proofs.ImplicitNodes

/-! The variables of the implicit mapping. Each one asks for its folders, its own node and
the nodes below it; a run over all of them keeps its granted requests and its places. -/

namespace OpcUaAdapter

theorem parseVariablePath_ne_nil {path separator : Text} (named : ∃ c ∈ path, c ∉ separator) :
    parseVariablePath path separator ≠ [] := by
  have filled : ∃ token ∈ path.splitOnP fun c => separator.contains c, token ≠ [] := by
    obtain ⟨c, member, plain⟩ := named
    induction path with
    | nil => cases member
    | cons first path ih =>
      rw [List.splitOnP_cons_eq_if_modifyHead]
      obtain ⟨token, tokens, split⟩ :=
        List.exists_cons_of_ne_nil (List.splitOnP_ne_nil (fun c => separator.contains c) path)
      rcases List.mem_cons.mp member with rfl | later
      · rw [if_neg (by simpa using plain), split]
        exact ⟨c :: token, by simp, List.cons_ne_nil _ _⟩
      · obtain ⟨other, inside, filled⟩ := ih later
        by_cases cut : separator.contains first = true
        · rw [if_pos cut]
          exact ⟨other, List.mem_cons_of_mem _ inside, filled⟩
        · rw [if_neg cut, split]
          rw [split] at inside
          rcases List.mem_cons.mp inside with rfl | behind
          · exact ⟨first :: other, by simp, List.cons_ne_nil _ _⟩
          · exact ⟨other, by simp [behind], filled⟩
  obtain ⟨token, member, filled⟩ := filled
  exact List.ne_nil_of_mem (List.mem_filter.mpr ⟨member, by simpa using filled⟩)

def UsableName (separator name : Text) : Prop := ∃ rest, name = '/' :: rest ∧ ∃ c ∈ rest, c ∉ separator

theorem UsableName.parsed {separator name : Text} (usable : UsableName separator name) :
    parseVariablePath name separator ≠ [] := by
  obtain ⟨rest, rfl, c, member, plain⟩ := usable
  exact parseVariablePath_ne_nil ⟨c, List.mem_cons_of_mem _ member, plain⟩

theorem UsableName.tokens {separator name : Text} (usable : UsableName separator name) :
    nameTokens separator name ≠ [] := by
  unfold nameTokens
  split
  next => exact List.cons_ne_nil _ _
  next => exact usable.parsed

private theorem nonempty_of_mem_nameTokens {separator name : Text} (usable : UsableName separator name) {token : Text}
    (member : token ∈ nameTokens separator name) : token ≠ [] := by
  unfold nameTokens at member
  split at member
  next =>
    obtain ⟨rest, rfl, c, inside, _⟩ := usable
    rw [List.mem_singleton.mp member]
    exact List.ne_nil_of_mem inside
  next => simpa using (List.mem_filter.mp member).2

private theorem NodeRequest.pv_ne_folder (name : Text) (path : List Text) : NodeRequest.pv name ≠ .folder path := by
  intro same
  cases same

private theorem NodeRequest.child_ne_folder (name part : Text) (path : List Text) :
    NodeRequest.child name part ≠ .folder path := by
  intro same
  cases same

private theorem NodeRequest.child_ne_pv (name part other : Text) : NodeRequest.child name part ≠ .pv other := by
  intro same
  cases same

section Steps

variable {server : UaServer} {rootFolder separator : Text} {wanted : NodeRequest → Prop} {start adapter : UaAdapter}
  {made : List NodeRequest} {folders : List (List Text)}

/-- The children of a variable are added one after the other. -/
theorem FoldersKept.addPVChildNodes (law : AddsUnused server) {name : Text}
    (kept : FoldersKept rootFolder separator wanted start adapter made folders) {children : List Text}
    (asked : ∀ child ∈ children, wanted (.child name child)) (distinct : children.Nodup)
    (new : ∀ child ∈ children, NodeRequest.child name child ∉ made)
    (fresh : ∀ child ∈ children,
      start.space.hasNode ((NodeRequest.child name child).nodeId rootFolder separator) = false)
    (pvNodeId : NodeId) (namePV : Text) :
    let after :=
      adapter.addPVChildNodes server pvNodeId (treePath rootFolder (nameTokens separator name)) namePV children
    Clash rootFolder separator wanted start after ∨
      FoldersKept rootFolder separator wanted start after (made ++ children.map (.child name)) folders := by
  induction children generalizing adapter made with
  | nil => exact .inr (by simpa [UaAdapter.addPVChildNodes] using kept)
  | cons child children ih =>
    obtain ⟨first, later⟩ := List.nodup_cons.mp distinct
    simp only [UaAdapter.addPVChildNodes]
    have asks : (pvChildNode (treePath rootFolder (nameTokens separator name)) namePV child).nodeId =
        (NodeRequest.child name child).nodeId rootFolder separator := rfl
    rcases kept.addNode law (asked child List.mem_cons_self) (NodeRequest.child_ne_folder name child)
      (new child List.mem_cons_self) (fresh child List.mem_cons_self) asks pvNodeId .hasComponent
      (some baseDataVariableType) with clash | ⟨added, _, _, next⟩
    · left
      split
      next => exact clash
      next => exact clash.grows (UaAdapter.addPVChildNodes_grows server _ _ _ _ _)
    · simp only [added]
      have some_id : ((NodeRequest.child name child).nodeId rootFolder separator).isNull = false := rfl
      simp only [some_id, Bool.false_eq_true, if_false]
      have step := ih next (fun other member => asked other (List.mem_cons_of_mem _ member)) later ?_
        (fun other member => fresh other (List.mem_cons_of_mem _ member))
      · simpa [List.append_assoc] using step
      · intro other member earlier
        rcases List.mem_append.mp earlier with old | last
        · exact new other (List.mem_cons_of_mem _ member) old
        · injection List.mem_singleton.mp last with _ same
          exact first (same ▸ member)

/-- What is asked for a variable besides its folders. -/
def ownRequests (useBoolAsVoid : Bool) (pv : ProcessVariable) : List NodeRequest :=
  .pv pv.name :: if pv.valueType = .void && !useBoolAsVoid then [] else pvChildNames.map (.child pv.name)

private theorem mem_ownRequests {useBoolAsVoid : Bool} {pv : ProcessVariable} {request : NodeRequest} :
    request ∈ ownRequests useBoolAsVoid pv ↔ request = .pv pv.name ∨
      ¬ IsMethod useBoolAsVoid pv ∧ ∃ child ∈ pvChildNames, request = .child pv.name child := by
  unfold ownRequests IsMethod
  rw [List.mem_cons]
  refine or_congr_right ?_
  by_cases method : pv.valueType = .void ∧ useBoolAsVoid = false
  · simp [method]
  · have decided : (decide (pv.valueType = .void) && !useBoolAsVoid) = false := by
      simpa using method
    simp only [decided, Bool.false_eq_true, if_false, method, not_false_eq_true, true_and, List.mem_map,
      @eq_comm _ request]

theorem untouched_own (untouched : Untouched rootFolder start) {name : Text}
    (tokens : nameTokens separator name ≠ []) {request : NodeRequest}
    (own : request = .pv name ∨ ∃ child, request = .child name child) :
    start.space.hasNode (request.nodeId rootFolder separator) = false := by
  have below : ∃ text, request.nodeId rootFolder separator = .string (rootFolder ++ '/' :: text) := by
    rcases own with rfl | ⟨child, rfl⟩
    · exact @NodeRequest.nodeId_below separator (.pv name) tokens rootFolder
    · exact @NodeRequest.nodeId_below separator (.child name child) tokens rootFolder
  obtain ⟨text, same⟩ := below
  rw [same]
  exact untouched text

def pvNode (nodeId : NodeId) (nodeClass : NodeClass) (pv : ProcessVariable) (nameNew : Text) : UaNode where
  nodeId := nodeId
  nodeClass := nodeClass
  browseName := nameNew
  displayName := nameNew
  description := pv.description

/-- A variable has its node in its folder, and all that was asked for was granted. -/
structure NodeGranted (rootFolder separator : Text) (wanted : NodeRequest → Prop) (start : UaAdapter)
    (mapped : NodeId × UaAdapter) (name : Text) (path : List Text) (made : List NodeRequest)
    (folders : List (List Text)) : Prop where
  node : mapped.1 = (NodeRequest.pv name).nodeId rootFolder separator
  attached : ⟨folderId rootFolder path, .hasComponent, (NodeRequest.pv name).nodeId rootFolder separator⟩ ∈
    mapped.2.space.references
  kept : FoldersKept rootFolder separator wanted start mapped.2 made folders

private theorem pvNode_text {name : Text} {path : List Text} {last : Text}
    (tokens : nameTokens separator name = path ++ [last]) :
    (folderId rootFolder path).baseName ++ '/' :: last = treePath rootFolder (nameTokens separator name) := by
  rw [baseName_folderId, tokens, treePath_append]

private theorem pvNode_asks (nodeClass : NodeClass) (pv : ProcessVariable) (nameNew : Text) :
    (pvNode (.string (treePath rootFolder (nameTokens separator pv.name))) nodeClass pv nameNew).nodeId =
      (NodeRequest.pv pv.name).nodeId rootFolder separator := rfl

/-- A method in a known folder gets its node, or the id is taken. -/
theorem FoldersKept.mapVoidInput (law : AddsUnused server) (untouched : Untouched rootFolder start)
    (kept : FoldersKept rootFolder separator wanted start adapter made folders) {pv : ProcessVariable}
    {path : List Text} {last : Text} (tokens : nameTokens separator pv.name = path ++ [last])
    (asked : wanted (.pv pv.name)) (new : .pv pv.name ∉ made) :
    let mapped := adapter.mapVoidInput server (folderId rootFolder path) pv last
    Clash rootFolder separator wanted start mapped.2 ∨
      NodeGranted rootFolder separator wanted start mapped pv.name path (made ++ [.pv pv.name]) folders := by
  have fresh := untouched_own untouched (tokens ▸ List.append_ne_nil_of_right_ne_nil path (List.cons_ne_nil last []))
    (.inl rfl)
  simp only [UaAdapter.mapVoidInput, pvNode_text tokens]
  rcases kept.addNode law asked (NodeRequest.pv_ne_folder pv.name) new fresh (pvNode_asks .method pv last)
    (folderId rootFolder path) .hasComponent none with clash | ⟨added, _, reference, next⟩
  · exact .inl clash
  · exact .inr ⟨added, reference, next⟩

/-- A variable in a known folder gets its node and the nodes below it, or an id is taken. -/
theorem FoldersKept.mapVariable (law : AddsUnused server) (untouched : Untouched rootFolder start)
    (kept : FoldersKept rootFolder separator wanted start adapter made folders) {pv : ProcessVariable}
    {path : List Text} {last : Text} (tokens : nameTokens separator pv.name = path ++ [last])
    (asked : ∀ request ∈ .pv pv.name :: pvChildNames.map (.child pv.name), wanted request)
    (new : ∀ request ∈ .pv pv.name :: pvChildNames.map (.child pv.name), request ∉ made) (namePV : Text) :
    let mapped := adapter.mapVariable server (folderId rootFolder path) pv namePV last
    Clash rootFolder separator wanted start mapped.2 ∨
      NodeGranted rootFolder separator wanted start mapped pv.name path
        (made ++ .pv pv.name :: pvChildNames.map (.child pv.name)) folders := by
  have some_token : nameTokens separator pv.name ≠ [] :=
    tokens ▸ List.append_ne_nil_of_right_ne_nil path (List.cons_ne_nil last [])
  have fresh := untouched_own untouched some_token (.inl rfl)
  have child_member : ∀ child ∈ pvChildNames, NodeRequest.child pv.name child ∈
      NodeRequest.pv pv.name :: pvChildNames.map (.child pv.name) := fun child member =>
    List.mem_cons_of_mem _ (List.mem_map_of_mem member)
  simp only [UaAdapter.mapVariable, pvNode_text tokens]
  cases typed : adapter.space.hasDataType (.string (treePath rootFolder (nameTokens separator pv.name))) with
  | true =>
    left
    exact kept.logged.refused kept.inside (asked _ List.mem_cons_self) (new _ List.mem_cons_self) fresh
      (AddressSpace.hasNode_of_hasDataType typed) rfl
  | false =>
    simp only [Bool.false_eq_true, if_false]
    rcases kept.addNode law (asked _ List.mem_cons_self) (NodeRequest.pv_ne_folder pv.name) (new _ List.mem_cons_self)
      fresh (pvNode_asks .variable pv last) (folderId rootFolder path) .hasComponent (some ctkVariable) with
      clash | ⟨added, _, reference, next⟩
    · left
      exact clash.grows (UaAdapter.addPVChildNodes_grows server _ _ _ _ _)
    · have later : ∀ child ∈ pvChildNames, NodeRequest.child pv.name child ∉ made ++ [.pv pv.name] := by
        intro child member earlier
        rcases List.mem_append.mp earlier with old | last
        · exact new _ (child_member child member) old
        · exact absurd (List.mem_singleton.mp last) (NodeRequest.child_ne_pv _ _ _)
      rcases next.addPVChildNodes law (fun child member => asked _ (child_member child member)) (by decide) later
        (fun child _ => untouched_own untouched some_token (.inr ⟨child, rfl⟩))
        ((NodeRequest.pv pv.name).nodeId rootFolder separator) namePV with clash | below
      · left
        rw [← added] at clash
        exact clash
      · right
        rw [← added, List.append_assoc, List.singleton_append] at below
        exact ⟨added, (UaAdapter.addPVChildNodes_grows server _ _ _ _ _).references _ reference, below⟩

/-- The entry of a variable in a known folder stands for its node there, or an id is taken. -/
theorem FoldersKept.newProcessVariable (law : AddsUnused server) (untouched : Untouched rootFolder start)
    (kept : FoldersKept rootFolder separator wanted start adapter made folders) {pv : ProcessVariable}
    {path : List Text} {last : Text} (tokens : nameTokens separator pv.name = path ++ [last]) (filled : last ≠ [])
    (asked : ∀ request ∈ ownRequests adapter.serverConfig.useBoolAsVoid pv, wanted request)
    (new : ∀ request ∈ ownRequests adapter.serverConfig.useBoolAsVoid pv, request ∉ made) (namePV : Text) :
    let entered := adapter.newProcessVariable server (folderId rootFolder path) pv namePV last
    Clash rootFolder separator wanted start entered.2 ∨
    entered.1 = ⟨namePV, last, folderId rootFolder path, (NodeRequest.pv pv.name).nodeId rootFolder separator, [], []⟩ ∧
      ⟨folderId rootFolder path, .hasComponent, (NodeRequest.pv pv.name).nodeId rootFolder separator⟩ ∈
        entered.2.space.references ∧
      FoldersKept rootFolder separator wanted start entered.2
        (made ++ ownRequests adapter.serverConfig.useBoolAsVoid pv) folders := by
  have last_eq : (if last.isEmpty = true then namePV else last) = last := if_neg (by simpa using filled)
  have entry {nodeId : NodeId} (same : nodeId = (NodeRequest.pv pv.name).nodeId rootFolder separator) :=
    congrArg (UaProcessVariable.mk namePV last (folderId rootFolder path) · [] []) same
  simp only [UaAdapter.newProcessVariable, last_eq, folderId_ne_null, Bool.false_eq_true, if_false]
  by_cases method : adapter.usesMethod pv = true
  · have own : ownRequests adapter.serverConfig.useBoolAsVoid pv = [.pv pv.name] := by
      unfold UaAdapter.usesMethod at method
      simp [ownRequests, method]
    rw [own] at asked new ⊢
    rw [if_pos method]
    rcases kept.mapVoidInput law untouched tokens (asked _ List.mem_cons_self) (new _ List.mem_cons_self) with
      clash | ⟨node, attached, next⟩
    · exact .inl clash
    · exact .inr ⟨entry node, attached, next⟩
  · have own : ownRequests adapter.serverConfig.useBoolAsVoid pv = .pv pv.name :: pvChildNames.map (.child pv.name) := by
      unfold UaAdapter.usesMethod at method
      rw [ownRequests, if_neg method]
    rw [own] at asked new ⊢
    rw [if_neg method]
    rcases kept.mapVariable law untouched tokens asked new namePV with clash | ⟨node, attached, next⟩
    · exact .inl clash
    · exact .inr ⟨entry node, attached, next⟩

/-- The mapping of a variable enrolls the folders of its name and puts it into the last one. -/
theorem FoldersKept.enrolled (law : AddsUnused server) (untouched : Untouched rootFolder start)
    (kept : FoldersKept rootFolder separator wanted start adapter made folders)
    (own : adapter.ownNodeId = folderId rootFolder []) (cut : adapter.pvSeparator = separator) {pv : ProcessVariable}
    {path : List Text} {last : Text}
    (tokens : nameTokens separator pv.name = path ++ [last])
    (asked : ∀ part, part ≠ [] → part <+: path → wanted (.folder part)) :
    Clash rootFolder separator wanted start (adapter.implicitVarMapping server pv) ∨
    ∃ enrolled made' folders' shown, adapter.implicitVarMapping server pv =
        UaAdapter.enterVariable
          (enrolled.newProcessVariable server (folderId rootFolder path) pv (pv.name.drop 1) last) shown ∧
      Grows adapter enrolled ∧
      FoldersKept rootFolder separator wanted start enrolled (made ++ made') folders' ∧
      (∀ request ∈ made', ∃ other, request = .folder other) ∧
      ∀ other, other ∈ folders' ↔ other ∈ folders ∨ other ≠ [] ∧ other <+: path := by
  by_cases empty : separator.isEmpty = true
  · right
    rw [nameTokens, if_pos empty, ← List.nil_append [pv.name.drop 1]] at tokens
    obtain ⟨rfl, same⟩ := List.append_inj' tokens rfl
    obtain rfl := List.singleton_inj.mp same
    refine ⟨adapter, [], folders, ((parseVariablePath pv.name separator).getLast?).getD [], ?_, Grows.refl adapter,
      by simpa using kept, by simp, by simp⟩
    simp [UaAdapter.implicitVarMapping, UaAdapter.enrollFolderPathFromString, UaAdapter.enterVariable,
      UaAdapter.newProcessVariable, cut, empty, NodeId.isNull, own]
  · rw [nameTokens, if_neg empty] at tokens
    have enroll : adapter.enrollFolderPathFromString server pv.name separator =
        adapter.createFolderPath server (folderId rootFolder []) path := by
      simp [UaAdapter.enrollFolderPathFromString, empty, tokens, own]
    have grown := adapter.implicitVarMapping_grows_enrolled server pv
    rw [cut, enroll] at grown
    rcases kept.createFolderPath law untouched asked with clash | ⟨created, made', folders', kept', only, members⟩
    · exact .inl (clash.grows grown)
    · refine .inr ⟨_, made', folders', last, ?_, adapter.createFolderPath_grows server _ path, kept', only, members⟩
      simp only [UaAdapter.implicitVarMapping, cut, enroll, created, folderId_ne_null, Bool.false_eq_true, if_false,
        tokens, List.getLast?_concat, Option.getD_some]
      rfl

end Steps

/-- A mapped variable stands for itself: its node is the one its name stands for, in the
folder its name stands for. -/
structure Placed (rootFolder separator : Text) (adapter : UaAdapter) (pv : ProcessVariable)
    (mapped : UaProcessVariable) : Prop where
  listed : mapped ∈ adapter.variableVector
  source : mapped.namePV = pv.name.drop 1
  folder : mapped.baseNodeId = folderId rootFolder (nameTokens separator pv.name).dropLast
  node : mapped.ownNodeId = (NodeRequest.pv pv.name).nodeId rootFolder separator
  there : adapter.space.hasNode mapped.ownNodeId = true
  inside : adapter.space.hasNode mapped.baseNodeId = true
  attached : ⟨mapped.baseNodeId, .hasComponent, mapped.ownNodeId⟩ ∈ adapter.space.references

theorem Placed.grows {rootFolder separator : Text} {before after : UaAdapter} {pv : ProcessVariable}
    {mapped : UaProcessVariable} (placed : Placed rootFolder separator before pv mapped) (grows : Grows before after) :
    Placed rootFolder separator after pv mapped :=
  ⟨grows.mapped.subset placed.listed, placed.source, placed.folder, placed.node, grows.nodes _ placed.there,
    grows.nodes _ placed.inside, grows.references _ placed.attached⟩

private theorem isFolder_concat {separator : Text} {done : List ProcessVariable} {pv : ProcessVariable} {path : List Text} :
    IsFolder separator (done ++ [pv]) path ↔
      IsFolder separator done path ∨ path ≠ [] ∧ path <+: (nameTokens separator pv.name).dropLast := by
  simp only [IsFolder, List.mem_append, List.mem_singleton, or_and_right, exists_or, exists_eq_left, and_or_left]

private theorem wanted_concat {useBoolAsVoid : Bool} {separator : Text} {done : List ProcessVariable} {pv : ProcessVariable}
    {request : NodeRequest} :
    Wanted useBoolAsVoid separator (done ++ [pv]) request ↔ Wanted useBoolAsVoid separator done request ∨
      request ∈ ownRequests useBoolAsVoid pv ∨
      ∃ path, request = .folder path ∧ path ≠ [] ∧ path <+: (nameTokens separator pv.name).dropLast := by
  rw [mem_ownRequests]
  constructor
  · intro asked
    cases asked with
    | @folder path folder =>
      rcases isFolder_concat.mp folder with old | new
      · exact .inl (.folder old)
      · exact .inr (.inr ⟨path, rfl, new⟩)
    | pv listed =>
      rcases List.mem_append.mp listed with old | new
      · exact .inl (.pv old)
      · exact .inr (.inl (.inl (by rw [List.mem_singleton.mp new])))
    | @child other part listed below named =>
      rcases List.mem_append.mp listed with old | new
      · exact .inl (.child old below named)
      · obtain rfl := List.mem_singleton.mp new
        exact .inr (.inl (.inr ⟨below, part, named, rfl⟩))
  · have last : pv ∈ done ++ [pv] := List.mem_append_right _ (List.mem_singleton_self _)
    rintro (asked | (rfl | ⟨below, part, named, rfl⟩) | ⟨path, rfl, filled, inside⟩)
    · cases asked with
      | folder folder => exact .folder (isFolder_concat.mpr (.inl folder))
      | pv listed => exact .pv (List.mem_append_left _ listed)
      | child listed below named => exact .child (List.mem_append_left _ listed) below named
    · exact .pv last
    · exact .child last below named
    · exact .folder (isFolder_concat.mpr (.inr ⟨filled, inside⟩))

/-- The adapter after the variables in `done`: all they ask for was granted, and they are in place. -/
structure Mapped (rootFolder separator : Text) (processVariables : List ProcessVariable) (start adapter : UaAdapter)
    (done : List ProcessVariable) (made : List NodeRequest) (folders : List (List Text)) : Prop where
  kept : FoldersKept rootFolder separator (Wanted start.serverConfig.useBoolAsVoid separator processVariables)
    start adapter made folders
  grown : Grows start adapter
  requests : ∀ request, request ∈ made ↔ Wanted start.serverConfig.useBoolAsVoid separator done request
  placed : ∀ pv ∈ done, ∃ mapped, Placed rootFolder separator adapter pv mapped

section Runs

variable {server : UaServer} {rootFolder separator : Text} {processVariables : List ProcessVariable}
  {start adapter : UaAdapter} {done : List ProcessVariable} {made : List NodeRequest} {folders : List (List Text)}

theorem Wanted.subset {useBoolAsVoid : Bool} (within : done ⊆ processVariables) {request : NodeRequest}
    (asked : Wanted useBoolAsVoid separator done request) : Wanted useBoolAsVoid separator processVariables request := by
  cases asked with
  | folder folder =>
    obtain ⟨filled, pv, member, inside⟩ := folder
    exact .folder ⟨filled, pv, within member, inside⟩
  | pv listed => exact .pv (within listed)
  | child listed below named => exact .child (within listed) below named

theorem Mapped.own_new (mapped : Mapped rootFolder separator processVariables start adapter done made folders)
    {pv : ProcessVariable} (new : ∀ other ∈ done, other.name ≠ pv.name) {useBoolAsVoid : Bool} {request : NodeRequest}
    (own : request ∈ ownRequests useBoolAsVoid pv) : request ∉ made := by
  rw [mapped.requests]
  intro earlier
  rcases mem_ownRequests.mp own with same | ⟨_, part, _, same⟩
  · cases earlier with
    | folder => cases same
    | pv listed => exact new _ listed (NodeRequest.pv.inj same)
    | child => cases same
  · cases earlier with
    | folder => cases same
    | pv => cases same
    | child listed => exact new _ listed (NodeRequest.child.inj same).1

theorem Mapped.requests_concat (mapped : Mapped rootFolder separator processVariables start adapter done made folders)
    {pv : ProcessVariable} {after : UaAdapter} {made' : List NodeRequest} {folders' : List (List Text)}
    (kept : FoldersKept rootFolder separator (Wanted start.serverConfig.useBoolAsVoid separator processVariables) start
      after (made ++ made' ++ ownRequests start.serverConfig.useBoolAsVoid pv) folders')
    (only : ∀ request ∈ made', ∃ path, request = .folder path)
    (members : ∀ path, path ∈ folders' ↔
      path ∈ folders ∨ path ≠ [] ∧ path <+: (nameTokens separator pv.name).dropLast) (request : NodeRequest) :
    request ∈ made ++ made' ++ ownRequests start.serverConfig.useBoolAsVoid pv ↔
      Wanted start.serverConfig.useBoolAsVoid separator (done ++ [pv]) request := by
  rw [wanted_concat]
  cases request with
  | folder path =>
    rw [kept.listed, members, ← mapped.kept.listed, mapped.requests]
    simp [mem_ownRequests]
  | pv name =>
    have other : NodeRequest.pv name ∉ made' := fun member =>
      absurd (only _ member) fun ⟨path, same⟩ => NodeRequest.pv_ne_folder name path same
    simp [other, mapped.requests]
  | child name part =>
    have other : NodeRequest.child name part ∉ made' := fun member =>
      absurd (only _ member) fun ⟨path, same⟩ => NodeRequest.child_ne_folder name part path same
    simp [other, mapped.requests]

theorem Mapped.step (law : AddsUnused server) (untouched : Untouched rootFolder start)
    (own : start.ownNodeId = folderId rootFolder []) (rooted : start.space.hasNode (folderId rootFolder []) = true)
    (cut : start.pvSeparator = separator)
    (mapped : Mapped rootFolder separator processVariables start adapter done made folders) {pv : ProcessVariable}
    (within : done ++ [pv] ⊆ processVariables) (usable : UsableName separator pv.name)
    (new : ∀ other ∈ done, other.name ≠ pv.name) :
    Clash rootFolder separator (Wanted start.serverConfig.useBoolAsVoid separator processVariables) start
        (adapter.implicitVarMapping server pv) ∨
      ∃ made' folders', Mapped rootFolder separator processVariables start (adapter.implicitVarMapping server pv)
        (done ++ [pv]) made' folders' := by
  obtain ⟨path, last, tokens⟩ := (List.eq_nil_or_concat (nameTokens separator pv.name)).resolve_left usable.tokens
  rw [List.concat_eq_append] at tokens
  have before : (nameTokens separator pv.name).dropLast = path := by rw [tokens, List.dropLast_concat]
  have asked {request : NodeRequest}
      (wanted : Wanted start.serverConfig.useBoolAsVoid separator (done ++ [pv]) request) :
      Wanted start.serverConfig.useBoolAsVoid separator processVariables request := wanted.subset within
  have filled : last ≠ [] := nonempty_of_mem_nameTokens usable (by simp [tokens])
  rcases mapped.kept.enrolled law untouched (mapped.grown.own.trans own) (mapped.grown.separator.trans cut) tokens
    (fun part some_part inside => asked (wanted_concat.mpr (.inr (.inr ⟨part, rfl, some_part, before ▸ inside⟩)))) with
    clash | ⟨enrolled, made', folders', shown, result, grown, kept, only, members⟩
  · exact .inl clash
  have config : enrolled.serverConfig.useBoolAsVoid = start.serverConfig.useBoolAsVoid := by
    rw [grown.config, mapped.grown.config]
  have still_new : ∀ request ∈ ownRequests enrolled.serverConfig.useBoolAsVoid pv, request ∉ made ++ made' := by
    intro request member earlier
    rcases List.mem_append.mp earlier with old | recent
    · exact mapped.own_new new member old
    · obtain ⟨other, rfl⟩ := only request recent
      rcases mem_ownRequests.mp member with same | ⟨_, _, _, same⟩ <;> cases same
  have grows := mapped.grown.trans (adapter.implicitVarMapping_grows server pv)
  rw [result] at grows ⊢
  rcases kept.newProcessVariable law untouched tokens filled
    (fun request member => asked (wanted_concat.mpr (.inr (.inl (config ▸ member))))) still_new (pv.name.drop 1) with
    clash | ⟨entry, reference, kept⟩
  · exact .inl (clash.grows (UaAdapter.enterVariable_grows _ _))
  · right
    rw [config] at kept
    have entered := kept.congr (@rfl _ (UaAdapter.enterVariable _ shown).requested)
      (fun nodeId => AddressSpace.hasNode_writeDisplayName _ _ nodeId _) rfl
    refine ⟨_, folders', entered, grows, mapped.requests_concat kept only (before ▸ members), ?_⟩
    intro other member
    rcases List.mem_append.mp member with old | last
    · obtain ⟨earlier, placed⟩ := mapped.placed other old
      exact ⟨earlier, placed.grows (result ▸ adapter.implicitVarMapping_grows server pv)⟩
    · obtain rfl := List.mem_singleton.mp last
      refine ⟨_, List.mem_append_right _ (List.mem_singleton_self _), ?_, ?_, ?_, ?_, ?_, ?_⟩
      all_goals rw [entry]
      · rw [before]
      · have asked_for : NodeRequest.pv other.name ∈
            made ++ made' ++ ownRequests start.serverConfig.useBoolAsVoid other :=
          List.mem_append_right _ List.mem_cons_self
        exact (entered.logged.used _).mpr (.inr (List.mem_map_of_mem asked_for))
      · by_cases top : path = []
        · exact grows.nodes _ (top ▸ rooted)
        · have folder := (members path).mpr (.inr ⟨top, List.prefix_rfl⟩)
          exact (entered.logged.used _).mpr (.inr (List.mem_map_of_mem ((entered.listed path).mpr folder)))
      · exact reference

/-- All variables are mapped in their places, or an id was asked for twice. -/
theorem mapped_or_clash (law : AddsUnused server) (untouched : Untouched rootFolder start)
    (own : start.ownNodeId = folderId rootFolder []) (rooted : start.space.hasNode (folderId rootFolder []) = true)
    (cut : start.pvSeparator = separator) (left : List ProcessVariable)
    (mapped : Mapped rootFolder separator processVariables start adapter done made folders)
    (within : done ++ left ⊆ processVariables) (usable : ∀ pv ∈ left, UsableName separator pv.name)
    (distinct : ((done ++ left).map (·.name)).Nodup) :
    Clash rootFolder separator (Wanted start.serverConfig.useBoolAsVoid separator processVariables) start
        (left.foldl (UaAdapter.implicitVarMapping server) adapter) ∨
      ∃ made' folders', Mapped rootFolder separator processVariables start
        (left.foldl (UaAdapter.implicitVarMapping server) adapter) (done ++ left) made' folders' := by
  induction left generalizing adapter done made folders with
  | nil =>
    rw [List.append_nil]
    exact .inr ⟨made, folders, mapped⟩
  | cons pv left ih =>
    rw [List.append_cons] at within distinct ⊢
    have new : ∀ other ∈ done, other.name ≠ pv.name := by
      intro other member
      rw [List.map_append, List.map_append, List.nodup_append] at distinct
      exact (List.nodup_append.mp distinct.1).2.2 _ (List.mem_map_of_mem member) _ (by simp)
    rcases mapped.step law untouched own rooted cut (fun _ member => within (List.mem_append_left _ member))
      (usable pv List.mem_cons_self) new with clash | ⟨made', folders', next⟩
    · exact .inl (clash.grows (UaAdapter.foldl_grows server _ _))
    · exact ih next within (fun other member => usable other (List.mem_cons_of_mem _ member)) distinct

end Runs

end OpcUaAdapter
