import OpcUaAdapter.Proofs.VariableNodes

/-! The implicit mapping without excludes: when each variable gets a node of its own, in
the folder its name stands for. -/

namespace OpcUaAdapter

/-- The texts behind the root folder do not collide: no two names or folders have the same
text, and none is that of a folder's or a child's node. -/
structure SeparatePaths (useBoolAsVoid : Bool) (separator : Text) (processVariables : List ProcessVariable) : Prop where
  names : ∀ first ∈ processVariables, ∀ second ∈ processVariables,
    treePath [] (nameTokens separator first.name) = treePath [] (nameTokens separator second.name) →
      first.name = second.name
  folders : ∀ first second, IsFolder separator processVariables first → IsFolder separator processVariables second →
    treePath [] first = treePath [] second → first = second
  folderNodes : ∀ pv ∈ processVariables, ∀ path, IsFolder separator processVariables path →
    treePath [] (nameTokens separator pv.name) ≠ treePath [] path ++ "Dir"
  childNodes : ∀ pv ∈ processVariables, ∀ other ∈ processVariables, ¬ IsMethod useBoolAsVoid other →
    ∀ child ∈ pvChildNames,
      treePath [] (nameTokens separator pv.name) ≠ treePath [] (nameTokens separator other.name) ++ '/' :: child

private theorem treePath_append_inj {rootFolder : Text} {first second : List Text} {left right : Text} :
    treePath rootFolder first ++ left = treePath rootFolder second ++ right ↔
      treePath [] first ++ left = treePath [] second ++ right := by
  simp [treePath]

private theorem treePath_inj {rootFolder : Text} {first second : List Text} :
    treePath rootFolder first = treePath rootFolder second ↔ treePath [] first = treePath [] second := by
  simp [treePath]

private theorem treePath_append_inj_left {rootFolder : Text} {first second : List Text} {right : Text} :
    treePath rootFolder first = treePath rootFolder second ++ right ↔
      treePath [] first = treePath [] second ++ right := by
  simp [treePath]

private theorem slash_notMem_child : ∀ child ∈ pvChildNames, '/' ∉ child := by decide

theorem dir_ne_child {first second child : Text} (named : child ∈ pvChildNames) :
    first ++ ("Dir" : Text) ≠ second ++ '/' :: child := by
  intro same
  have ends : ∀ child ∈ pvChildNames, child ≠ [] ∧ child.getLast? ≠ some 'r' := by decide
  obtain ⟨filled, other⟩ := ends child named
  have letters := congrArg List.getLast? same
  rw [List.append_cons, List.getLast?_append, List.getLast?_append_of_ne_nil _ filled] at letters
  exact other letters.symm

theorem separatePaths_iff {useBoolAsVoid : Bool} {separator : Text} {processVariables : List ProcessVariable}
    (rootFolder : Text) :
    SeparatePaths useBoolAsVoid separator processVariables ↔
      ∀ first second, Wanted useBoolAsVoid separator processVariables first →
        Wanted useBoolAsVoid separator processVariables second →
        first.nodeId rootFolder separator = second.nodeId rootFolder separator → first = second := by
  constructor
  · intro separate first second asked other same
    cases asked with
    | folder folder =>
      cases other with
      | folder second =>
        have texts := treePath_append_inj.mp (NodeId.string.inj same)
        rw [separate.folders _ _ folder second (List.append_cancel_right texts)]
      | pv listed =>
        exact absurd (treePath_append_inj_left.mp (NodeId.string.inj same).symm) (separate.folderNodes _ listed _ folder)
      | child listed below named => exact absurd (NodeId.string.inj same) (dir_ne_child named)
    | pv listed =>
      cases other with
      | folder folder =>
        exact absurd (treePath_append_inj_left.mp (NodeId.string.inj same)) (separate.folderNodes _ listed _ folder)
      | pv second => rw [separate.names _ listed _ second (treePath_inj.mp (NodeId.string.inj same))]
      | child second below named =>
        exact absurd (treePath_append_inj_left.mp (NodeId.string.inj same))
          (separate.childNodes _ listed _ second below _ named)
    | child listed below named =>
      cases other with
      | folder folder => exact absurd (NodeId.string.inj same).symm (dir_ne_child named)
      | pv second =>
        exact absurd (treePath_append_inj_left.mp (NodeId.string.inj same).symm)
          (separate.childNodes _ second _ listed below _ named)
      | child second _ other =>
        obtain ⟨paths, parts⟩ := Paths.append_separator_inj (slash_notMem_child _ named) (slash_notMem_child _ other)
          (NodeId.string.inj same)
        rw [parts, separate.names _ listed _ second (treePath_inj.mp paths)]
  · intro separate
    refine ⟨?_, ?_, ?_, ?_⟩
    · intro first here second there same
      exact NodeRequest.pv.inj (separate _ _ (.pv here) (.pv there) (congrArg NodeId.string (treePath_inj.mpr same)))
    · intro first second here there same
      have paths : treePath rootFolder first = treePath rootFolder second := treePath_inj.mpr same
      exact NodeRequest.folder.inj
        (separate _ _ (.folder here) (.folder there) (congrArg (fun text => NodeId.string (text ++ "Dir")) paths))
    · intro pv listed path folder same
      exact nomatch separate _ _ (.pv listed) (.folder folder)
        (congrArg NodeId.string (treePath_append_inj_left.mpr same))
    · intro pv listed other there below child named same
      exact nomatch separate _ _ (.pv listed) (.child there below named)
        (congrArg NodeId.string (treePath_append_inj_left.mpr same))

section Start

variable {server : UaServer}

private theorem hasNode_addNode (law : AddsUnused server) (adapter : UaAdapter) (node : UaNode) (parent : NodeId)
    (referenceType : ReferenceType) (typeDefinition : Option NodeId) (nodeId : NodeId) :
    (adapter.addNode server node parent referenceType typeDefinition).2.space.hasNode nodeId = true ↔
      adapter.space.hasNode nodeId = true ∨ node.nodeId = nodeId := by
  cases taken : adapter.space.hasNode node.nodeId with
  | true =>
    rw [addNode_taken law taken]
    refine ⟨.inl, fun either => either.elim id ?_⟩
    rintro rfl
    exact taken
  | false =>
    rw [addNode_free law taken]
    simp [AddressSpace.hasNode_iff, UaAdapter.withNode, or_and_right, exists_or]

/-- The adapter when the constructor starts with the variables. -/
def startAdapter (server : UaServer) (serverConfig : ServerConfig) (pvSeparator : Text) : UaAdapter :=
  ({ serverConfig, pvSeparator } : UaAdapter).mapSelfToNamespace server

private theorem initial_strings {text : Text} (has : AddressSpace.initial.hasNode (.string text) = true) :
    text = "LoggingLevels" ∨ text = "EnumStrings" := by
  obtain ⟨node, member, same⟩ := AddressSpace.hasNode_iff.mp has
  simp only [AddressSpace.initial, List.mem_cons, List.not_mem_nil, or_false] at member
  rcases member with rfl | rfl | rfl
  · cases same
  · exact .inl (NodeId.string.inj same).symm
  · exact .inr (NodeId.string.inj same).symm

private theorem root_free (rootFolder : Text) : AddressSpace.initial.hasNode (.string (rootFolder ++ "Dir")) = false := by
  cases has : AddressSpace.initial.hasNode (.string (rootFolder ++ "Dir")) with
  | false => rfl
  | true =>
    have letters {text : Text} (same : rootFolder ++ ("Dir" : Text) = text) : text.getLast? = some 'r' := by
      rw [← same, List.getLast?_append]
      rfl
    rcases initial_strings has with same | same
    · exact absurd (letters same) (by decide)
    · exact absurd (letters same) (by decide)

private theorem startAdapter_hasNode (law : AddsUnused server) (serverConfig : ServerConfig) (pvSeparator : Text)
    (nodeId : NodeId) :
    (startAdapter server serverConfig pvSeparator).space.hasNode nodeId = true ↔
      ((AddressSpace.initial.hasNode nodeId = true ∨ .string (serverConfig.rootFolder ++ "Dir") = nodeId) ∨
        .string "ServerConfigurationDir" = nodeId) ∨ .string "logLevel" = nodeId := by
  simp only [startAdapter, UaAdapter.mapSelfToNamespace]
  rw [hasNode_addNode law, hasNode_addNode law, hasNode_addNode law]

private theorem startAdapter_own (law : AddsUnused server) (serverConfig : ServerConfig) (pvSeparator : Text) :
    (startAdapter server serverConfig pvSeparator).ownNodeId = folderId serverConfig.rootFolder [] := by
  simp only [startAdapter, UaAdapter.mapSelfToNamespace, folderId, treePath, List.flatMap_nil, List.append_nil]
  rw [addNode_free law (root_free serverConfig.rootFolder)]

private theorem startAdapter_rooted (law : AddsUnused server) (serverConfig : ServerConfig) (pvSeparator : Text) :
    (startAdapter server serverConfig pvSeparator).space.hasNode (folderId serverConfig.rootFolder []) = true := by
  rw [startAdapter_hasNode law]
  simp [folderId, treePath]

private theorem startAdapter_untouched (law : AddsUnused server) (serverConfig : ServerConfig) (pvSeparator : Text) :
    Untouched serverConfig.rootFolder (startAdapter server serverConfig pvSeparator) := by
  intro text
  have slash : '/' ∈ serverConfig.rootFolder ++ '/' :: text := List.mem_append_right _ List.mem_cons_self
  rw [Bool.eq_false_iff, ne_eq, startAdapter_hasNode law]
  rintro (((has | root) | config) | level)
  · rcases initial_strings has with same | same
    · exact absurd (same ▸ slash) (by decide)
    · exact absurd (same ▸ slash) (by decide)
  · exact nomatch List.append_cancel_left (NodeId.string.inj root)
  · exact absurd (NodeId.string.inj config ▸ slash) (by decide)
  · exact absurd (NodeId.string.inj level ▸ slash) (by decide)

private theorem startAdapter_mapped (serverConfig : ServerConfig) (pvSeparator : Text)
    (processVariables : List ProcessVariable) :
    let start := startAdapter server serverConfig pvSeparator
    Mapped serverConfig.rootFolder pvSeparator processVariables start start [] [] [] := by
  refine ⟨⟨⟨by simp, by simp, by simp⟩, ?_, rfl, by simp, ?_, ?_⟩, Grows.refl _, fun request => ?_, ?_⟩
  · exact fun _ member => nomatch member
  · exact fun _ member => nomatch member
  · exact fun _ member => nomatch member
  · refine ⟨fun member => absurd member List.not_mem_nil, fun asked => ?_⟩
    cases asked with
    | folder folder =>
      obtain ⟨_, _, member, _⟩ := folder
      cases member
    | pv listed => cases listed
    | child listed => cases listed
  · exact fun _ member => nomatch member

end Start

/-- The variables that are mapped when no entry excludes any: all but the `Void` ones that
cannot be mapped to a method. -/
def ControlSystemPVManager.mappable (csManager : ControlSystemPVManager) : List ProcessVariable :=
  csManager.getAllProcessVariables.filter fun pv => !pv.unusableVoid

private theorem mappingLoop_unexcluded {mapFile : MapFile} (unexcluded : mapFile.exclude = []) {loop : MappingLoop}
    (open_ : loop.skip = false) (processVariables : List ProcessVariable) :
    (processVariables.foldl (MappingLoop.next mapFile) loop).implicitlyMapped =
      loop.implicitlyMapped ++ (processVariables.filter fun pv => !pv.unusableVoid).map (·.name) := by
  induction processVariables generalizing loop with
  | nil => simp
  | cons pv processVariables ih =>
    rw [List.foldl_cons]
    by_cases unusable : pv.unusableVoid = true
    · have same : loop.next mapFile pv = loop := by simp [MappingLoop.next, unusable]
      rw [same, ih open_, List.filter_cons_of_neg (by simp [unusable])]
    · have mapped : loop.next mapFile pv = { loop with implicitlyMapped := loop.implicitlyMapped ++ [pv.name] } := by
        simp [MappingLoop.next, unusable, unexcluded, open_]
      have still : (loop.next mapFile pv).skip = false := by rw [mapped, open_]
      rw [ih still, mapped, List.filter_cons_of_pos (by simp [unusable])]
      simp

private theorem implicitMapping_unexcluded (server : UaServer) (adapter : UaAdapter) (csManager : ControlSystemPVManager)
    {mapFile : MapFile} (unexcluded : mapFile.exclude = []) :
    adapter.implicitMapping server csManager mapFile =
      csManager.mappable.foldl (UaAdapter.implicitVarMapping server) adapter := by
  have found : ∀ pv ∈ csManager.mappable, csManager.getProcessVariable (pv.name.drop 1) = some pv :=
    fun pv member => csManager.finds pv (List.mem_filter.mp member).1
  have names : ∀ processVariables : List ProcessVariable,
      (∀ pv ∈ processVariables, csManager.getProcessVariable (pv.name.drop 1) = some pv) →
      ((processVariables.map (·.name)).filterMap fun name => csManager.getProcessVariable (name.drop 1)) =
        processVariables := by
    intro processVariables
    induction processVariables with
    | nil => exact fun _ => rfl
    | cons pv processVariables ih =>
      intro found
      simp only [List.map_cons, List.filterMap_cons, found pv List.mem_cons_self]
      rw [ih fun other member => found other (List.mem_cons_of_mem _ member)]
  unfold UaAdapter.implicitMapping mappingLoop
  rw [mappingLoop_unexcluded unexcluded rfl, List.nil_append]
  exact congrArg (List.foldl (UaAdapter.implicitVarMapping server) adapter) (names _ found)

/-- Each variable has its own node in its own folder, and no id was asked for twice. -/
structure OwnNodes (separator : Text) (start after : UaAdapter) (processVariables : List ProcessVariable) : Prop where
  distinct : (after.requested.drop start.requested.length).Nodup
  placed : ∀ pv ∈ processVariables, ∃ mapped, Placed start.serverConfig.rootFolder separator after pv mapped

theorem own_nodes_iff {server : UaServer} (law : AddsUnused server) (csManager : ControlSystemPVManager)
    {mapFile : MapFile} (unexcluded : mapFile.exclude = [])
    (distinct : (csManager.getAllProcessVariables.map (·.name)).Nodup) {pvSeparator : Text}
    (usable : ∀ pv ∈ csManager.getAllProcessVariables, UsableName pvSeparator pv.name) (serverConfig : ServerConfig) :
    let start := startAdapter server serverConfig pvSeparator
    OwnNodes pvSeparator start (start.implicitMapping server csManager mapFile) csManager.mappable ↔
      SeparatePaths serverConfig.useBoolAsVoid pvSeparator csManager.mappable := by
  intro start
  have within : csManager.mappable ⊆ csManager.getAllProcessVariables := List.filter_sublist.subset
  have names : (csManager.mappable.map (·.name)).Nodup := distinct.sublist (List.filter_sublist.map _)
  have outcome := mapped_or_clash law (startAdapter_untouched law serverConfig pvSeparator)
    (startAdapter_own law serverConfig pvSeparator) (startAdapter_rooted law serverConfig pvSeparator) rfl
    csManager.mappable
    (startAdapter_mapped serverConfig pvSeparator csManager.mappable) (List.Subset.refl csManager.mappable)
    (fun pv member => usable pv (within member)) names
  rw [← implicitMapping_unexcluded server _ csManager unexcluded] at outcome
  rw [separatePaths_iff serverConfig.rootFolder]
  constructor
  · intro own first second asked other same
    rcases outcome with clash | ⟨made, folders, mapped⟩
    · obtain ⟨ids, ⟨more, requested⟩, repeated⟩ := clash.repeated
      have asked_ids := own.distinct
      rw [← requested, List.append_assoc, List.drop_left] at asked_ids
      exact absurd (List.nodup_append.mp asked_ids).1 repeated
    · exact List.inj_on_of_nodup_map mapped.kept.logged.distinct ((mapped.requests first).mpr asked)
        ((mapped.requests second).mpr other) same
  · intro separate
    rcases outcome with clash | ⟨made, folders, mapped⟩
    · obtain ⟨first, second, asked, other, different, same⟩ := clash.shared
      exact absurd (separate first second asked other same) different
    · refine ⟨?_, mapped.placed⟩
      rw [mapped.kept.logged.requested, List.drop_left]
      exact mapped.kept.logged.distinct

section Examples

private theorem unusedServer_law : AddsUnused unusedServer := fun _ _ _ => rfl

def twoFolders : ControlSystemPVManager where
  getAllProcessVariables := [⟨"/a/x", .int32, true, 1, []⟩, ⟨"/b/x", .void, true, 1, []⟩]
  getProcessVariable name :=
    if name = "a/x" then some ⟨"/a/x", .int32, true, 1, []⟩
    else if name = "b/x" then some ⟨"/b/x", .void, true, 1, []⟩
    else none
  finds := by decide

private theorem twoFolders_folder {path : List Text} (folder : IsFolder "/" twoFolders.mappable path) :
    path = [("a" : Text)] ∨ path = [("b" : Text)] := by
  obtain ⟨filled, pv, member, inside⟩ := folder
  have parents : ∀ pv ∈ twoFolders.mappable, (nameTokens "/" pv.name).dropLast = [("a" : Text)] ∨
      (nameTokens "/" pv.name).dropLast = [("b" : Text)] := by decide
  have whole {token : Text} (parent : (nameTokens "/" pv.name).dropLast = [token]) : path = [token] := by
    rw [parent] at inside
    rcases List.prefix_cons_iff.mp inside with empty | ⟨rest, rfl, last⟩
    · exact absurd empty filled
    · rw [List.prefix_nil.mp last]
  exact (parents pv member).imp whole whole

theorem own_nodes_of_two_folders :
    let start := startAdapter unusedServer { rootFolder := "r" } "/"
    OwnNodes "/" start (start.implicitMapping unusedServer twoFolders {}) twoFolders.mappable := by
  have usable : ∀ pv ∈ twoFolders.getAllProcessVariables, UsableName "/" pv.name := by
    refine List.forall_mem_cons.mpr ⟨?_, List.forall_mem_singleton.mpr ?_⟩
    · exact ⟨"a/x", rfl, 'a', by decide, by decide⟩
    · exact ⟨"b/x", rfl, 'b', by decide, by decide⟩
  refine (own_nodes_iff unusedServer_law twoFolders rfl (by decide) usable _).mpr ⟨by decide, ?_, ?_, ?_⟩
  · intro first second here there same
    rcases twoFolders_folder here with rfl | rfl <;> rcases twoFolders_folder there with rfl | rfl
    · rfl
    · exact absurd same (by decide)
    · exact absurd same (by decide)
    · rfl
  · intro pv member path folder
    have apart : ∀ pv ∈ twoFolders.mappable, ∀ path ∈ [[("a" : Text)], [("b" : Text)]],
        treePath [] (nameTokens "/" pv.name) ≠ treePath [] path ++ "Dir" := by decide
    exact apart pv member path (by simpa using twoFolders_folder folder)
  · intro pv member other there _ child named
    have apart : ∀ pv ∈ twoFolders.mappable, ∀ other ∈ twoFolders.mappable, ∀ child ∈ pvChildNames,
        treePath [] (nameTokens "/" pv.name) ≠ treePath [] (nameTokens "/" other.name) ++ '/' :: child := by decide
    exact apart pv member other there child named

def nameBelowVariable : ControlSystemPVManager where
  getAllProcessVariables := [⟨"/a", .int32, true, 1, []⟩, ⟨"/a/Name", .int32, true, 1, []⟩]
  getProcessVariable name :=
    if name = "a" then some ⟨"/a", .int32, true, 1, []⟩
    else if name = "a/Name" then some ⟨"/a/Name", .int32, true, 1, []⟩
    else none
  finds := by decide

/-- The variable `/a/Name` asks for the node that shows the name of the variable `/a`. -/
theorem child_node_taken :
    let start := startAdapter unusedServer { rootFolder := "r" } "/"
    let after := start.implicitMapping unusedServer nameBelowVariable {}
    (nameBelowVariable.getAllProcessVariables.map (·.name)).Nodup ∧
      (∀ pv ∈ nameBelowVariable.getAllProcessVariables, UsableName "/" pv.name) ∧
      after.variableVector.map (·.ownNodeId) = [NodeId.string "r/a", NodeId.null] ∧
      ¬ OwnNodes "/" start after nameBelowVariable.getAllProcessVariables := by
  refine ⟨by decide, ?_, by decide +kernel, ?_⟩
  · refine List.forall_mem_cons.mpr ⟨?_, List.forall_mem_singleton.mpr ?_⟩
    · exact ⟨"a", rfl, 'a', by decide, by decide⟩
    · exact ⟨"a/Name", rfl, 'a', by decide, by decide⟩
  · intro own
    exact absurd own.distinct (by decide +kernel)

end Examples

end OpcUaAdapter
