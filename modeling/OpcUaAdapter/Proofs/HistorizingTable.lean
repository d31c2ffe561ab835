import OpcUaAdapter.Historizing
import OpcUaAdapter.Library.Acyclic
import OpcUaAdapter.Library.FirstByKey

/-! What the loops over the two vectors come to: the assignments in order, the first for
each node, less those whose setup is not defined. The walks through the folders end as
the Organizes references have no cycle. -/

namespace OpcUaAdapter

namespace HistorizingTable

def ofEntries (entries : List (NodeId × Text)) : HistorizingTable := ⟨entries.map Prod.fst, entries.map Prod.snd⟩

variable {entries : List (NodeId × Text)}

@[simp] theorem historizingNodes_ofEntries : (ofEntries entries).historizingNodes = entries.map Prod.fst := rfl

@[simp] theorem historizingSetup_ofEntries : (ofEntries entries).historizingSetup = entries.map Prod.snd := rfl

theorem insert_ofEntries (nodeId : NodeId) (setup : Text) :
    (ofEntries entries).insert nodeId setup = ofEntries (entries ++ [(nodeId, setup)]) := by
  simp [ofEntries, insert]

private theorem erase_ofEntries (position : Nat) : (ofEntries entries).erase position = ofEntries (entries.eraseIdx position) := by
  simp [ofEntries, erase, List.eraseIdx_map]

private theorem eraseIdx_split {position : Nat} (inside : position < entries.length) :
    entries = entries.take position ++ entries[position] :: entries.drop (position + 1) ∧
      entries.eraseIdx position = entries.take position ++ entries.drop (position + 1) := by
  refine ⟨?_, List.eraseIdx_eq_take_drop_succ ..⟩
  rw [← List.drop_eq_getElem_cons inside, List.take_append_drop]

theorem firstByKey_erase {position j : Nat} (found : (ofEntries entries).duplicateOf position = some j) :
    firstByKey Prod.fst (entries.eraseIdx j) = firstByKey Prod.fst entries := by
  obtain ⟨before, inside, same⟩ := duplicateOf_spec found
  rw [historizingNodes_ofEntries, List.length_map] at inside
  simp only [historizingNodes_ofEntries, List.getElem?_map] at same
  rw [List.getElem?_eq_getElem inside, List.getElem?_eq_getElem (before.trans inside)] at same
  obtain ⟨whole, rest⟩ := eraseIdx_split inside
  have earlier : entries[position] ∈ entries.take j :=
    List.mem_take_iff_getElem.mpr ⟨position, by omega, rfl⟩
  rw [rest]
  conv => rhs; rw [whole]
  exact (firstByKey_skip earlier (Option.some.inj same).symm).symm

private theorem checkPositions_entries (position : Nat) (entries : List (NodeId × Text)) :
    ∃ rest, (checkPositions position (ofEntries entries)).2 = ofEntries rest ∧
      firstByKey Prod.fst rest = firstByKey Prod.fst entries ∧
      ((checkPositions position (ofEntries entries)).1 = false →
        rest = entries ∧ ∀ i, position ≤ i → i < entries.length → (ofEntries entries).duplicateOf i = none) := by
  generalize table_eq : ofEntries entries = table
  fun_induction checkPositions position table generalizing entries with
  | case1 position table inside j found ih =>
    subst table_eq
    obtain ⟨rest, same, first, -⟩ := ih (entries.eraseIdx j) (erase_ofEntries j).symm
    exact ⟨rest, same, first.trans (firstByKey_erase found), by rintro ⟨⟩⟩
  | case2 position table inside none_found ih =>
    obtain ⟨rest, same, first, last⟩ := ih entries table_eq
    refine ⟨rest, same, first, fun quiet => ?_⟩
    obtain ⟨unchanged, later⟩ := last quiet
    refine ⟨unchanged, fun i from_here below => ?_⟩
    rcases Nat.eq_or_lt_of_le from_here with rfl | behind
    · exact none_found
    · exact later i behind below
  | case3 position table outside =>
    subst table_eq
    rw [historizingNodes_ofEntries, List.length_map] at outside
    exact ⟨entries, rfl, rfl, fun _ => ⟨rfl, fun i from_here below => by omega⟩⟩

private theorem nodup_of_no_duplicate (none_found : ∀ i < entries.length, (ofEntries entries).duplicateOf i = none) :
    (entries.map Prod.fst).Nodup := by
  rw [List.nodup_iff_getElem?_ne_getElem?]
  intro i j before inside same
  rw [List.length_map] at inside
  have absent := List.find?_eq_none.mp (none_found i (by omega)) j
    (List.mem_range.mpr (by simpa using inside))
  simp [before, same] at absent

/-- The loop leaves the first entry for each node. -/
theorem checkHistorizingNodes_entries (entries : List (NodeId × Text)) :
    (ofEntries entries).checkHistorizingNodes = ofEntries (firstByKey Prod.fst entries) := by
  generalize table_eq : ofEntries entries = table
  fun_induction checkHistorizingNodes table generalizing entries with
  | case1 table again ih =>
    subst table_eq
    obtain ⟨rest, same, first, -⟩ := checkPositions_entries 0 entries
    rw [ih rest same.symm, first]
  | case2 table again =>
    subst table_eq
    obtain ⟨rest, same, -, last⟩ := checkPositions_entries 0 entries
    obtain ⟨rfl, none_found⟩ := last (by simpa using again)
    rw [same, firstByKey_of_nodup (nodup_of_no_duplicate fun i inside => none_found i (Nat.zero_le i) inside)]

def IsDefined (history : List AdapterHistorySetup) (entry : NodeId × Text) : Bool :=
  history.any fun setup => entry.2 = setup.name

private theorem incompleteFrom_entry {history : List AdapterHistorySetup} {i : Nat} (inside : i < entries.length) :
    (history.any fun j => (ofEntries entries).historizingSetup[i]? = some j.name) = IsDefined history entries[i] := by
  simp [IsDefined, List.getElem?_eq_getElem inside]

theorem removeIncompleteFrom_entries {history : List AdapterHistorySetup} {position : Nat}
    {entries : List (NodeId × Text)} (kept : ∀ entry ∈ entries.take position, IsDefined history entry = true) :
    removeIncompleteFrom history position (ofEntries entries) = ofEntries (entries.filter (IsDefined history)) := by
  generalize table_eq : ofEntries entries = table
  fun_induction removeIncompleteFrom history position table generalizing entries with
  | case1 position table i found ih =>
    subst table_eq
    obtain ⟨holds, inside, earlier⟩ := List.find?_range_eq_some.mp found
    rw [List.mem_range, historizingNodes_ofEntries, List.length_map] at inside
    rw [incompleteFrom_entry inside] at holds
    obtain ⟨from_here, undefined⟩ : position ≤ i ∧ IsDefined history entries[i] = false := by simpa using holds
    obtain ⟨whole, rest⟩ := eraseIdx_split inside
    have before : ∀ entry ∈ entries.take i, IsDefined history entry = true := by
      intro entry member
      obtain ⟨j, below, rfl⟩ := List.mem_take_iff_getElem.mp member
      by_cases seen : j < position
      · exact kept _ (List.mem_take_iff_getElem.mpr ⟨j, by omega, rfl⟩)
      · have := earlier j (by omega)
        rw [incompleteFrom_entry (by omega)] at this
        simpa [Nat.le_of_not_lt seen] using this
    have filtered : (entries.eraseIdx i).filter (IsDefined history) = entries.filter (IsDefined history) := by
      rw [rest]
      conv => rhs; rw [whole]
      rw [List.filter_append, List.filter_append, List.filter_cons_of_neg (by simp [undefined])]
    rw [← filtered]
    refine ih ?_ (erase_ofEntries i).symm
    intro entry member
    rw [rest, List.take_left' (by rw [List.length_take]; omega)] at member
    exact before entry member
  | case2 position table none_found =>
    subst table_eq
    have all : entries.filter (IsDefined history) = entries := by
      apply List.filter_eq_self.mpr
      intro entry member
      obtain ⟨j, inside, rfl⟩ := List.mem_iff_getElem.mp member
      by_cases seen : j < position
      · exact kept _ (List.mem_take_iff_getElem.mpr ⟨j, by omega, rfl⟩)
      · have absent := List.find?_eq_none.mp none_found j (List.mem_range.mpr (by simpa using inside))
        rw [incompleteFrom_entry inside] at absent
        simpa [Nat.le_of_not_lt seen] using absent
    rw [all]

end HistorizingTable

namespace AddressSpace

/-- A forward reference that an iteration over the references of the source meets. -/
def RefersTo (space : AddressSpace) (source : NodeId) (referenceType : ReferenceType) (target : NodeId) : Prop :=
  space.hasNode source = true ∧ ⟨source, referenceType, target⟩ ∈ space.references

def Organizes (space : AddressSpace) (source target : NodeId) : Prop := space.RefersTo source .organizes target

/-- The variable is reached from the folder through Organizes references and one last
forward reference of any type. -/
def ReachesVariable (space : AddressSpace) (folder nodeId : NodeId) : Prop :=
  space.isVariable nodeId = true ∧ ∃ parent, Relation.ReflTransGen space.Organizes folder parent ∧
    ∃ referenceType, space.RefersTo parent referenceType nodeId

private theorem finite_organizes (space : AddressSpace) : {b | ∃ a, space.Organizes a b}.Finite := by
  apply (space.references.map UaReference.target).finite_toSet.subset
  rintro b ⟨a, -, member⟩
  exact List.mem_map.mpr ⟨_, member, rfl⟩

theorem reachesVariable_iff {space : AddressSpace} {folder nodeId : NodeId} :
    space.ReachesVariable folder nodeId ↔
      ∃ referenceType child, space.RefersTo folder referenceType child ∧
        (referenceType = .organizes ∧ space.ReachesVariable child nodeId ∨
          space.isVariable child = true ∧ nodeId = child) := by
  constructor
  · rintro ⟨variable_, parent, path, referenceType, last⟩
    rcases Relation.ReflTransGen.cases_head path with rfl | ⟨child, first, rest⟩
    · exact ⟨referenceType, nodeId, last, .inr ⟨variable_, rfl⟩⟩
    · exact ⟨.organizes, child, first, .inl ⟨rfl, variable_, parent, rest, referenceType, last⟩⟩
  · rintro ⟨referenceType, child, first, ⟨rfl, variable_, parent, path, last⟩ | ⟨variable_, rfl⟩⟩
    · exact ⟨variable_, parent, path.head first, last⟩
    · exact ⟨variable_, folder, .refl, referenceType, first⟩

end AddressSpace

section Walks

open HistorizingTable

variable {space : AddressSpace} {forEach : ChildNodeCalls space}

theorem mem_calls_iff {nodeId child : NodeId} {referenceType : ReferenceType} :
    (⟨child, false, referenceType⟩ : ChildReference) ∈ forEach.calls nodeId ↔
      space.RefersTo nodeId referenceType child := by
  rw [forEach.complete, AddressSpace.RefersTo]
  refine and_congr_right fun _ => ?_
  simp only [AddressSpace.childReferences, List.mem_append, List.mem_map, List.mem_filter, decide_eq_true_eq,
    ChildReference.mk.injEq, Bool.true_eq_false, and_false, false_and, exists_false, or_false]
  constructor
  · rintro ⟨⟨source, type, target⟩, ⟨member, rfl⟩, rfl, -, rfl⟩
    exact member
  · intro member
    exact ⟨_, ⟨member, rfl⟩, rfl, trivial, rfl⟩

/-- From a depth on, the call adds just these nodes, whatever the table and the setup. -/
def CallAdds (space : AddressSpace) (forEach : ChildNodeCalls space) (reference : ChildReference)
    (nodes : List NodeId) : Prop :=
  ∃ depth, ∀ fuel, depth ≤ fuel → ∀ history entries,
    getChildVariables space forEach history fuel (ofEntries entries) reference =
      some (ofEntries (entries ++ nodes.map fun nodeId => (nodeId, history)))

def CallsAdd (space : AddressSpace) (forEach : ChildNodeCalls space) (references : List ChildReference)
    (nodes : List NodeId) : Prop :=
  ∃ depth, ∀ fuel, depth ≤ fuel → ∀ history entries,
    references.foldlM (getChildVariables space forEach history fuel) (ofEntries entries) =
      some (ofEntries (entries ++ nodes.map fun nodeId => (nodeId, history)))

theorem CallsAdd.cons {reference : ChildReference} {references : List ChildReference} {first rest : List NodeId}
    (here : CallAdds space forEach reference first) (there : CallsAdd space forEach references rest) :
    CallsAdd space forEach (reference :: references) (first ++ rest) := by
  obtain ⟨depth, here⟩ := here
  obtain ⟨other, there⟩ := there
  refine ⟨max depth other, fun fuel deep history entries => ?_⟩
  rw [List.foldlM_cons, here fuel (le_trans (le_max_left _ _) deep)]
  change references.foldlM _ _ = _
  rw [there fuel (le_trans (le_max_right _ _) deep), List.map_append, List.append_assoc]

private theorem callsAdd_of_each {property : ChildReference → NodeId → Prop} {references : List ChildReference}
    (each : ∀ reference ∈ references, ∃ nodes, CallAdds space forEach reference nodes ∧
      ∀ nodeId, nodeId ∈ nodes ↔ property reference nodeId) :
    ∃ nodes, CallsAdd space forEach references nodes ∧
      ∀ nodeId, nodeId ∈ nodes ↔ ∃ reference ∈ references, property reference nodeId := by
  induction references with
  | nil => exact ⟨[], ⟨0, fun fuel _ history entries => by simp⟩, by simp⟩
  | cons reference references ih =>
    obtain ⟨first, here, is_first⟩ := each reference List.mem_cons_self
    obtain ⟨rest, there, is_rest⟩ := ih fun other member => each other (List.mem_cons_of_mem _ member)
    refine ⟨first ++ rest, CallsAdd.cons here there, fun nodeId => ?_⟩
    rw [List.mem_append, is_first, is_rest, List.exists_mem_cons_iff]

/-- What one call adds: nothing against the direction of a reference, the variables below a
folder, and the child itself if it is a variable. -/
def Called (space : AddressSpace) (reference : ChildReference) (nodeId : NodeId) : Prop :=
  reference.isInverse = false ∧
    (reference.referenceTypeId = .organizes ∧ space.ReachesVariable reference.childId nodeId ∨
      space.isVariable reference.childId = true ∧ nodeId = reference.childId)

private theorem callAdds_of_child {reference : ChildReference} {below : List NodeId}
    (reached : reference.isInverse = false → reference.referenceTypeId = .organizes →
      CallsAdd space forEach (forEach.calls reference.childId) below ∧
        ∀ nodeId, nodeId ∈ below ↔ space.ReachesVariable reference.childId nodeId) :
    ∃ nodes, CallAdds space forEach reference nodes ∧ ∀ nodeId, nodeId ∈ nodes ↔ Called space reference nodeId := by
  cases inverse : reference.isInverse with
  | true =>
    refine ⟨[], ⟨1, fun fuel deep history entries => ?_⟩, by simp [Called, inverse]⟩
    obtain ⟨fuel, rfl⟩ := Nat.exists_eq_add_of_le' deep
    simp [getChildVariables, inverse]
  | false =>
    have self (history : Text) (entries : List (NodeId × Text)) :
        (if space.isVariable reference.childId = true then (ofEntries entries).insert reference.childId history
          else ofEntries entries) =
        ofEntries (entries ++ (if space.isVariable reference.childId = true then [reference.childId] else []).map
          fun nodeId => (nodeId, history)) := by
      split
      · exact insert_ofEntries _ _
      · simp
    by_cases folder : reference.referenceTypeId = .organizes
    · obtain ⟨⟨depth, reached⟩, is_below⟩ := reached inverse folder
      refine ⟨below ++ if space.isVariable reference.childId then [reference.childId] else [],
        ⟨depth + 1, fun fuel deep history entries => ?_⟩, fun nodeId => ?_⟩
      · obtain ⟨fuel, rfl⟩ := Nat.exists_eq_add_of_le' (le_trans (Nat.le_add_left 1 depth) deep)
        simp only [getChildVariables, inverse, Bool.false_eq_true, if_false, folder, if_true]
        rw [reached fuel (by omega)]
        change some _ = some _
        rw [self, List.map_append, List.append_assoc]
      · rw [List.mem_append, is_below, Called]
        simp [inverse, folder]
    · refine ⟨if space.isVariable reference.childId then [reference.childId] else [],
        ⟨1, fun fuel deep history entries => ?_⟩, fun nodeId => ?_⟩
      · obtain ⟨fuel, rfl⟩ := Nat.exists_eq_add_of_le' deep
        simp only [getChildVariables, inverse, Bool.false_eq_true, if_false, folder]
        change some _ = some _
        rw [self]
      · simp [Called, inverse, folder]

/-- The walk through a folder ends and finds the variables that are reached from it. -/
theorem folder_walk (acyclic : Acyclic space.Organizes) (forEach : ChildNodeCalls space) (folder : NodeId) :
    ∃ nodes, CallsAdd space forEach (forEach.calls folder) nodes ∧
      ∀ nodeId, nodeId ∈ nodes ↔ space.ReachesVariable folder nodeId := by
  induction folder using (acyclic.wellFounded space.finite_organizes).induction with
  | _ folder ih =>
    have each : ∀ reference ∈ forEach.calls folder, ∃ nodes, CallAdds space forEach reference nodes ∧
        ∀ nodeId, nodeId ∈ nodes ↔ Called space reference nodeId := by
      rintro ⟨child, isInverse, referenceType⟩ member
      by_cases deeper : isInverse = false ∧ referenceType = .organizes
      · obtain ⟨rfl, rfl⟩ := deeper
        obtain ⟨below, walked⟩ := ih child (mem_calls_iff.mp member)
        exact callAdds_of_child fun _ _ => walked
      · exact @callAdds_of_child _ _ _ [] fun forward same => absurd ⟨forward, same⟩ deeper
    obtain ⟨nodes, adds, is_called⟩ := callsAdd_of_each each
    refine ⟨nodes, adds, fun nodeId => ?_⟩
    rw [is_called, AddressSpace.reachesVariable_iff]
    constructor
    · rintro ⟨⟨child, isInverse, referenceType⟩, member, forward, found⟩
      cases forward
      exact ⟨referenceType, child, mem_calls_iff.mp member, found⟩
    · rintro ⟨referenceType, child, first, found⟩
      exact ⟨⟨child, false, referenceType⟩, mem_calls_iff.mpr first, rfl, found⟩

end Walks

/-- The assignments in their order: those of the variables, then folder by folder those of
the variables that are reached. -/
def historyAssignments (space : AddressSpace) (reached : NodeId → List NodeId)
    (historyvariables : List AdapterPVHistorySetup) (historyfolders : List AdapterFolderHistorySetup) :
    List (NodeId × Text) :=
  ((historyvariables.filter fun histVar => space.hasNode histVar.variableId).map fun histVar =>
      (histVar.variableId, histVar.variableHistorizing)) ++
    (historyfolders.filter fun folder => space.hasNode folder.folderId).flatMap fun folder =>
      (reached folder.folderId).map fun nodeId => (nodeId, folder.folderHistorizing)

/-- The first assignment of each node, where its setup is defined. -/
def effectiveHistory (history : List AdapterHistorySetup) (assignments : List (NodeId × Text)) : List (NodeId × Text) :=
  (firstByKey Prod.fst assignments).filter fun entry => history.any fun setup => entry.2 = setup.name

section Table

open HistorizingTable

variable {space : AddressSpace} {forEach : ChildNodeCalls space} {reached : NodeId → List NodeId}

theorem addVariableHistorizing_entries (historyvariables : List AdapterPVHistorySetup)
    (entries : List (NodeId × Text)) :
    addVariableHistorizing space historyvariables (ofEntries entries) =
      ofEntries (entries ++ historyAssignments space reached historyvariables []) := by
  unfold addVariableHistorizing historyAssignments
  induction historyvariables generalizing entries with
  | nil => simp
  | cons histVar historyvariables ih =>
    rw [List.foldl_cons]
    by_cases present : space.hasNode histVar.variableId = true
    · rw [if_pos present, insert_ofEntries, ih]
      simp [present]
    · rw [if_neg present, ih]
      simp [present]

theorem addFolderHistorizing_entries (walks : ∀ folder, CallsAdd space forEach (forEach.calls folder) (reached folder))
    (historyfolders : List AdapterFolderHistorySetup) :
    ∃ depth, ∀ fuel, depth ≤ fuel → ∀ entries,
      addFolderHistorizing space forEach fuel historyfolders (ofEntries entries) =
        some (ofEntries (entries ++ historyAssignments space reached [] historyfolders)) := by
  unfold addFolderHistorizing historyAssignments
  induction historyfolders with
  | nil => exact ⟨0, fun fuel _ entries => by simp⟩
  | cons folder historyfolders ih =>
    obtain ⟨depth, rest⟩ := ih
    obtain ⟨own, here⟩ := walks folder.folderId
    refine ⟨max depth own, fun fuel deep entries => ?_⟩
    rw [List.foldlM_cons]
    by_cases present : space.hasNode folder.folderId = true
    · rw [if_pos present, here fuel (le_trans (le_max_right _ _) deep)]
      change historyfolders.foldlM _ _ = _
      rw [rest fuel (le_trans (le_max_left _ _) deep)]
      simp [present]
    · rw [if_neg present]
      change historyfolders.foldlM _ _ = _
      rw [rest fuel (le_trans (le_max_left _ _) deep)]
      simp [present]

/-- With acyclic Organizes references, the table that is registered has, aligned and each
node once, the first assignment of each node whose setup is defined. -/
theorem historizing_table_eq (space : AddressSpace) (acyclic : Acyclic space.Organizes)
    (forEach : ChildNodeCalls space) :
    ∃ reached : NodeId → List NodeId,
      (∀ folder nodeId, nodeId ∈ reached folder ↔ space.ReachesVariable folder nodeId) ∧
        ∀ historyvariables historyfolders history, ∃ depth, ∀ fuel, depth ≤ fuel → ∃ table,
          addHistorizingNodes space forEach fuel historyvariables historyfolders history = some table ∧
            table.historizingNodes.length = table.historizingSetup.length ∧ table.historizingNodes.Nodup ∧
            table.historizingNodes.zip table.historizingSetup =
              effectiveHistory history (historyAssignments space reached historyvariables historyfolders) := by
  choose reached walks is_reached using folder_walk acyclic forEach
  refine ⟨reached, is_reached, fun historyvariables historyfolders history => ?_⟩
  obtain ⟨depth, folders⟩ := addFolderHistorizing_entries walks historyfolders
  refine ⟨depth, fun fuel deep => ?_⟩
  have collected : addFolderHistorizing space forEach fuel historyfolders
      (addVariableHistorizing space historyvariables {}) =
        some (ofEntries (historyAssignments space reached historyvariables historyfolders)) := by
    have start : addVariableHistorizing space historyvariables {} =
        ofEntries ([] ++ historyAssignments space reached historyvariables []) :=
      addVariableHistorizing_entries historyvariables []
    rw [start, folders fuel deep]
    simp [historyAssignments]
  refine ⟨ofEntries (effectiveHistory history (historyAssignments space reached historyvariables historyfolders)),
    ?_, ?_, ?_, ?_⟩
  · simp only [addHistorizingNodes, collected]
    change some (removeIncompleteFrom history 0 (ofEntries _).checkHistorizingNodes) = _
    rw [checkHistorizingNodes_entries, removeIncompleteFrom_entries (by simp)]
    rfl
  · simp
  · exact (nodup_firstByKey _).sublist (List.filter_sublist.map Prod.fst)
  · rw [historizingNodes_ofEntries, historizingSetup_ofEntries, ← List.unzip_fst, ← List.unzip_snd, List.zip_unzip]

end Table

/-- The server that goes through the references as they are stored. -/
def storedCalls (space : AddressSpace) : ChildNodeCalls space where
  calls nodeId := if space.hasNode nodeId then space.childReferences nodeId else []
  complete := by
    intro nodeId reference
    split
    next present => simp [present]
    next absent => simp [absent]

def demoHistorySpace : AddressSpace where
  nodes := [
    { nodeId := .string "deviceDir", nodeClass := .object, browseName := "device", displayName := "device" },
    { nodeId := .string "device/signal", nodeClass := .variable, browseName := "signal", displayName := "signal" }]
  references := [
    ⟨objectsFolder, .organizes, .string "deviceDir"⟩,
    ⟨.string "deviceDir", .hasComponent, .string "device/signal"⟩]

example :
    addFolderHistorizing demoHistorySpace (storedCalls _) 1 [⟨"second", .string "deviceDir"⟩] {} =
      some ⟨[.string "device/signal"], ["second"]⟩ := by decide

theorem historizing_table_of_folder :
    ∃ reached : NodeId → List NodeId,
      (∀ folder nodeId, nodeId ∈ reached folder ↔ demoHistorySpace.ReachesVariable folder nodeId) ∧
        ∀ historyvariables historyfolders history, ∃ depth, ∀ fuel, depth ≤ fuel → ∃ table,
          addHistorizingNodes demoHistorySpace (storedCalls _) fuel historyvariables historyfolders history =
              some table ∧
            table.historizingNodes.length = table.historizingSetup.length ∧ table.historizingNodes.Nodup ∧
            table.historizingNodes.zip table.historizingSetup =
              effectiveHistory history (historyAssignments demoHistorySpace reached historyvariables historyfolders) :=
  historizing_table_eq demoHistorySpace
    (Acyclic.of_rank (fun nodeId => if nodeId = objectsFolder then 0 else 1) (by
      rintro a b ⟨-, member⟩
      obtain ⟨rfl, rfl⟩ : a = objectsFolder ∧ b = .string "deviceDir" := by
        simpa [demoHistorySpace] using member
      decide))
    (storedCalls _)

end OpcUaAdapter
