import OpcUaAdapter.Proofs.HistorizingTable
import OpcUaAdapter.Proofs.SetupReading

/-! The nodes that are registered for a history, from the setups in the config element and
the settings of variables and folders. -/

namespace OpcUaAdapter

/-- The setting of a node: the first one of the variable itself, or else that of the first
folder from which the variable is reached. -/
inductive HistoryAssigned (space : AddressSpace) (historyvariables : List AdapterPVHistorySetup)
    (historyfolders : List AdapterFolderHistorySetup) (nodeId : NodeId) : Text → Prop
  | ofVariable {before after : List AdapterPVHistorySetup} {histVar : AdapterPVHistorySetup}
      (listed : historyvariables = before ++ histVar :: after) (own : histVar.variableId = nodeId)
      (present : space.hasNode nodeId = true) (first : ∀ other ∈ before, other.variableId ≠ nodeId) :
      HistoryAssigned space historyvariables historyfolders nodeId histVar.variableHistorizing
  | ofFolder {before after : List AdapterFolderHistorySetup} {folder : AdapterFolderHistorySetup}
      (listed : historyfolders = before ++ folder :: after) (reached : space.ReachesVariable folder.folderId nodeId)
      (first : ∀ other ∈ before, ¬ space.ReachesVariable other.folderId nodeId)
      (no_own : ∀ histVar ∈ historyvariables, histVar.variableId ≠ nodeId) :
      HistoryAssigned space historyvariables historyfolders nodeId folder.folderHistorizing

/-- The first complete setup of a name. -/
def definedSetup (elements : List SetupElement) (name : Text) : Option HistorySetup :=
  (elements.find? fun element => element.Complete ∧ element.historyName = name).map SetupElement.setup

/-- The registration of a node with a setup, as one of `count` nodes. -/
def HistorySetup.registration (setup : HistorySetup) (influxClient : Bool) (readValue : NodeId → Option Text)
    (count : Nat) (nodeId : NodeId) : NodeRegistration where
  nodeId
  historizingBackend := match setup.backend with
    | .circular => .memoryCircular count setup.bufferLength
    | .influxDB => .influx influxClient (shortNodeName nodeId) (readEngineeringUnit readValue nodeId)
  maxHistoryDataResponseSize := setup.entriesPerResponse
  pollingInterval := setup.interval

section Assignments

variable {space : AddressSpace} {reached : NodeId → List NodeId}

theorem AddressSpace.ReachesVariable.hasNode {folder nodeId : NodeId} (walk : space.ReachesVariable folder nodeId) :
    space.hasNode folder = true := by
  obtain ⟨-, parent, path, referenceType, last⟩ := walk
  rcases Relation.ReflTransGen.cases_head path with rfl | ⟨child, first, -⟩
  · exact last.1
  · exact first.1

private theorem AddressSpace.hasNode_of_isVariable {nodeId : NodeId} (variable_ : space.isVariable nodeId = true) :
    space.hasNode nodeId = true := by
  unfold isVariable at variable_
  split at variable_
  next node found => exact Option.isSome_iff_exists.mpr ⟨node, found⟩
  next => cases variable_

private theorem historyAssignments_append (historyvariables : List AdapterPVHistorySetup)
    (historyfolders : List AdapterFolderHistorySetup) :
    historyAssignments space reached historyvariables historyfolders =
      historyAssignments space reached historyvariables [] ++ historyAssignments space reached [] historyfolders := by
  simp [historyAssignments]

private theorem find?_same_setup (nodes : List NodeId) (setup : Text) (nodeId : NodeId) :
    (nodes.map fun node => (node, setup)).find? (fun entry => entry.1 = nodeId) =
      if nodeId ∈ nodes then some (nodeId, setup) else none := by
  induction nodes with
  | nil => rfl
  | cons node nodes ih =>
    rw [List.map_cons]
    by_cases here : node = nodeId
    · rw [List.find?_cons_of_pos (by simpa using here), here, if_pos List.mem_cons_self]
    · rw [List.find?_cons_of_neg (by simpa using here), ih]
      simp [Ne.symm here]

private theorem find?_variableAssignments (historyvariables : List AdapterPVHistorySetup) (nodeId : NodeId) :
    (historyAssignments space reached historyvariables []).find? (fun entry => entry.1 = nodeId) =
      (historyvariables.find? fun histVar => space.hasNode histVar.variableId ∧ histVar.variableId = nodeId).map
        fun histVar => (histVar.variableId, histVar.variableHistorizing) := by
  simp [historyAssignments, List.find?_map, List.find?_filter]

private theorem find?_folderAssignments (is_reached : ∀ folder nodeId, nodeId ∈ reached folder ↔ space.ReachesVariable folder nodeId)
    (historyfolders : List AdapterFolderHistorySetup) (nodeId : NodeId) :
    (historyAssignments space reached [] historyfolders).find? (fun entry => entry.1 = nodeId) =
      historyfolders.findSome? fun folder =>
        if nodeId ∈ reached folder.folderId then some (nodeId, folder.folderHistorizing) else none := by
  induction historyfolders with
  | nil => rfl
  | cons folder historyfolders ih =>
    rw [List.findSome?_cons, ← ih]
    by_cases present : space.hasNode folder.folderId = true
    · have split : historyAssignments space reached [] (folder :: historyfolders) =
          (reached folder.folderId).map (fun node => (node, folder.folderHistorizing)) ++
            historyAssignments space reached [] historyfolders := by
        simp [historyAssignments, present]
      rw [split, List.find?_append, find?_same_setup]
      split <;> rfl
    · have skipped : historyAssignments space reached [] (folder :: historyfolders) =
          historyAssignments space reached [] historyfolders := by
        simp [historyAssignments, present]
      rw [skipped, if_neg fun member => present ((is_reached _ _).mp member).hasNode]

private theorem find?_historyAssignments (is_reached : ∀ folder nodeId, nodeId ∈ reached folder ↔ space.ReachesVariable folder nodeId)
    {historyvariables : List AdapterPVHistorySetup} {historyfolders : List AdapterFolderHistorySetup}
    {nodeId : NodeId} {name : Text} :
    (historyAssignments space reached historyvariables historyfolders).find? (fun entry => entry.1 = nodeId) =
        some (nodeId, name) ↔ HistoryAssigned space historyvariables historyfolders nodeId name := by
  rw [historyAssignments_append, List.find?_append, find?_variableAssignments, find?_folderAssignments is_reached]
  constructor
  · intro found
    rcases Option.or_eq_some_iff.mp found with own | ⟨none_own, below⟩
    · obtain ⟨histVar, is_first, same⟩ := Option.map_eq_some_iff.mp own
      cases same
      obtain ⟨holds, before, after, listed, others⟩ := List.find?_eq_some_iff_append.mp is_first
      have present : space.hasNode histVar.variableId = true := (of_decide_eq_true holds).1
      refine .ofVariable listed rfl present fun other member same => ?_
      have differs := others other member
      simp [same, present] at differs
    · obtain ⟨before, folder, after, listed, here, others⟩ := List.findSome?_eq_some_iff.mp below
      split at here
      next member =>
        cases here
        have walk := (is_reached _ _).mp member
        refine .ofFolder listed walk (fun other there again => ?_) fun histVar there same => ?_
        · have absent := others other there
          rw [if_pos ((is_reached _ _).mpr again)] at absent
          cases absent
        · have absent := List.find?_eq_none.mp (Option.map_eq_none_iff.mp none_own) histVar there
          apply absent
          simp [same, AddressSpace.hasNode_of_isVariable walk.1]
      next => cases here
  · intro assigned
    apply Option.or_eq_some_iff.mpr
    cases assigned with
    | @ofVariable before after histVar listed own present first =>
      refine .inl (Option.map_eq_some_iff.mpr ⟨histVar, ?_, by rw [own]⟩)
      refine List.find?_eq_some_iff_append.mpr ⟨by simp [own, present], before, after, listed, fun other member => ?_⟩
      simp [first other member]
    | @ofFolder before after folder listed walk first no_own =>
      refine .inr ⟨Option.map_eq_none_iff.mpr (List.find?_eq_none.mpr fun histVar member => ?_), ?_⟩
      · simp [no_own histVar member]
      · refine List.findSome?_eq_some_iff.mpr ⟨before, folder, after, listed, ?_, fun other member => ?_⟩
        · rw [if_pos ((is_reached _ _).mpr walk)]
        · rw [if_neg fun again => first other member ((is_reached _ _).mp again)]

end Assignments

namespace HistoryConfig

theorem hist_of_nodup {config : HistoryConfig} (distinct : (config.history.map (·.name)).Nodup) {setup : HistorySetup}
    (member : setup ∈ config.history) : config.hist setup.name = setup := by
  obtain ⟨before, after, split⟩ := List.append_of_mem member
  have kept : ∀ (later : List HistorySetup) (hist : HistorySetup), (∀ j ∈ later, setup.name ≠ j.name) →
      later.foldl (fun hist j => if setup.name = j.name then j else hist) hist = hist := by
    intro later hist others
    induction later with
    | nil => rfl
    | cons j later ih =>
      rw [List.foldl_cons, if_neg (others j List.mem_cons_self)]
      exact ih fun other there => others other (List.mem_cons_of_mem _ there)
  rw [split, List.map_append, List.map_cons, List.nodup_append] at distinct
  have apart := (List.nodup_cons.mp distinct.2.1).1
  unfold hist
  rw [split, List.foldl_append, List.foldl_cons, if_pos rfl]
  exact kept after setup fun j there same => apart (List.mem_map.mpr ⟨j, there, same.symm⟩)

private theorem nodup_ofElements (elements : List SetupElement) : ((ofElements elements).history.map (·.name)).Nodup :=
  nodup_firstByKey _

private theorem mem_ofElements_iff {elements : List SetupElement} {setup : HistorySetup} :
    setup ∈ (ofElements elements).history ↔ definedSetup elements setup.name = some setup := by
  have found : ((elements.filter fun element => element.Complete).map SetupElement.setup).find?
      (fun other => other.name = setup.name) = definedSetup elements setup.name := by
    unfold definedSetup
    rw [List.find?_map, List.find?_filter]
    congr 2
    funext element
    apply decide_eq_decide.mpr
    rw [Function.comp_apply, decide_eq_true_iff, decide_eq_true_iff]
    rfl
  rw [← found]
  exact mem_firstByKey_iff

theorem influxClient_ofElements {elements : List SetupElement} {setup : HistorySetup}
    (member : setup ∈ (ofElements elements).history) (influx : setup.backend = .influxDB) :
    (ofElements elements).influxClient = true := by
  obtain ⟨element, there, rfl⟩ := List.mem_map.mp (mem_of_mem_firstByKey member)
  obtain ⟨listed, complete⟩ := List.mem_filter.mp there
  have no_error := (of_decide_eq_true complete).influx influx
  refine List.any_eq_true.mpr ⟨element, listed, ?_⟩
  have backend : element.backend = .influxDB := influx
  unfold SetupElement.setsUpInflux
  rw [no_error, backend]
  rfl

end HistoryConfig

section AccessLevels

theorem readable_or_historyRead (level : BitVec 8) : (level ||| 0x04#8) &&& 0x01#8 = level &&& 0x01#8 := by
  rw [BitVec.and_or_distrib_right]
  exact BitVec.or_zero

private theorem setAccessLevelHistorizing_apply (accessLevel : NodeId → BitVec 8) (id nodeId : NodeId) :
    setAccessLevelHistorizing accessLevel id nodeId =
      if nodeId = id ∧ accessLevel nodeId &&& 0x01#8 ≠ 0#8 then accessLevel nodeId ||| 0x04#8
      else accessLevel nodeId := by
  unfold setAccessLevelHistorizing
  by_cases same : nodeId = id
  · subst same
    split
    next readable => simp [readable]
    next not_readable => simp [not_readable]
  · split
    next => simp [same]
    next => simp [same]

theorem setAccessLevelsHistorizing_apply (accessLevel : NodeId → BitVec 8) (table : HistorizingTable) (nodeId : NodeId) :
    setAccessLevelsHistorizing accessLevel table nodeId =
      if nodeId ∈ table.historizingNodes ∧ accessLevel nodeId &&& 0x01#8 ≠ 0#8 then accessLevel nodeId ||| 0x04#8
      else accessLevel nodeId := by
  unfold setAccessLevelsHistorizing
  induction table.historizingNodes generalizing accessLevel with
  | nil => simp
  | cons id nodes ih =>
    rw [List.foldl_cons, ih, setAccessLevelHistorizing_apply]
    by_cases readable : accessLevel nodeId &&& 0x01#8 = 0#8
    · simp [readable]
    · by_cases same : nodeId = id
      · simp [same ▸ readable, same, readable_or_historyRead, BitVec.or_assoc]
      · simp [same]

end AccessLevels

section Registrations

open Effects HistorizingTable

theorem addHistorizingNodes_entries {space : AddressSpace} {forEach : ChildNodeCalls space}
    {reached : NodeId → List NodeId}
    (walks : ∀ folder, CallsAdd space forEach (forEach.calls folder) (reached folder))
    (historyvariables : List AdapterPVHistorySetup) (historyfolders : List AdapterFolderHistorySetup) :
    ∃ depth, ∀ fuel, depth ≤ fuel → ∀ history,
      addHistorizingNodes space forEach fuel historyvariables historyfolders history =
        some (ofEntries (effectiveHistory history (historyAssignments space reached historyvariables historyfolders))) := by
  obtain ⟨depth, folders⟩ := addFolderHistorizing_entries walks historyfolders
  refine ⟨depth, fun fuel deep history => ?_⟩
  have start : addVariableHistorizing space historyvariables {} =
      ofEntries ([] ++ historyAssignments space reached historyvariables []) :=
    addVariableHistorizing_entries historyvariables []
  unfold addHistorizingNodes
  simp only [start, folders fuel deep, List.nil_append, ← historyAssignments_append]
  change some (removeIncompleteFrom history 0 (ofEntries _).checkHistorizingNodes) = _
  rw [checkHistorizingNodes_entries, removeIncompleteFrom_entries (by simp)]
  rfl

private theorem registrations_ofEntries (config : HistoryConfig) (readValue : NodeId → Option Text)
    (entries : List (NodeId × Text)) :
    config.registrations readValue (ofEntries entries) = entries.map fun entry =>
      (config.hist entry.2).registration config.influxClient readValue entries.length entry.1 := by
  have zipped : (ofEntries entries).historizingNodes.zip (ofEntries entries).historizingSetup = entries := by
    rw [historizingNodes_ofEntries, historizingSetup_ofEntries, ← List.unzip_fst, ← List.unzip_snd, List.zip_unzip]
  unfold HistoryConfig.registrations
  rw [zipped, historizingNodes_ofEntries, List.length_map]
  rfl

private theorem mem_effectiveHistory_iff {history : List AdapterHistorySetup} {assignments : List (NodeId × Text)}
    {nodeId : NodeId} {name : Text} :
    (nodeId, name) ∈ effectiveHistory history assignments ↔
      assignments.find? (fun entry => entry.1 = nodeId) = some (nodeId, name) ∧ ∃ setup ∈ history, name = setup.name := by
  unfold effectiveHistory
  rw [List.mem_filter, mem_firstByKey_iff]
  simp

theorem registration_of_setup {elements : List SetupElement} {setup : HistorySetup}
    (member : setup ∈ (HistoryConfig.ofElements elements).history) (readValue : NodeId → Option Text) (count : Nat)
    (nodeId : NodeId) :
    ((HistoryConfig.ofElements elements).hist setup.name).registration
        (HistoryConfig.ofElements elements).influxClient readValue count nodeId =
      setup.registration true readValue count nodeId := by
  rw [HistoryConfig.hist_of_nodup (HistoryConfig.nodup_ofElements elements) member]
  unfold HistorySetup.registration
  cases backend : setup.backend with
  | circular => rfl
  | influxDB => rw [HistoryConfig.influxClient_ofElements member backend]

/-- With the setups that could be read and acyclic Organizes references, each node is
registered at most once, and just if the name of its setting is that of a complete setup:
with the first of these, and with a client where the setup uses InfluxDB. The access levels
of the registered nodes that can be read then have the bit for the history, and no other
access level changes. -/
theorem history_registered (space : AddressSpace) (acyclic : Acyclic space.Organizes) (forEach : ChildNodeCalls space)
    (historyvariables : List AdapterPVHistorySetup) (historyfolders : List AdapterFolderHistorySetup) :
    ∃ depth, ∀ fuel, depth ≤ fuel → ∀ elements adapter config,
      (outcome (Mapping.readHistorizing elements) adapter).1 = .ok config → ∃ table,
        addHistorizingNodes space forEach fuel historyvariables historyfolders
            (config.history.map HistorySetup.toAdapterHistorySetup) = some table ∧
          (∀ readValue, ((config.registrations readValue table).map NodeRegistration.nodeId).Nodup ∧
            ∀ registration, registration ∈ config.registrations readValue table ↔ ∃ name setup,
              HistoryAssigned space historyvariables historyfolders registration.nodeId name ∧
                definedSetup elements name = some setup ∧
                registration = setup.registration true readValue (config.registrations readValue table).length
                  registration.nodeId) ∧
          ∀ accessLevel nodeId, setAccessLevelsHistorizing accessLevel table nodeId =
            if nodeId ∈ table.historizingNodes ∧ accessLevel nodeId &&& 0x01#8 ≠ 0#8 then accessLevel nodeId ||| 0x04#8
            else accessLevel nodeId := by
  choose reached walks is_reached using folder_walk acyclic forEach
  obtain ⟨depth, collected⟩ := addHistorizingNodes_entries walks historyvariables historyfolders
  refine ⟨depth, fun fuel deep elements adapter config read => ?_⟩
  obtain rfl := (Mapping.readHistorizing_checks elements).eq_of_ok read
  refine ⟨_, collected fuel deep _, fun readValue => ?_, fun accessLevel => setAccessLevelsHistorizing_apply _ _⟩
  rw [registrations_ofEntries]
  constructor
  · rw [List.map_map]
    exact (nodup_firstByKey _).sublist (List.filter_sublist.map Prod.fst)
  · intro registration
    rw [List.length_map, List.mem_map]
    constructor
    · rintro ⟨⟨nodeId, name⟩, member, rfl⟩
      obtain ⟨found, other, there, rfl⟩ := mem_effectiveHistory_iff.mp member
      obtain ⟨setup, read_setup, rfl⟩ := List.mem_map.mp there
      exact ⟨setup.name, setup, (find?_historyAssignments is_reached).mp found,
        HistoryConfig.mem_ofElements_iff.mp read_setup, registration_of_setup read_setup readValue _ nodeId⟩
    · rintro ⟨name, setup, assigned, defined, same⟩
      have named : setup.name = name := by
        obtain ⟨element, found, rfl⟩ := Option.map_eq_some_iff.mp defined
        have holds := List.find?_some found
        simp only [decide_eq_true_eq] at holds
        exact holds.2
      subst named
      have read_setup := HistoryConfig.mem_ofElements_iff.mpr defined
      refine ⟨(registration.nodeId, setup.name), mem_effectiveHistory_iff.mpr ⟨?_, ?_⟩, ?_⟩
      · exact (find?_historyAssignments is_reached).mpr assigned
      · exact ⟨_, List.mem_map_of_mem read_setup, rfl⟩
      · rw [same]
        exact registration_of_setup read_setup readValue _ _

def demoSetupElement : SetupElement where
  name := some "second"
  bufferLength := some "500"
  entriesPerResponse := some "20"
  interval := some "200"

theorem history_registered_of_folder :
    ∃ depth, ∀ fuel, depth ≤ fuel → ∃ table,
      addHistorizingNodes demoHistorySpace (storedCalls _) fuel [] [⟨"second", .string "deviceDir"⟩]
          [demoSetupElement.setup.toAdapterHistorySetup] = some table ∧
        ∀ readValue, ∃ count, demoSetupElement.setup.registration true readValue count (.string "device/signal") ∈
          HistoryConfig.registrations ⟨[demoSetupElement.setup], false⟩ readValue table := by
  have acyclic : Acyclic demoHistorySpace.Organizes := by
    refine Acyclic.of_rank (fun nodeId => if nodeId = objectsFolder then 0 else 1) ?_
    rintro a b ⟨-, member⟩
    obtain ⟨rfl, rfl⟩ : a = objectsFolder ∧ b = .string "deviceDir" := by
      simpa [demoHistorySpace] using member
    decide
  have assigned : HistoryAssigned demoHistorySpace [] [⟨"second", .string "deviceDir"⟩] (.string "device/signal") "second" :=
    @HistoryAssigned.ofFolder _ _ _ _ [] [] ⟨"second", .string "deviceDir"⟩ rfl
      ⟨by decide, _, .refl, .hasComponent, by decide, by decide⟩ (by simp) (by simp)
  obtain ⟨depth, registered⟩ := history_registered demoHistorySpace acyclic (storedCalls _) []
    [⟨"second", .string "deviceDir"⟩]
  refine ⟨depth, fun fuel deep => ?_⟩
  obtain ⟨table, collected, nodes, -⟩ := registered fuel deep [demoSetupElement]
    { serverConfig := { rootFolder := "ctk" } } ⟨[demoSetupElement.setup], false⟩ rfl
  refine ⟨table, collected, fun readValue => ?_⟩
  refine ⟨(HistoryConfig.registrations ⟨[demoSetupElement.setup], false⟩ readValue table).length, ?_⟩
  exact ((nodes readValue).2 _).mpr ⟨"second", demoSetupElement.setup, assigned, rfl, rfl⟩

end Registrations

end OpcUaAdapter
