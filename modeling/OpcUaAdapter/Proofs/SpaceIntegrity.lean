import OpcUaAdapter.Proofs.CopiedSpace
import OpcUaAdapter.Proofs.FolderFaults

/-! The address space after any mapping. A server that adds nodes under new ids below nodes it
has, and references between such nodes, is left with a graph in which every node can be
reached from those it began with; the table of folders only names what is there. -/

namespace OpcUaAdapter

open Effects

/-- The server adds nodes under new ids below nodes it has, and references between these. -/
structure ChecksReferences (server : UaServer) : Prop where
  below : AddsBelow server
  known : ∀ space reference, server.addsReference space reference = true →
    space.hasNode reference.source = true ∧ space.hasNode reference.target = true

namespace AddressSpace

def Leads (space : AddressSpace) (source target : NodeId) : Prop :=
  ∃ referenceType, (referenceType = .hasComponent ∨ referenceType = .organizes) ∧
    ⟨source, referenceType, target⟩ ∈ space.references

/-- References lead here from a node that the server began with. -/
def Rooted (space : AddressSpace) (nodeId : NodeId) : Prop :=
  ∃ first ∈ AddressSpace.initial.nodes, Relation.ReflTransGen space.Leads first.nodeId nodeId

/-- No id is used twice, references start and lead where nodes are, and no node is on its own. -/
structure Intact (space : AddressSpace) : Prop where
  distinct : (space.nodes.map (·.nodeId)).Nodup
  sources : SourcesKnown space
  targets : space.Closed
  rooted : ∀ node ∈ space.nodes, space.Rooted node.nodeId

theorem Leads.mono {before after : AddressSpace} (references : ∀ reference ∈ before.references, reference ∈ after.references)
    (source target : NodeId) (leads : before.Leads source target) : after.Leads source target := by
  obtain ⟨referenceType, hierarchical, stored⟩ := leads
  exact ⟨referenceType, hierarchical, references _ stored⟩

theorem Rooted.mono {before after : AddressSpace} (references : ∀ reference ∈ before.references, reference ∈ after.references)
    {nodeId : NodeId} (rooted : before.Rooted nodeId) : after.Rooted nodeId := by
  obtain ⟨first, member, walk⟩ := rooted
  exact ⟨first, member, Relation.ReflTransGen.mono (Leads.mono references) _ _ walk⟩

theorem Intact.initial : AddressSpace.initial.Intact where
  distinct := by decide
  sources _ member := absurd member List.not_mem_nil
  targets _ member := absurd member List.not_mem_nil
  rooted node member := ⟨node, member, .refl⟩

/-- Nodes that are written to keep their ids. -/
theorem Intact.update {space : AddressSpace} (intact : space.Intact) (changed : NodeId) {change : UaNode → UaNode}
    (kept : ∀ node, (change node).nodeId = node.nodeId) : (space.update changed change).Intact := by
  have same (node : UaNode) : (if node.nodeId = changed then change node else node).nodeId = node.nodeId := by
    split
    · exact kept node
    · rfl
  refine ⟨?_, ?_, ?_, ?_⟩
  · have ids : (space.update changed change).nodes.map (·.nodeId) = space.nodes.map (·.nodeId) := by
      rw [AddressSpace.update, List.map_map]
      exact List.map_congr_left fun node _ => same node
    exact ids ▸ intact.distinct
  · exact intact.sources.of_same (fun _ has => (hasNode_update kept).trans has) rfl
  · exact fun reference member hierarchical => (hasNode_update kept).trans (intact.targets reference member hierarchical)
  · intro node member
    obtain ⟨old, there, changes⟩ := List.mem_map.mp member
    rw [← changes, same]
    exact intact.rooted old there

/-- The end of a new reference was there. -/
theorem Intact.addReference {server : UaServer} (law : ChecksReferences server) {space : AddressSpace}
    (intact : space.Intact) (reference : UaReference) : (space.addReference server reference).Intact := by
  unfold AddressSpace.addReference
  split
  next grants =>
    obtain ⟨source, target⟩ := law.known space reference grants
    have either {other : UaReference} (member : other ∈ space.references ++ [reference]) :
        other ∈ space.references ∨ other = reference := (List.mem_append.mp member).imp_right List.mem_singleton.mp
    refine ⟨intact.distinct, fun other member => ?_, fun other member hierarchical => ?_, fun node member => ?_⟩
    · rcases either member with old | rfl
      · exact intact.sources other old
      · exact source
    · rcases either member with old | rfl
      · exact intact.targets other old hierarchical
      · exact target
    · exact (intact.rooted node member).mono fun _ => List.mem_append_left _
  next => exact intact

theorem intact_steps {server : UaServer} (law : AddsBelow server) :
    NodeSteps server (fun _ _ referenceType => referenceType = .hasComponent ∨ referenceType = .organizes)
      fun before after => before.Intact → after.Intact where
  refl _ := id
  trans first rest := rest ∘ first
  folder _ _ _ _ := .inr rfl
  addNode space node parent referenceType hierarchical typeDefinition intact := by
    have sources : SourcesKnown (space.addNode server node parent referenceType typeDefinition).2 :=
      (SourcesKnown.steps law).addNode space trivial typeDefinition intact.sources
    unfold AddressSpace.addNode at sources ⊢
    split
    next grants =>
      rw [if_pos grants] at sources
      obtain ⟨unused, known⟩ := law space node parent grants
      have kept {other : NodeId} (there : space.hasNode other = true ∨ other = node.nodeId) :
          AddressSpace.hasNode ⟨space.nodes ++ [node], []⟩ other = true := by
        rw [hasNode_iff] at there ⊢
        rcases there with ⟨old, member, same⟩ | rfl
        · exact ⟨old, List.mem_append_left _ member, same⟩
        · exact ⟨node, List.mem_append_right _ (List.mem_singleton_self _), rfl⟩
      refine ⟨?_, sources, fun reference member down => ?_, fun other member => ?_⟩
      · rw [List.map_append, List.nodup_append_comm, List.map_singleton, List.singleton_append, List.nodup_cons]
        refine ⟨fun used => ?_, intact.distinct⟩
        obtain ⟨old, member, same⟩ := List.mem_map.mp used
        rw [hasNode_iff.mpr ⟨old, member, same⟩] at unused
        cases unused
      · rcases List.mem_append.mp member with old | new
        · exact kept (.inl (intact.targets reference old down))
        · rcases List.mem_cons.mp new with rfl | typed
          · exact kept (.inr rfl)
          · obtain ⟨type, -, rfl⟩ := Option.map_eq_some_iff.mp (Option.mem_toList.mp typed)
            rcases down with down | down
            · cases down
            · cases down
      · rcases List.mem_append.mp member with old | new
        · exact (intact.rooted other old).mono fun _ => List.mem_append_left _
        · rw [List.mem_singleton.mp new]
          obtain ⟨above, there, same⟩ := hasNode_iff.mp known
          have later : AddressSpace.Rooted ⟨space.nodes ++ [node],
              space.references ++ ⟨parent, referenceType, node.nodeId⟩ ::
                (typeDefinition.map fun target => ⟨node.nodeId, .hasTypeDefinition, target⟩).toList⟩ above.nodeId :=
            (intact.rooted above there).mono fun _ => List.mem_append_left _
          obtain ⟨first, began, walk⟩ := later
          refine ⟨first, began, walk.tail ⟨referenceType, hierarchical, ?_⟩⟩
          rw [same]
          exact List.mem_append_right _ List.mem_cons_self
    next => exact intact

end AddressSpace

def KeepsIntact (before after : UaAdapter) : Prop := before.space.Intact → after.space.Intact

instance : LocalSteps KeepsIntact where
  refl _ := id
  trans _ _ _ first rest := rest ∘ first
  aside same intact := same.space ▸ intact
  writeDescription _ nodeId _ intact := intact.update nodeId fun _ => rfl
  writeDisplayName _ nodeId _ intact := intact.update nodeId fun _ => rfl

instance : FaultSteps KeepsIntact where
  fault _ _ := id

instance : RootSteps KeepsIntact where
  move _ _ := id

instance : AdditionalSteps KeepsIntact where
  enter _ _ := id

section Served

variable {server : UaServer} (law : ChecksReferences server)

include law

private theorem linkSteps_intact : LinkSteps server KeepsIntact where
  addReference _ reference intact := intact.addReference law reference

private theorem serverSteps_intact : ServerSteps server KeepsIntact where
  addComponent _ _ _ intact := intact.addReference law _
  createFolder adapter base folderName := (AddressSpace.intact_steps law.below).createFolder adapter base folderName []
  enroll adapter path separator := (AddressSpace.intact_steps law.below).enroll adapter path separator
  newProcessVariable adapter base oneProcessVariable _ _ :=
    (AddressSpace.intact_steps law.below).newProcessVariable adapter base oneProcessVariable rfl
      (fun _ _ _ => .inl rfl) fun _ _ _ _ => .inl rfl
  newAdditionalVariable adapter base name value description intact := by
    have steps := AddressSpace.intact_steps law.below
    simp only [UaAdapter.newAdditionalVariable]
    split
    next => exact intact
    next => exact steps.addNode _ (.inl rfl) _ (steps.addNode _ (.inl rfl) _ intact)

private theorem mappedAdapter_intact (csManager : ControlSystemPVManager) (serverConfig : ServerConfig) (pvSeparator : Text)
    (mappingExceptions : Bool) (mapFile : MapFile) :
    (mappedAdapter server csManager serverConfig pvSeparator mappingExceptions mapFile).space.Intact := by
  have steps := AddressSpace.intact_steps law.below
  have start : (({ serverConfig, pvSeparator, mappingExceptions } : UaAdapter).mapSelfToNamespace server).space.Intact :=
    steps.addNode _ (.inr rfl) _ (steps.addNode _ (.inr rfl) _ (steps.addNode _ (.inr rfl) _ .initial))
  have served := serverSteps_intact law
  have kept : KeepsIntact _ _ := Mapping.implicitMapping_keeps server csManager
    (({ serverConfig, pvSeparator, mappingExceptions } : UaAdapter).mapSelfToNamespace server) mapFile
  exact kept start

end Served

/-- What all entries of a map file keep, whether an error ends the mapping or not. -/
theorem Mapping.applyMapping_keeps (server : UaServer) (csManager : ControlSystemPVManager)
    {relation : UaAdapter → UaAdapter → Prop} [LocalSteps relation] [FaultSteps relation] [RootSteps relation]
    [AdditionalSteps relation] [LinkSteps server relation] [ServerSteps server relation] (fuel : Nat) (mapFile : MapFile) :
    Keeps relation (applyMapping server csManager fuel mapFile) := by
  refine Keeps.bind (buildFolderStructure_keeps server csManager fuel mapFile.folders) fun _ => ?_
  refine Keeps.bind (explicitVarMapping_keeps server csManager mapFile.processVariables) fun _ => ?_
  exact addAdditionalVariables_keeps server mapFile.additionalVariables

/-- Whatever is mapped, and wherever the mapping ends: ids are unique, all references are between
nodes, and every node hangs below one of those the server began with. -/
theorem mapped_space_intact {server : UaServer} (law : ChecksReferences server) (csManager : ControlSystemPVManager)
    (serverConfig : ServerConfig) (pvSeparator : Text) (mappingExceptions : Bool) (fuel : Nat) (mapFile : MapFile) :
    (outcome (Mapping.applyMapping server csManager fuel mapFile)
      (mappedAdapter server csManager serverConfig pvSeparator mappingExceptions mapFile)).2.space.Intact := by
  have served := serverSteps_intact law
  have links := linkSteps_intact law
  have kept : Keeps KeepsIntact (Mapping.applyMapping server csManager fuel mapFile) :=
    Mapping.applyMapping_keeps server csManager fuel mapFile
  exact kept _ (mappedAdapter_intact law csManager serverConfig pvSeparator mappingExceptions mapFile)

/-- A server that asks for both ends of a reference. -/
def referringServer : UaServer where
  addsNode space node parent := !space.hasNode node.nodeId && space.hasNode parent
  addsReference space reference := space.hasNode reference.source && space.hasNode reference.target

private theorem referringServer_law : ChecksReferences referringServer where
  below _ _ _ grants := by simpa [referringServer] using grants
  known _ _ grants := Bool.and_eq_true_iff.mp grants

theorem mapped_space_intact_linked :
    (outcome (Mapping.applyMapping referringServer nestedFolder 1 { folders := [linkedElsewhere] })
      (mappedAdapter referringServer nestedFolder { rootFolder := "r" } "/" false
        { folders := [linkedElsewhere] })).2.space.Intact :=
  mapped_space_intact referringServer_law nestedFolder { rootFolder := "r" } "/" false 1 { folders := [linkedElsewhere] }

end OpcUaAdapter
