import OpcUaAdapter.Proofs.AccessFaults
import OpcUaAdapter.Proofs.DeepCopy
import OpcUaAdapter.Proofs.SpaceSteps

/-! The names of the variables that a folder copy comes to. It takes the last part of each of
them, also of those it has copied itself when it goes to a folder below its source. -/

namespace OpcUaAdapter

open Effects

/-- The server adds nodes under new ids below nodes it has, and references from nodes it has. -/
structure ChecksNodes (server : UaServer) : Prop where
  below : AddsBelow server
  sources : ∀ space reference, server.addsReference space reference = true → space.hasNode reference.source = true

def SourcesKnown (space : AddressSpace) : Prop :=
  ∀ reference ∈ space.references, space.hasNode reference.source = true

/-- The display name of a variable has a part that its copy can go by. -/
def UaNode.ShowsPart (node : UaNode) : Prop := node.nodeClass = .variable → parseVariablePath node.displayName "/" ≠ []

/-- The variables of the source and of the folders below it show names with parts. -/
def AddressSpace.NamesBelow (space : AddressSpace) (source : NodeId) : Prop :=
  ∀ layer, space.Below source layer → ∀ rd ∈ space.browseForward layer .hasComponent [.variable, .method], rd.ShowsPart

private theorem child_shows : ∀ child ∈ pvChildNames, parseVariablePath child "/" ≠ [] := by decide

section Steps

variable {server : UaServer} {space : AddressSpace} {node : UaNode} {parent : NodeId} {referenceType : ReferenceType}

theorem SourcesKnown.of_same {before after : AddressSpace} (known : SourcesKnown before)
    (nodes : ∀ nodeId, before.hasNode nodeId = true → after.hasNode nodeId = true)
    (references : after.references = before.references) : SourcesKnown after := by
  intro reference member
  rw [references] at member
  exact nodes _ (known reference member)

theorem SourcesKnown.steps (law : AddsBelow server) : NodeSteps server (fun _ _ _ => True)
    fun before after => SourcesKnown before → SourcesKnown after where
  refl _ := id
  trans first rest := rest ∘ first
  folder _ _ _ _ := trivial
  addNode space node parent referenceType _ typeDefinition known := by
    unfold AddressSpace.addNode
    split
    next grants =>
      have grown (nodeId : NodeId) (has : space.hasNode nodeId = true ∨ node.nodeId = nodeId) :
          AddressSpace.hasNode ⟨space.nodes ++ [node], []⟩ nodeId = true := by
        rw [AddressSpace.hasNode_iff] at has ⊢
        rcases has with ⟨old, member, same⟩ | same
        · exact ⟨old, List.mem_append_left _ member, same⟩
        · exact ⟨node, List.mem_append_right _ (List.mem_singleton_self _), same⟩
      intro reference member
      rcases List.mem_append.mp member with old | new
      · exact grown _ (.inl (known reference old))
      · rcases List.mem_cons.mp new with rfl | typed
        · exact grown _ (.inl (law _ _ _ grants).2)
        · obtain ⟨type, -, rfl⟩ := Option.map_eq_some_iff.mp (Option.mem_toList.mp typed)
          exact grown _ (.inr rfl)
    next => exact known

theorem mem_browseForward_addNode (grants : server.addsNode space node parent = true)
    (unused : space.hasNode node.nodeId = false) {typeDefinition : Option NodeId} {layer : NodeId}
    {browsed : ReferenceType} (hierarchical : browsed ≠ .hasTypeDefinition) {nodeClasses : List NodeClass} {rd : UaNode}
    (member : rd ∈ (space.addNode server node parent referenceType typeDefinition).2.browseForward layer browsed
      nodeClasses) : rd ∈ space.browseForward layer browsed nodeClasses ∨ rd = node := by
  simp only [AddressSpace.addNode, if_pos grants] at member
  obtain ⟨reference, kept, found⟩ := List.mem_filterMap.mp member
  obtain ⟨stored, from_layer⟩ := List.mem_filter.mp kept
  obtain ⟨there, fits⟩ := Option.filter_eq_some_iff.mp found
  rw [AddressSpace.find?, List.find?_append] at there
  cases before : space.find? reference.target with
  | none =>
    rw [AddressSpace.find?] at before
    rw [before, Option.none_or] at there
    exact .inr (List.mem_singleton.mp (List.mem_of_find?_eq_some there))
  | some old =>
    left
    have same : old = rd := by
      rw [AddressSpace.find?] at before
      rw [before, Option.some_or] at there
      exact Option.some.inj there
    have earlier : reference ∈ space.references := by
      rcases List.mem_append.mp stored with earlier | new
      · exact earlier
      · rcases List.mem_cons.mp new with rfl | typed
        · rw [AddressSpace.hasNode, before] at unused
          cases unused
        · obtain ⟨type, -, rfl⟩ := Option.map_eq_some_iff.mp (Option.mem_toList.mp typed)
          simp [Ne.symm hierarchical] at from_layer
    refine List.mem_filterMap.mpr ⟨reference, List.mem_filter.mpr ⟨earlier, from_layer⟩, ?_⟩
    rw [before, same]
    exact Option.filter_eq_some_iff.mpr ⟨rfl, fits⟩

theorem below_addNode (known : SourcesKnown space) (grants : server.addsNode space node parent = true)
    (unused : space.hasNode node.nodeId = false) {typeDefinition : Option NodeId} {source layer : NodeId}
    (below : (space.addNode server node parent referenceType typeDefinition).2.Below source layer) :
    space.Below source layer ∨ layer = node.nodeId := by
  induction below with
  | refl => exact .inl .refl
  | tail _ reference ih =>
    have references := addNode_references { serverConfig := { rootFolder := [] }, space } node parent referenceType
      typeDefinition grants
    rcases (references _ _).mp reference with old | ⟨⟨-, rfl⟩, -⟩
    · rcases ih with before | rfl
      · exact .inl (before.tail old)
      · rw [known _ old] at unused
        cases unused
    · exact .inr rfl

/-- The names below a source, when nodes are added that show names with parts. -/
theorem namesBelow_steps (law : AddsBelow server) (source : NodeId) : NodeSteps server (fun node _ _ => node.ShowsPart)
    fun before after => SourcesKnown before ∧ before.NamesBelow source → SourcesKnown after ∧ after.NamesBelow source where
  refl _ := id
  trans first rest := rest ∘ first
  folder _ _ _ _ := nofun
  addNode space node parent referenceType shows typeDefinition names := by
    refine ⟨(SourcesKnown.steps law).addNode space trivial typeDefinition names.1, ?_⟩
    by_cases grants : server.addsNode space node parent = true
    · have unused := (law _ _ _ grants).1
      intro layer below rd member
      rcases mem_browseForward_addNode grants unused (by decide) member with old | rfl
      · rcases below_addNode names.1 grants unused below with before | rfl
        · exact names.2 layer before rd old
        · have known := names.1 _ (reference_of_mem_browseForward old)
          rw [unused] at known
          cases known
      · exact shows
    · simp only [AddressSpace.addNode, if_neg grants]
      exact names.2

private theorem namesBelow_writeDescription {source : NodeId} (names : space.NamesBelow source) (nodeId : NodeId)
    (description : Text) : (space.writeDescription nodeId description).NamesBelow source := by
  intro layer below rd member
  obtain ⟨reference, kept, found⟩ := List.mem_filterMap.mp member
  obtain ⟨there, fits⟩ := Option.filter_eq_some_iff.mp found
  have same : (space.writeDescription nodeId description).find? reference.target =
      (space.find? reference.target).map fun node => if node.nodeId = nodeId then { node with description } else node := by
    simp only [AddressSpace.writeDescription, AddressSpace.update, AddressSpace.find?, List.find?_map]
    refine congrArg (fun found => (List.find? found space.nodes).map _) (funext fun node => ?_)
    dsimp only [Function.comp]
    split
    · rfl
    · rfl
  rw [same] at there
  obtain ⟨old, before, rfl⟩ := Option.map_eq_some_iff.mp there
  have unchanged : old ∈ space.browseForward layer .hasComponent [.variable, .method] := by
    refine List.mem_filterMap.mpr ⟨reference, kept, ?_⟩
    rw [before]
    refine Option.filter_eq_some_iff.mpr ⟨rfl, ?_⟩
    revert fits
    split
    · exact id
    · exact id
  have shown := names layer below old unchanged
  split
  · exact shown
  · exact shown

end Steps

/-- A copy on its way: the faults are those it began with, the names below its source show
parts, and these layers are below it. -/
structure Copying (faults : List UndefinedStep) (source : NodeId) (layers : NodeId → Prop) (adapter : UaAdapter) :
    Prop where
  faults : accessFaults adapter = faults
  known : SourcesKnown adapter.space
  names : adapter.space.NamesBelow source
  reached : ∀ layer, layers layer → adapter.space.Below source layer

namespace Copying

variable {faults : List UndefinedStep} {source : NodeId} {layers : NodeId → Prop} {adapter after : UaAdapter}
  (copying : Copying faults source layers adapter)

include copying

theorem of_same (same : accessFaults after = accessFaults adapter) (space : after.space = adapter.space) :
    Copying faults source layers after :=
  ⟨same.trans copying.faults, space ▸ copying.known, space ▸ copying.names, space ▸ copying.reached⟩

private theorem of_grows (grown : Grows adapter after)
    (names : SourcesKnown adapter.space ∧ adapter.space.NamesBelow source →
      SourcesKnown after.space ∧ after.space.NamesBelow source) : Copying faults source layers after := by
  obtain ⟨known, shown⟩ := names ⟨copying.known, copying.names⟩
  refine ⟨grown.notes.faults.trans copying.faults, known, shown, fun layer inside => ?_⟩
  exact Relation.ReflTransGen.mono (fun _ _ reference => grown.references _ reference) _ _
    (copying.reached layer inside)

theorem writeDescription (nodeId : NodeId) (description : Text) :
    Copying faults source layers { adapter with space := adapter.space.writeDescription nodeId description } := by
  refine ⟨copying.faults, ?_, namesBelow_writeDescription copying.names nodeId description, copying.reached⟩
  exact copying.known.of_same (fun _ has => (AddressSpace.hasNode_writeDescription _ _ _ _).trans has) rfl

theorem createFolder {server : UaServer} (law : AddsBelow server) (base : NodeId) (folderName : Text) :
    Copying faults source layers (adapter.createFolder server base folderName).2 :=
  copying.of_grows (adapter.createFolder_grows server base folderName [])
    ((namesBelow_steps law source).createFolder adapter base folderName [])

theorem more {found : NodeId → Prop} (each : ∀ layer, found layer → adapter.space.Below source layer) :
    Copying faults source (fun layer => layers layer ∨ found layer) adapter :=
  ⟨copying.faults, copying.known, copying.names, fun layer either => either.elim (copying.reached layer) (each layer)⟩

theorem fewer {others : NodeId → Prop} (each : ∀ layer, others layer → layers layer) :
    Copying faults source others adapter :=
  ⟨copying.faults, copying.known, copying.names, fun layer other => copying.reached layer (each layer other)⟩

end Copying

namespace Mapping

/-- The computation leaves a copy on its way, also where it fails. -/
def Carries {α : Type} (faults : List UndefinedStep) (source : NodeId) (layers : NodeId → Prop) (effect : Mapping α) :
    Prop :=
  Yields (Copying faults source layers) effect (fun _ => Copying faults source layers)
    fun _ => Copying faults source layers

section Copies

variable {server : UaServer} (law : AddsBelow server) (csManager : ControlSystemPVManager)
  {faults : List UndefinedStep} {source : NodeId} {layers : NodeId → Prop}

theorem describe_carries (nodeId : NodeId) (description : Text) :
    Carries faults source layers (when (!description.isEmpty) (writeDescription nodeId description)) :=
  Yields.ite (Yields.modify fun _ copying => copying.writeDescription nodeId description) (Yields.pure fun _ => id)

theorem readSourceName_carries (nodeId : NodeId) : Carries faults source layers (readSourceName nodeId) := by
  unfold readSourceName
  refine Yields.read fun adapter copying => Yields.weaken ?_ fun _ same => same ▸ copying
  dsimp only
  split
  · exact Yields.pure fun _ => id
  · refine Yields.bind (Yields.modify fun current kept => ⟨?_, kept.known, kept.names, kept.reached⟩) fun _ =>
      Yields.pure fun _ => id
    simpa [accessFaults] using kept.faults

include law

private theorem newProcessVariable_carries (base : NodeId) (namePV : Text) {name : Text}
    (shown : parseVariablePath name "/" ≠ []) :
    Carries faults source layers (newProcessVariable server csManager base namePV name) := by
  have filled : name.isEmpty = false := List.isEmpty_eq_false_iff.mpr fun empty => shown (by rw [empty]; rfl)
  unfold newProcessVariable
  split
  · exact Yields.throw fun _ => id
  next oneProcessVariable _ =>
    refine Yields.modifyGet fun adapter copying => copying.of_grows (adapter.newProcessVariable_grows server _ _ _ _) ?_
    refine (namesBelow_steps law source).newProcessVariable adapter base oneProcessVariable (if_neg (by simp [filled]))
      ?_ ?_
    · exact fun _ _ _ _ => shown
    · exact fun _ _ child member _ => child_shows child member

private theorem copyComponent_carries (target : NodeId) {rd : UaNode} (shows : rd.ShowsPart) :
    Carries faults source layers (copyComponent server csManager target rd) := by
  unfold copyComponent
  split
  next variable_ =>
    refine Yields.bind (readSourceName_carries rd.nodeId) fun namePV => ?_
    rw [lastToken_bind]
    have quiet : Carries faults source layers (when (parseVariablePath rd.displayName "/").isEmpty (note .emptyBack)) := by
      rw [List.isEmpty_eq_false_iff.mpr (shows variable_)]
      exact Yields.pure fun _ => id
    refine Yields.bind quiet fun _ => ?_
    refine Yields.bind (newProcessVariable_carries law csManager target namePV (shows variable_)) fun created => ?_
    exact Yields.modify fun _ copying => copying.of_same rfl rfl
  next => exact Yields.pure fun _ => id

/-- The recursion over the layers of the source, by its depth. The variables of a layer show
parts because it is below the source when the copy comes to it, and still is later. -/
theorem deepCopy_carries (fuel : Nat) {layer : NodeId} (target : NodeId) {layers : NodeId → Prop} (inside : layers layer) :
    Carries faults source layers (deepCopyHierarchicalLayer server csManager fuel layer target) := by
  induction fuel generalizing layer target layers with
  | zero => exact Yields.throw fun _ => id
  | succ fuel ih =>
    refine Yields.read fun current copying => Yields.weaken ?_ fun _ same => same ▸ copying
    have shown := copying.names layer (copying.reached layer inside)
    refine Yields.bind (Yields.forM fun rd member => copyComponent_carries law csManager target (shown rd member))
      fun _ => ?_
    refine Yields.read fun copied later => ?_
    have found : ∀ rd ∈ copied.space.browseForward layer .organizes [.object], copied.space.Below source rd.nodeId :=
      fun rd member => (later.reached layer inside).tail (reference_of_mem_browseForward member)
    let wider := fun other => layers other ∨ ∃ rd ∈ copied.space.browseForward layer .organizes [.object],
      rd.nodeId = other
    have more : Copying faults source wider copied := later.more fun other listed => by
      obtain ⟨rd, member, rfl⟩ := listed
      exact found rd member
    refine @Yields.mono _ _ _ _ (fun _ => Copying faults source wider) _ (fun _ => Copying faults source wider) _ _ ?_
      (fun _ _ kept => kept.fewer fun _ => .inl) fun _ _ kept => kept.fewer fun _ => .inl
    refine @Yields.weaken _ _ _ (Copying faults source wider) _ _ _ _ ?_ fun _ same => same ▸ more
    refine Yields.bind (Yields.mapM fun rd member => ?_) fun _ => Yields.pure fun _ => id
    refine Yields.read fun now still => Yields.weaken ?_ fun _ same => same ▸ still
    split
    next => exact Yields.pure fun _ => id
    next folder _ =>
      have created : Carries faults source wider (Mapping.createFolder server target folder.displayName) :=
        Yields.modifyGet fun _ kept => kept.createFolder law target folder.displayName
      refine Yields.bind created fun created => ?_
      exact Yields.bind (describe_carries created folder.description) fun _ => ih created (.inr ⟨rd, member, rfl⟩)

end Copies

end Mapping

end OpcUaAdapter
