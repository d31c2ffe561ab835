import OpcUaAdapter.Proofs.FolderPaths
import OpcUaAdapter.Proofs.VariableNodes
import OpcUaAdapter.Proofs.VariableRenaming
import OpcUaAdapter.Proofs.VariableUpdates

/-! What the history of a process variable entry does to the mapping. With a history and
without a name, the source name stands in for the name, and an entry that would link its
source in passing is left at the history. -/

namespace OpcUaAdapter

open Effects Mapping

/-- The entry is for a variable in its own place. -/
def ProcessVariableEntry.InPlace (entry : ProcessVariableEntry) (name : Text) : Prop :=
  entry.target ++ '/' :: name = entry.source ∧ entry.copyMode = "FALSE"

theorem AddressSpace.linked_eq_self_iff (space : AddressSpace) (server : UaServer) (reference : UaReference)
    (source : NodeId) (displayName : Text) :
    (space.addReference server reference).writeDisplayName source displayName = space ↔
      server.addsReference space reference = false ∧
        ∀ node ∈ space.nodes, node.nodeId = source → node.displayName = displayName := by
  cases added : server.addsReference space reference with
  | true =>
    refine iff_of_false (fun same => ?_) (by simp)
    have references := congrArg (fun space => space.references.length) same
    simp [addReference, added, writeDisplayName, update] at references
  | false =>
    have all : (space.writeDisplayName source displayName).nodes = space.nodes.map id ↔ ∀ node ∈ space.nodes,
        (if node.nodeId = source then { node with displayName } else node) = id node := List.map_inj_left
    have nodes : space.writeDisplayName source displayName = space ↔
        (space.writeDisplayName source displayName).nodes = space.nodes := by
      constructor
      · exact congrArg AddressSpace.nodes
      · intro same
        change ({ space with nodes := (space.writeDisplayName source displayName).nodes } : AddressSpace) = space
        rw [same]
    rw [addReference, if_neg (by simp [added]), nodes, ← List.map_id space.nodes, all]
    simp only [true_and, List.map_id]
    refine forall₂_congr fun node _ => ?_
    obtain ⟨nodeId, nodeClass, browseName, shown, description, value⟩ := node
    by_cases same : nodeId = source
    · simp [same, eq_comm]
    · simp [same]

namespace ProcessVariableEntry

variable (entry : ProcessVariableEntry) {history : Text}

private theorem mappedName_of_some {name : Text} (named : entry.name = some name) :
    entry.mappedName history = getContentFromNode name := by
  unfold mappedName
  rw [named]
  rfl

private theorem mappedName_nil (unnamed : entry.name = none) : entry.mappedName [] = [] := by
  unfold mappedName
  rw [unnamed]
  rfl

theorem mappedName_of_none (unnamed : entry.name = none) (linked : entry.copyMode = [] ∨ entry.copyMode = "FALSE")
    (sourced : entry.source ≠ []) (assigned : history ≠ []) : entry.mappedName history = entry.source := by
  unfold mappedName
  rw [unnamed]
  rcases linked with mode | mode <;> simp [mode, sourced, assigned]

end ProcessVariableEntry

namespace UaAdapter

variable (server : UaServer) (adapter : UaAdapter)

/-- The unit and the description, where they are given, are those of the node's variables. -/
def Labelled (nodeId : NodeId) (unit description : Text) : Prop :=
  ∀ processVariable ∈ adapter.variableVector, processVariable.ownNodeId = nodeId →
    (unit = [] ∨ processVariable.engineeringUnit = unit) ∧ (description = [] ∨ processVariable.description = description)

/-- The folders of a path that are missing are asked for, below a folder that is there. -/
def AsksForFolder (path : List Text) : Prop :=
  adapter.ownNodeId.isNull = false ∧ (adapter.existFolderPath adapter.ownNodeId path).isNull = true ∧
    (adapter.partlyExisting adapter.ownNodeId path).1.isNull = false ∧
    ∃ folder rest, (adapter.partlyExisting adapter.ownNodeId path).2 = folder :: rest ∧
      (adapter.existFolder (adapter.partlyExisting adapter.ownNodeId path).1 folder).isNull = true

def destinationPath (destination : Text) : List Text := (parseVariablePath (destination ++ "/removedpart") "/").dropLast

def destinationFolder (destination : Text) : NodeId :=
  if adapter.ownNodeId.isNull then .null else adapter.existFolderPath adapter.ownNodeId (destinationPath destination)

/-- A link to the destination would change nothing. -/
structure LinkedAlready (source : NodeId) (sourceName destination unit description : Text) : Prop where
  enrolled : ¬ adapter.AsksForFolder (destinationPath destination)
  refused : server.addsReference adapter.space ⟨adapter.destinationFolder destination, .hasComponent, source⟩ = false
  labelled : adapter.Labelled source unit description
  displayed : ∀ node ∈ adapter.space.nodes, node.nodeId = source → node.displayName = lastPart sourceName

variable (entry : ProcessVariableEntry)

/-- An update of the variable in its own place would change nothing, and fails just when the
node of the source is missing. -/
def UpdatedAlready : Prop :=
  match adapter.updateTarget entry.source with
  | some rd => adapter.Labelled rd.nodeId (elementContent entry.unit) (elementContent entry.description) ∧
      (adapter.space.hasNode (adapter.sourceNode entry) = true ∨ adapter.mappingExceptions = false)
  | none => adapter.space.hasNode (adapter.sourceNode entry) = false ∨ adapter.mappingExceptions = false

/-- What the entry does to the adapter does not depend on whether it has a history. -/
def HistoryAside : Prop :=
  entry.source = [] ∨
    match entry.name with
    | some name =>
      entry.InPlace (getContentFromNode name) ∨ adapter.space.hasNode (adapter.sourceNode entry) = false ∨
        getContentFromNode name = [] ∨ getContentFromNode name = lastPart entry.source ∨
        adapter.mappingExceptions = false
    | none =>
      entry.InPlace [] ∧ adapter.UpdatedAlready entry ∨
      ¬ entry.InPlace [] ∧ (adapter.space.hasNode (adapter.sourceNode entry) = false ∨ lastPart entry.source = entry.source ∨
        adapter.LinkedAlready server (adapter.sourceNode entry) entry.source entry.target (elementContent entry.unit)
          (elementContent entry.description))

private theorem folderVector_createFolder (base : NodeId) (folderName : Text) :
    adapter.folderVector <+: (adapter.createFolder server base folderName).2.folderVector := by
  unfold createFolder
  split
  · exact List.prefix_rfl
  · split
    · exact List.prefix_append _ _
    · exact List.prefix_rfl

private theorem folderVector_createFolders (base : NodeId) (path : List Text) :
    adapter.folderVector <+: (adapter.createFolders server base path).2.folderVector := by
  induction path generalizing adapter base with
  | nil => exact List.prefix_rfl
  | cons folder path ih => exact (adapter.folderVector_createFolder server base folder).trans (ih _ _)

theorem createFolders_null (path : List Text) : adapter.createFolders server .null path = (.null, adapter) := by
  induction path with
  | nil => rfl
  | cons folder path ih => exact ih

private theorem createFolderPath_of_asks {path : List Text} (asks : adapter.AsksForFolder path) :
    (adapter.createFolderPath server adapter.ownNodeId path).2.folderVector ≠ adapter.folderVector := by
  obtain ⟨own, missing, base, folder, rest, behind, absent⟩ := asks
  unfold createFolderPath
  rw [if_neg (by simp [own]), if_pos missing, behind, createFolders]
  generalize (adapter.partlyExisting adapter.ownNodeId path).1 = last at base absent ⊢
  have asked : adapter.folderVector.length < (adapter.createFolder server last folder).2.folderVector.length := by
    unfold createFolder
    rw [if_neg (by simp [base]), if_pos absent]
    change _ < (adapter.folderVector ++ [_]).length
    simp
  have grown := (folderVector_createFolders server (adapter.createFolder server last folder).2
    (adapter.createFolder server last folder).1 rest).length_le
  intro same
  rw [same] at grown
  exact absurd asked (Nat.not_lt.mpr grown)

private theorem partlyExisting_ne_nil (base : NodeId) {path : List Text} (filled : path ≠ []) :
    (adapter.partlyExisting base path).2 ≠ [] := by
  fun_induction adapter.partlyExisting base path with
  | case1 base folder next path i found ih => exact ih (List.cons_ne_nil _ _)
  | case2 base folder next path missing => exact filled
  | case3 base path single => exact filled

private theorem createFolderPath_of_not_asks {path : List Text} (silent : ¬ adapter.AsksForFolder path) :
    adapter.createFolderPath server adapter.ownNodeId path =
      (if adapter.ownNodeId.isNull then .null else adapter.existFolderPath adapter.ownNodeId path, adapter) := by
  unfold createFolderPath
  split
  · rfl
  next own =>
  split
  next missing =>
    have null : adapter.existFolderPath adapter.ownNodeId path = .null := by simpa [NodeId.isNull] using missing
    rw [null]
    have filled : path ≠ [] := by
      rintro rfl
      exact own missing
    obtain ⟨folder, rest, behind⟩ :=
      List.exists_cons_of_ne_nil (adapter.partlyExisting_ne_nil adapter.ownNodeId filled)
    rw [behind, createFolders]
    have refused : adapter.createFolder server (adapter.partlyExisting adapter.ownNodeId path).1 folder = (.null, adapter) := by
      unfold createFolder
      split
      · rfl
      next base =>
      rw [if_neg fun absent => silent ⟨by simpa using own, missing, by simpa using base, folder, rest, behind, absent⟩]
    rw [refused]
    exact createFolders_null server adapter rest
  next there => rfl

theorem enroll_destination (destination : Text) :
    adapter.enrollFolderPathFromString server (destination ++ "/removedpart") "/" =
      adapter.createFolderPath server adapter.ownNodeId (destinationPath destination) := by
  have named : parseVariablePath (destination ++ "/removedpart") "/" ≠ [] :=
    parseVariablePath_ne_nil ⟨'r', by simp, by decide⟩
  unfold enrollFolderPathFromString
  simp only [show ("/" : Text).isEmpty = false from rfl, Bool.false_eq_true, if_false]
  rw [if_neg (by simpa using named)]
  rfl

end UaAdapter

namespace Mapping

variable (server : UaServer) (csManager : ControlSystemPVManager)

def linkOwn (source : NodeId) (destination name unit description : Text) : Mapping Unit := do
  let destinationFolder ← enrollFolderPathFromString server (destination ++ "/removedpart") "/"
  addReference server ⟨destinationFolder, .hasComponent, source⟩
  finishVariable source name unit description

variable (adapter : UaAdapter)

/-- An error ends the mapping, or goes to the warnings. -/
theorem raiseError_alike (errorMessage consequenceMessage : Text) (line : Int) :
    EndAlike Alike (outcome (raiseError errorMessage consequenceMessage line) adapter)
      (if adapter.mappingExceptions then .error .unfinished else .ok (), adapter) := by
  obtain ⟨_, noted, histories, warnings, steps, rfl⟩ :=
    note_alike .emptyBack (errorMessage.isEmpty || consequenceMessage.isEmpty) adapter
  unfold raiseError
  rw [outcome_bind_ok noted, outcome_bind_ok (outcome_get _)]
  change EndAlike Alike (outcome (if adapter.mappingExceptions then _ else _) _) _
  cases adapter.mappingExceptions with
  | true => exact Std.Symm.symm (r := Alike) _ _ ⟨histories, warnings, steps, rfl⟩
  | false => exact ⟨rfl, _, _, _, rfl⟩

private theorem raise_alike_iff (errorMessage consequenceMessage : Text) (line : Int) :
    EndAlike Alike (outcome (raiseError errorMessage consequenceMessage line) adapter) (.ok (), adapter) ↔
      adapter.mappingExceptions = false := by
  rw [(raiseError_alike adapter errorMessage consequenceMessage line).congr (EndAlike.refl _)]
  cases adapter.mappingExceptions with
  | true => exact iff_of_false id (by simp)
  | false => exact iff_of_true (EndAlike.refl _) rfl

theorem linkVariable_own {source : NodeId} {sourceName destination name unit description history : Text}
    (same : name = [] ∨ name = lastPart sourceName) :
    EndAlike Alike (outcome (linkVariable server source sourceName destination name unit description history) adapter)
      (outcome (linkOwn server source destination (lastPart sourceName) unit description) adapter) := by
  obtain ⟨_, first, _, _, _, rfl⟩ := lastToken_alike sourceName adapter
  unfold linkVariable
  rw [outcome_bind_ok first]
  have named : (if name.isEmpty then lastPart sourceName else name) = lastPart sourceName := by
    rcases same with rfl | rfl
    · rfl
    · exact ite_self _
  dsimp only
  rw [named, if_neg (by simp)]
  refine Agrees.bind (enrollFolderPathFromString_agrees server _ _) (fun base => ?_) _ _ (Std.Symm.symm _ _ ⟨_, _, _, rfl⟩)
  refine Agrees.bind (modify_agrees fun _ histories warnings steps => ⟨histories, warnings, steps, rfl⟩) fun _ => ?_
  exact finishVariable_agrees _ _ _ _

theorem linkVariable_other {source : NodeId} {sourceName destination name unit description history : Text}
    (filled : name ≠ []) (other : name ≠ lastPart sourceName) :
    EndAlike Alike (outcome (linkVariable server source sourceName destination name unit description history) adapter)
      (outcome (when history.isEmpty (raiseError [] [])) adapter) := by
  obtain ⟨_, first, _, _, _, rfl⟩ := lastToken_alike sourceName adapter
  unfold linkVariable
  rw [outcome_bind_ok first]
  have named : (if name.isEmpty then lastPart sourceName else name) = name := if_neg (by simpa using filled)
  dsimp only
  rw [named, if_pos fun same => other same.symm]
  exact when_agrees _ (raiseError_agrees _ _ _ _ _ _) _ _ (Std.Symm.symm _ _ ⟨_, _, _, rfl⟩)

private theorem relabelled_eq_self_iff (nodeId : NodeId) (unit description : Text) :
    adapter.variableVector.map (·.relabel nodeId unit description) = adapter.variableVector ↔
      adapter.Labelled nodeId unit description := by
  have all : adapter.variableVector.map (·.relabel nodeId unit description) = adapter.variableVector.map id ↔
      ∀ processVariable ∈ adapter.variableVector,
        processVariable.relabel nodeId unit description = id processVariable := List.map_inj_left
  rw [List.map_id] at all
  rw [all]
  exact forall₂_congr fun _ _ => UaProcessVariable.relabel_eq_self_iff

private theorem set_alike_iff (nodeId : NodeId) (unit description : Text) :
    EndAlike Alike (outcome (setUnitAndDescription nodeId unit description) adapter) (.ok (), adapter) ↔
      adapter.Labelled nodeId unit description := by
  rw [outcome_setUnitAndDescription, ← relabelled_eq_self_iff]
  constructor
  · rintro ⟨_, histories, warnings, steps, same⟩
    exact (congrArg UaAdapter.variableVector same).symm
  · intro same
    rw [same]
    exact ⟨rfl, Alike.refl adapter⟩

private theorem set_raise_iff (nodeId : NodeId) (unit description : Text) :
    EndAlike Alike (outcome (setUnitAndDescription nodeId unit description) adapter) (outcome (raiseError [] []) adapter) ↔
      adapter.Labelled nodeId unit description ∧ adapter.mappingExceptions = false := by
  rw [(EndAlike.refl _).congr (raiseError_alike adapter [] [] (-1))]
  cases adapter.mappingExceptions with
  | true =>
    rw [outcome_setUnitAndDescription]
    exact iff_of_false id fun set => absurd set.2 (by simp)
  | false => simpa using set_alike_iff adapter nodeId unit description

private theorem outcome_linkOwn (source : NodeId) (destination name unit description : Text) :
    let enrolled := adapter.enrollFolderPathFromString server (destination ++ "/removedpart") "/"
    outcome (linkOwn server source destination name unit description) adapter = (.ok (),
      { enrolled.2 with
        variableVector := enrolled.2.variableVector.map (·.relabel source unit description)
        space := (enrolled.2.space.addReference server ⟨enrolled.1, .hasComponent, source⟩).writeDisplayName source name }) := by
  intro enrolled
  have first : outcome (enrollFolderPathFromString server (destination ++ "/removedpart") "/") adapter =
      (.ok enrolled.1, enrolled.2) := rfl
  unfold linkOwn addReference finishVariable
  rw [outcome_bind_ok first, outcome_bind_ok (outcome_modify _ _), outcome_bind_ok (outcome_setUnitAndDescription _ _ _ _)]
  rfl

private theorem linkOwn_alike_iff (source : NodeId) (sourceName destination unit description : Text) :
    EndAlike Alike (outcome (linkOwn server source destination (lastPart sourceName) unit description) adapter)
      (.ok (), adapter) ↔ adapter.LinkedAlready server source sourceName destination unit description := by
  rw [outcome_linkOwn, UaAdapter.enroll_destination]
  by_cases asks : adapter.AsksForFolder (UaAdapter.destinationPath destination)
  · refine iff_of_false ?_ fun linked => linked.enrolled asks
    rintro ⟨-, histories, warnings, steps, same⟩
    exact adapter.createFolderPath_of_asks server asks (congrArg UaAdapter.folderVector same).symm
  rw [adapter.createFolderPath_of_not_asks server asks]
  have labels := relabelled_eq_self_iff adapter source unit description
  have space := adapter.space.linked_eq_self_iff server
    ⟨adapter.destinationFolder destination, .hasComponent, source⟩ source (lastPart sourceName)
  constructor
  · rintro ⟨-, histories, warnings, steps, same⟩
    obtain ⟨refused, displayed⟩ := space.mp (congrArg UaAdapter.space same).symm
    exact ⟨asks, refused, labels.mp (congrArg UaAdapter.variableVector same).symm, displayed⟩
  · rintro ⟨-, refused, labelled, displayed⟩
    have kept := space.mpr ⟨refused, displayed⟩
    unfold UaAdapter.destinationFolder at kept
    dsimp only
    rw [kept, labels.mpr labelled]
    exact ⟨rfl, Alike.refl adapter⟩

section Ways

variable {server} {csManager} {adapter} {entry : ProcessVariableEntry} {name history : Text}

private theorem mapNamed_unsourced (unsourced : entry.source = []) :
    EndAlike Alike (outcome (mapNamed server csManager entry name history) adapter) (outcome (raiseError [] []) adapter) := by
  unfold mapNamed
  dsimp only
  rw [if_pos (by simp [unsourced])]
  split
  · exact raiseError_agrees _ _ _ _ _ _ _ _ (Alike.refl adapter)
  · exact raiseError_agrees _ _ _ _ _ _ _ _ (Alike.refl adapter)

theorem mapNamed_inPlace (sourced : entry.source ≠ []) (inPlace : entry.InPlace name) :
    mapNamed server csManager entry name history =
      updateVariable entry.line entry.source name (elementContent entry.unit) (elementContent entry.description) := by
  unfold mapNamed
  dsimp only
  rw [if_neg (by simpa using sourced), if_pos (by simp [inPlace.1, inPlace.2])]

private theorem mapNamed_elsewhere (sourced : entry.source ≠ []) (elsewhere : ¬ entry.InPlace name)
    (linked : entry.copyMode ≠ "TRUE") :
    EndAlike Alike (outcome (mapNamed server csManager entry name history) adapter)
      (outcome (if adapter.space.hasNode (adapter.sourceNode entry) then
        linkVariable server (adapter.sourceNode entry) entry.source entry.target name (elementContent entry.unit)
          (elementContent entry.description) history
        else raiseError [] []) adapter) := by
  unfold mapNamed
  dsimp only
  rw [if_neg (by simpa using sourced),
    if_neg fun inPlace => elsewhere (by simpa [ProcessVariableEntry.InPlace] using inPlace),
    outcome_bind_ok (outcome_get adapter)]
  cases adapter.space.hasNode (adapter.sourceNode entry) with
  | false =>
    simp only [Bool.not_false, if_true, Bool.false_eq_true, if_false]
    split
    · exact raiseError_agrees _ _ _ _ _ _ _ _ (Alike.refl adapter)
    · exact raiseError_agrees _ _ _ _ _ _ _ _ (Alike.refl adapter)
  | true =>
    simp only [Bool.not_true, Bool.false_eq_true, if_false, if_neg linked, if_true]
    exact EndAlike.refl _

theorem mapNamed_named_iff {given : Text} (named : entry.name = some given) (sourced : entry.source ≠ [])
    (linked : entry.copyMode ≠ "TRUE") (assigned : history ≠ []) :
    EndAlike Alike (outcome (mapNamed server csManager entry (getContentFromNode given) []) adapter)
      (outcome (mapNamed server csManager entry (getContentFromNode given) history) adapter) ↔
      adapter.HistoryAside server entry := by
  by_cases inPlace : entry.InPlace (getContentFromNode given)
  · rw [mapNamed_inPlace sourced inPlace, mapNamed_inPlace sourced inPlace]
    exact iff_of_true (EndAlike.refl _) (.inr (by rw [named]; exact .inl inPlace))
  rw [(mapNamed_elsewhere sourced inPlace linked).congr (mapNamed_elsewhere sourced inPlace linked)]
  cases there : adapter.space.hasNode (adapter.sourceNode entry) with
  | false => exact iff_of_true (EndAlike.refl _) (.inr (by rw [named]; exact .inr (.inl there)))
  | true =>
    rw [if_pos rfl, if_pos rfl]
    by_cases own : getContentFromNode given = [] ∨ getContentFromNode given = lastPart entry.source
    · refine iff_of_true ((linkVariable_own server adapter own).trans (linkVariable_own server adapter own).symm) (.inr ?_)
      rw [named]
      exact .inr (.inr (own.elim (.inl ·) fun same => .inr (.inl same)))
    · obtain ⟨filled, other⟩ := not_or.mp own
      have quiet : history.isEmpty = false := List.isEmpty_eq_false_iff.mpr assigned
      rw [(linkVariable_other server adapter filled other).congr (linkVariable_other server adapter filled other), quiet]
      refine (raise_alike_iff adapter [] [] (-1)).trans ?_
      simp [UaAdapter.HistoryAside, sourced, named, inPlace, there, filled, other]

private theorem slash_notMem_lastPart (path : Text) : '/' ∉ lastPart path := by
  unfold lastPart
  cases last : (parseVariablePath path "/").getLast? with
  | none => exact List.not_mem_nil
  | some token => exact (areTokens_parsed path token (List.mem_of_getLast? last)).2

private theorem not_inPlace_source : ¬ entry.InPlace entry.source := by
  rintro ⟨same, -⟩
  have lengths := congrArg List.length same
  simp at lengths
  omega

theorem mapNamed_unnamed_iff (unnamed : entry.name = none) (sourced : entry.source ≠ [])
    (linked : entry.copyMode ≠ "TRUE") (assigned : history ≠ []) :
    EndAlike Alike (outcome (mapNamed server csManager entry [] []) adapter)
      (outcome (mapNamed server csManager entry entry.source history) adapter) ↔
      adapter.HistoryAside server entry := by
  have second := @mapNamed_elsewhere server csManager adapter entry entry.source history sourced not_inPlace_source linked
  have quiet (other : lastPart entry.source ≠ entry.source) :
      EndAlike Alike (outcome (linkVariable server (adapter.sourceNode entry) entry.source entry.target entry.source
        (elementContent entry.unit) (elementContent entry.description) history) adapter) (.ok (), adapter) := by
    have linked := @linkVariable_other server adapter (adapter.sourceNode entry) entry.source entry.target entry.source
      (elementContent entry.unit) (elementContent entry.description) history sourced (Ne.symm other)
    rwa [List.isEmpty_eq_false_iff.mpr assigned] at linked
  by_cases inPlace : entry.InPlace []
  · have other : lastPart entry.source ≠ entry.source := by
      intro same
      apply slash_notMem_lastPart entry.source
      rw [same, ← inPlace.1]
      simp
    rw [mapNamed_inPlace sourced inPlace, (updateVariable_alike _ _ _ _ _ adapter).congr second]
    have meaning : adapter.HistoryAside server entry ↔ adapter.UpdatedAlready entry := by
      simp [UaAdapter.HistoryAside, sourced, unnamed, inPlace]
    rw [meaning]
    unfold UaAdapter.UpdatedAlready
    cases there : adapter.space.hasNode (adapter.sourceNode entry) with
    | true =>
      rw [if_pos rfl, EndAlike.congr (EndAlike.refl _) (quiet other)]
      cases adapter.updateTarget entry.source with
      | some rd => simpa using set_alike_iff adapter rd.nodeId _ _
      | none => simpa using raise_alike_iff adapter [] [] (-1)
    | false =>
      rw [if_neg Bool.false_ne_true]
      cases adapter.updateTarget entry.source with
      | some rd => simpa using set_raise_iff adapter rd.nodeId _ _
      | none => exact iff_of_true (EndAlike.refl _) (.inl rfl)
  · rw [(mapNamed_elsewhere sourced inPlace linked).congr second]
    cases there : adapter.space.hasNode (adapter.sourceNode entry) with
    | false => exact iff_of_true (EndAlike.refl _) (.inr (by rw [unnamed]; exact .inr ⟨inPlace, .inl there⟩))
    | true =>
      rw [if_pos rfl, if_pos rfl]
      by_cases same : lastPart entry.source = entry.source
      · refine iff_of_true ((linkVariable_own server adapter (.inl rfl)).trans
          (linkVariable_own server adapter (.inr same.symm)).symm) (.inr ?_)
        rw [unnamed]
        exact .inr ⟨inPlace, .inr (.inl same)⟩
      · rw [(linkVariable_own server adapter (.inl rfl)).congr (quiet same)]
        refine (linkOwn_alike_iff server adapter _ _ _ _ _).trans ?_
        simp [UaAdapter.HistoryAside, sourced, unnamed, inPlace, there, same]

theorem mapNamed_history (sourced : entry.source ≠ []) (deep : lastPart entry.source ≠ entry.source)
    (linked : entry.copyMode ≠ "TRUE") (assigned : history ≠ []) :
    Alike adapter (outcome (mapNamed server csManager entry entry.source history) adapter).2 := by
  have ways := @mapNamed_elsewhere server csManager adapter entry entry.source history sourced not_inPlace_source linked
  split at ways
  next =>
    have skipped := @linkVariable_other server adapter (adapter.sourceNode entry) entry.source entry.target entry.source
      (elementContent entry.unit) (elementContent entry.description) history sourced (Ne.symm deep)
    rw [List.isEmpty_eq_false_iff.mpr assigned] at skipped
    exact (ways.trans skipped).symm.states
  next => exact (ways.trans (raiseError_alike adapter [] [] (-1))).symm.states

end Ways

end Mapping

/-- Runs over two lists of entries end alike: they both succeed or both fail, with adapters
that differ in their histories, warnings and notes alone. -/
def SameMapping (server : UaServer) (csManager : ControlSystemPVManager) (start : UaAdapter)
    (first second : List ProcessVariableEntry) : Prop :=
  EndAlike Alike (outcome (explicitVarMapping server csManager first) start)
    (outcome (explicitVarMapping server csManager second) start)

/-- A history makes no difference for the mapping, whatever entries follow, just when it
makes none in the state its entry is reached in. An entry with a history and no name that
has a source below a folder only assigns its history. -/
theorem history_aside_iff (server : UaServer) (csManager : ControlSystemPVManager) (start : UaAdapter)
    (before : List ProcessVariableEntry) {entry : ProcessVariableEntry}
    (linked : entry.copyMode = [] ∨ entry.copyMode = "FALSE") (history : Text) :
    ((∀ after, SameMapping server csManager start (before ++ { entry with history := none } :: after)
        (before ++ { entry with history := some history } :: after)) ↔
      ∀ state, Reaches (mapProcessVariable server csManager) start before state →
        history = [] ∨ state.HistoryAside server entry) ∧
    (entry.name = none → entry.source ≠ [] → lastPart entry.source ≠ entry.source → history ≠ [] →
      ∀ state, Alike state
        (outcome (mapProcessVariable server csManager { entry with history := some history }) state).2) := by
  have uncopied : entry.copyMode ≠ "TRUE" := by
    rcases linked with mode | mode <;> rw [mode] <;> decide
  have round (state : UaAdapter) :
      EndAlike Alike (outcome (mapProcessVariable server csManager { entry with history := none }) state)
        (outcome (mapProcessVariable server csManager { entry with history := some history }) state) ↔
      history = [] ∨ state.HistoryAside server entry := by
    rw [(mapProcessVariable_alike server csManager _ state).congr (mapProcessVariable_alike server csManager _ state)]
    change EndAlike Alike (outcome (mapNamed server csManager entry (entry.mappedName []) []) state)
      (outcome (mapNamed server csManager entry (entry.mappedName history) history) state) ↔ _
    by_cases assigned : history = []
    · rw [assigned]
      exact iff_of_true (EndAlike.refl _) (.inl rfl)
    rw [or_iff_right assigned]
    by_cases sourced : entry.source = []
    · exact iff_of_true ((mapNamed_unsourced sourced).trans (mapNamed_unsourced sourced).symm) (.inl sourced)
    cases named : entry.name with
    | some given =>
      rw [entry.mappedName_of_some named, entry.mappedName_of_some named]
      exact mapNamed_named_iff named sourced uncopied assigned
    | none =>
      rw [entry.mappedName_nil named, entry.mappedName_of_none named linked sourced assigned]
      exact mapNamed_unnamed_iff named sourced uncopied assigned
  refine ⟨⟨fun same state reached => ?_, fun aside after => ?_⟩, fun unnamed sourced deep assigned state => ?_⟩
  · exact (round state).mp (endAlike_of_forM reached (same []))
  · exact endAlike_forM (mapProcessVariable_agrees server csManager) (fun state reached => (round state).mpr (aside state reached)) after
  · have ends := mapProcessVariable_alike server csManager { entry with history := some history } state
    change EndAlike Alike _ (outcome (mapNamed server csManager entry (entry.mappedName history) history) state) at ends
    rw [entry.mappedName_of_none unnamed linked sourced assigned] at ends
    have kept := @mapNamed_history server csManager state entry history sourced deep uncopied assigned
    exact IsTrans.trans _ _ _ kept ends.symm.states

def shownSpeed : ProcessVariableEntry where
  sourceName := some "control/drive/speed"
  destination := some { content := "shown" }
  name := some "speed"

def torqueUnit : ProcessVariableEntry := { sourceName := some "control/drive/torque", unit := some "Nm" }

theorem shownSpeed_aside :
    SameMapping unusedServer driveManager driveAdapter ([] ++ [{ shownSpeed with history := none }, torqueUnit])
      ([] ++ [{ shownSpeed with history := some "archive" }, torqueUnit]) :=
  (@history_aside_iff unusedServer driveManager driveAdapter [] shownSpeed (.inl rfl) "archive").1.mpr (fun _ _ =>
    .inr (.inr (.inr (.inr (.inr (.inl
      (by decide : getContentFromNode "speed" = lastPart "control/drive/speed"))))))) [torqueUnit]

/-- The unit of the speed is not set when the entry has a history as well. -/
theorem history_keeps_unit : ¬ ∀ (server : UaServer) (csManager : ControlSystemPVManager) (serverConfig : ServerConfig)
    (mapFile : MapFile) (before after : List ProcessVariableEntry) (entry : ProcessVariableEntry) (history : Text),
    entry.copyMode = [] ∨ entry.copyMode = "FALSE" →
    let start := mappedAdapter server csManager serverConfig "/" false mapFile
    let plain := (outcome (explicitVarMapping server csManager
      (before ++ { entry with history := none } :: after)) start).2
    let assigned := (outcome (explicitVarMapping server csManager
      (before ++ { entry with history := some history } :: after)) start).2
    assigned.variableVector.map (fun pv => (pv.ownNodeId, pv.engineeringUnit, pv.description)) =
        plain.variableVector.map (fun pv => (pv.ownNodeId, pv.engineeringUnit, pv.description)) ∧
      assigned.space.nodes.map (fun node => (node.nodeId, node.displayName)) =
        plain.space.nodes.map (fun node => (node.nodeId, node.displayName)) ∧
      assigned.space.references = plain.space.references := by
  intro same
  have units := (same unusedServer driveManager { rootFolder := "device" } {} [] []
    { sourceName := some "control/drive/speed", unit := some "rpm" } "archive" (.inl rfl)).1
  revert units
  decide +kernel

end OpcUaAdapter
