import OpcUaAdapter.Proofs.ErrorReports

/-! The mapping of a whole map file. While each entry that is reached fits, no step takes the
last element of an empty sequence or a length below zero, and each faulty entry is reported. -/

namespace OpcUaAdapter

open Effects Mapping

/-- What holds of each entry of the map file in the state in which the mapping comes to it. -/
structure EachEntry (server : UaServer) (csManager : ControlSystemPVManager) (fuel : Nat) (mapFile : MapFile)
    (start : UaAdapter) (folder : FolderEntry → UaAdapter → Prop) (processVariable : ProcessVariableEntry → UaAdapter → Prop)
    (additionalVariable : AdditionalVariableEntry → UaAdapter → Prop) : Prop where
  folders : Rounds (buildFolder server csManager fuel) folder start mapFile.folders
  processVariables : ∀ middle, outcome (buildFolderStructure server csManager fuel mapFile.folders) start = (.ok (), middle) →
    Rounds (mapProcessVariable server csManager) processVariable middle mapFile.processVariables
  additionalVariables : ∀ middle last,
    outcome (buildFolderStructure server csManager fuel mapFile.folders) start = (.ok (), middle) →
    outcome (explicitVarMapping server csManager mapFile.processVariables) middle = (.ok (), last) →
      Rounds (addAdditionalVariable server) additionalVariable last mapFile.additionalVariables

/-- Nothing without defined behaviour was done, and nothing is referred to from nowhere. -/
structure Faultless (adapter : UaAdapter) : Prop where
  known : SourcesKnown adapter.space
  none : accessFaults adapter = []

theorem Faultless.later {before after : UaAdapter} (faultless : Faultless before) (sources : KeepsSources before after)
    (same : SameView accessFaults before after) : Faultless after :=
  ⟨sources faultless.known, same.trans faultless.none⟩

section Steps

variable {server : UaServer} (law : ChecksNodes server) {csManager : ControlSystemPVManager}

include law

private theorem mappedAdapter_faultless (serverConfig : ServerConfig) (pvSeparator : Text) (mappingExceptions : Bool)
    (mapFile : MapFile) :
    Faultless (mappedAdapter server csManager serverConfig pvSeparator mappingExceptions mapFile) := by
  refine ⟨mappedAdapter_sources law csManager serverConfig pvSeparator mappingExceptions mapFile, ?_⟩
  exact (UaAdapter.foldl_grows server _ _).notes.faults

private theorem buildFolder_faultless (fuel : Nat) (entry : FolderEntry) (adapter : UaAdapter) (faultless : Faultless adapter)
    (fits : entry.Fits server adapter) : Faultless (outcome (buildFolder server csManager fuel entry) adapter).2 := by
  have := serverSteps_sources law
  have := linkSteps_sources law
  have sources : Keeps KeepsSources (buildFolder server csManager fuel entry) := buildFolder_keeps server csManager _ _
  exact faultless.later (sources adapter)
    (buildFolder_faults law.below csManager faultless.known fuel fits.placed fits.shown)

private theorem mapProcessVariable_faultless (entry : ProcessVariableEntry) (adapter : UaAdapter) (faultless : Faultless adapter)
    (fits : entry.Fits server csManager (entry.recorded adapter)) :
    Faultless (outcome (mapProcessVariable server csManager entry) adapter).2 := by
  have := serverSteps_sources law
  have sources : Keeps KeepsSources (mapProcessVariable server csManager entry) :=
    mapProcessVariable_keeps server csManager _
  refine faultless.later (sources adapter) ((mapProcessVariable_faults_iff server csManager entry adapter).mpr fun takes => ?_)
  exact fits.parts ((variableHistory_recorded entry).2.takesLastPart.mpr takes)

private theorem addAdditionalVariable_faultless (entry : AdditionalVariableEntry) (adapter : UaAdapter)
    (faultless : Faultless adapter) : Faultless (outcome (addAdditionalVariable server entry) adapter).2 := by
  have := serverSteps_sources law
  have sources : Keeps KeepsSources (addAdditionalVariable server entry) := addAdditionalVariable_keeps server _
  have same : Keeps (SameView accessFaults) (addAdditionalVariable server entry) := addAdditionalVariable_keeps server _
  exact faultless.later (sources adapter) (same adapter)

/-- The run lemma: the three loops of the mapping, one behind the other. -/
theorem applyMapping_faultless (fuel : Nat) (mapFile : MapFile) {start : UaAdapter} (begins : Faultless start)
    (fits : EachEntry server csManager fuel mapFile start (fun entry => entry.Fits server)
      (fun entry adapter => entry.Fits server csManager (entry.recorded adapter)) fun entry => entry.Fits server) :
    Faultless (outcome (applyMapping server csManager fuel mapFile) start).2 := by
  have folders : Faultless (outcome (buildFolderStructure server csManager fuel mapFile.folders) start).2 :=
    Rounds.invariant (buildFolder_faultless law fuel) begins fits.folders
  unfold applyMapping
  rw [outcome_bind]
  rcases built : outcome (buildFolderStructure server csManager fuel mapFile.folders) start with ⟨_ | _, middle⟩
  · rw [built] at folders
    exact folders
  rw [built] at folders
  have mapped : Faultless (outcome (explicitVarMapping server csManager mapFile.processVariables) middle).2 :=
    Rounds.invariant (mapProcessVariable_faultless law) folders (fits.processVariables middle built)
  dsimp only
  rw [outcome_bind]
  rcases ended : outcome (explicitVarMapping server csManager mapFile.processVariables) middle with ⟨_ | _, last⟩
  · rw [ended] at mapped
    exact mapped
  rw [ended] at mapped
  exact Rounds.invariant (fun entry adapter faultless _ => addAdditionalVariable_faultless law entry adapter faultless)
    mapped (fits.additionalVariables middle last built ended)

end Steps

/-- A server that also refuses references from nodes it does not have. -/
def checkingServer : UaServer where
  addsNode space node parent := !space.hasNode node.nodeId && space.hasNode parent
  addsReference space reference := space.hasNode reference.source

private theorem checkingServer_law : ChecksNodes checkingServer where
  below _ _ _ grants := by simpa [checkingServer] using grants
  sources _ _ grants := grants

def describedFolder : FolderEntry :=
  { destination := some "b", name := some "n", description := some "new" }

def unsourcedCopy : FolderEntry :=
  { sourceName := some "a/x", copy := some "true", destination := some "b", name := some "y" }

def renamedLink : ProcessVariableEntry :=
  { sourceName := some "b/w", destination := some ⟨"a", none⟩, name := some "z" }

def unnamedVariable : AdditionalVariableEntry := { destination := some "b", value := some "1" }

/-- A new folder, and then a faulty entry of each kind. -/
def faultyEntries : MapFile where
  folders := [describedFolder, unsourcedCopy]
  processVariables := [renamedLink]
  additionalVariables := [unnamedVariable]

private theorem single_round {α : Type} {done rest : List α} {value other : α} (split : [value] = done ++ other :: rest) :
    other = value := by
  have member : other ∈ [value] := split ▸ List.mem_append_right _ List.mem_cons_self
  exact List.mem_singleton.mp member

private theorem pair_round {α : Type} {done rest : List α} {first second other : α}
    (split : [first, second] = done ++ other :: rest) :
    done = [] ∧ other = first ∨ done = [first] ∧ other = second := by
  rcases done with _ | ⟨head, _ | ⟨next, done⟩⟩
  · simp_all
  · simp_all
  · simp_all

def faultyStart : UaAdapter := mappedAdapter checkingServer nestedFolder { rootFolder := "r" } "/" false faultyEntries

/-- The adapter when the second folder entry is reached, and when all of them are done. -/
def afterNewFolder : UaAdapter :=
  (outcome ([describedFolder].forM (buildFolder checkingServer nestedFolder 1)) faultyStart).2

def afterFolders : UaAdapter :=
  (outcome (buildFolderStructure checkingServer nestedFolder 1 faultyEntries.folders) faultyStart).2

end OpcUaAdapter
