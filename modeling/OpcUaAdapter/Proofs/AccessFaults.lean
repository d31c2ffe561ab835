import OpcUaAdapter.Proofs.FolderNames
import OpcUaAdapter.Proofs.VariableUpdates

/-! The last element of an empty sequence and lengths below zero. Most steps of the mapping
never come near them; what does is the last part of a path that has none, and an error that
is raised without a message. -/

namespace OpcUaAdapter

open Effects

theorem SameNotes.faults {before after : UaAdapter} (same : SameNotes before after) :
    accessFaults after = accessFaults before := congrArg (List.filter _) same.undefinedSteps

instance : LocalSteps (SameView accessFaults) where
  aside same := same.faults
  writeDescription _ _ _ := rfl
  writeDisplayName _ _ _ := rfl

instance (server : UaServer) : ServerSteps server (SameView accessFaults) where
  addComponent _ _ _ := rfl
  createFolder adapter base folderName := (adapter.createFolder_grows server base folderName []).notes.faults
  enroll adapter path separator := (adapter.enrollFolderPathFromString_grows server path separator).notes.faults
  newProcessVariable adapter base oneProcessVariable namePV overwriteNodeString :=
    (adapter.newProcessVariable_grows server base oneProcessVariable namePV overwriteNodeString).notes.faults
  newAdditionalVariable adapter base name value description :=
    (adapter.newAdditionalVariable_grows server base name value description).notes.faults

instance : AdditionalSteps (SameView accessFaults) where
  enter _ _ := rfl

instance (server : UaServer) : LinkSteps server (SameView accessFaults) where
  addReference _ _ := rfl

instance : RootSteps (SameView accessFaults) where
  move _ _ := rfl

abbrev AddsFaults : UaAdapter → UaAdapter → Prop := Raises (· <+: ·) accessFaults

theorem AddsFaults.of_same {before after : UaAdapter} (same : SameView accessFaults before after) :
    AddsFaults before after := by
  rw [AddsFaults, Raises, same]

instance : LocalSteps AddsFaults where
  aside same := .of_same same.faults
  writeDescription _ _ _ := .of_same rfl
  writeDisplayName _ _ _ := .of_same rfl

instance : FaultSteps AddsFaults where
  fault adapter step := by
    rw [AddsFaults, Raises, accessFaults, accessFaults, List.filter_append]
    exact List.prefix_append _ _

instance (server : UaServer) : ServerSteps server AddsFaults where
  addComponent adapter source target := .of_same (@ServerSteps.addComponent server _ _ adapter source target)
  createFolder adapter base folderName := .of_same (ServerSteps.createFolder adapter base folderName)
  enroll adapter path separator := .of_same (ServerSteps.enroll adapter path separator)
  newProcessVariable adapter base oneProcessVariable namePV overwriteNodeString :=
    .of_same (ServerSteps.newProcessVariable adapter base oneProcessVariable namePV overwriteNodeString)
  newAdditionalVariable adapter base name value description :=
    .of_same (ServerSteps.newAdditionalVariable adapter base name value description)

theorem lastPart_shorter {path : Text} (slash : '/' ∈ path) : (lastPart path).length + 1 ≤ path.length := by
  have letters : (parseVariablePath path "/").flatten.length < path.length := by
    rw [flatten_parseVariablePath]
    exact List.length_filter_lt_length_iff_exists.mpr ⟨'/', slash, by decide⟩
  have part : (lastPart path).length ≤ (parseVariablePath path "/").flatten.length := by
    unfold lastPart
    cases last : (parseVariablePath path "/").getLast? with
    | none => exact Nat.zero_le _
    | some token => exact (List.sublist_flatten_of_mem (List.mem_of_getLast? last)).length_le
  omega

namespace Mapping

private theorem note_emptyBack_faults {condition : Bool} (noted : condition = true) (adapter : UaAdapter) :
    ¬ SameView accessFaults adapter (outcome (when condition (note .emptyBack)) adapter).2 := by
  rw [noted]
  intro same
  have length := congrArg List.length same
  change (accessFaults { adapter with undefinedSteps := adapter.undefinedSteps ++ [.emptyBack] }).length = _ at length
  rw [accessFaults, accessFaults, List.filter_append, List.length_append] at length
  exact absurd length (Nat.succ_ne_self _)

theorem fault_stays {α : Type} {condition : Bool} (noted : condition = true) {next : Unit → Mapping α}
    (kept : ∀ value, Keeps AddsFaults (next value)) (adapter : UaAdapter) :
    ¬ SameView accessFaults adapter (outcome (when condition (note .emptyBack) >>= next) adapter).2 :=
  raised_bind (when_keeps (note_keeps _) _) kept (note_emptyBack_faults noted adapter)

/-- An error without a second message takes the last letter of an empty one. -/
theorem raiseError_faults (errorMessage : Text) (line : Int) (adapter : UaAdapter) :
    ¬ SameView accessFaults adapter (outcome (raiseError errorMessage [] line) adapter).2 := by
  unfold raiseError
  refine fault_stays (Bool.or_true _) (fun _ => Keeps.read fun current => ?_) adapter
  split
  · exact Keeps.throw _
  · exact aside_keeps fun _ => ⟨rfl, rfl, rfl, rfl, rfl, rfl, List.prefix_append _ _, rfl⟩

/-- Taking the last part of a path, and going on with it. -/
theorem lastToken_bind {α : Type} (path : Text) (next : Text → Mapping α) :
    lastToken path >>= next =
      when (parseVariablePath path "/").isEmpty (note .emptyBack) >>= fun _ => next (lastPart path) := by
  unfold lastToken
  rw [bind_assoc]
  simp only [pure_bind]
  rfl

theorem lastToken_faults_iff {α : Type} {path : Text} {next : Text → Mapping α}
    (same : Keeps (SameView accessFaults) (next (lastPart path))) (adapter : UaAdapter) :
    SameView accessFaults adapter (outcome (lastToken path >>= next) adapter).2 ↔ parseVariablePath path "/" ≠ [] := by
  rw [lastToken_bind]
  constructor
  · intro unchanged empty
    exact fault_stays (List.isEmpty_iff.mpr empty) (fun _ => Keeps.raises same) adapter unchanged
  · intro filled
    exact Keeps.bind (unless_keeps (List.isEmpty_eq_false_iff.mpr filled) _) (fun _ => same) adapter

private theorem updateVariable_faults_iff (line : Nat) {sourceName : Text} (slash : '/' ∈ sourceName)
    (name unit description : Text) (adapter : UaAdapter) :
    SameView accessFaults adapter (outcome (updateVariable line sourceName name unit description) adapter).2 ↔
      parseVariablePath sourceName "/" ≠ [] := by
  unfold updateVariable
  refine lastToken_faults_iff ?_ adapter
  refine Keeps.bind (unless_keeps ?_ _) fun _ => ?_
  · rw [sizeMinus, if_pos (lastPart_shorter slash)]
    rfl
  apply Keeps.read
  intro current
  dsimp only
  split
  · exact Keeps.ite (report_keeps (by simp) (by simp) _) (report_keeps (by simp) (by simp) _)
  · exact setUnitAndDescription_keeps _ _ _

section Variables

variable (server : UaServer) (csManager : ControlSystemPVManager)

private theorem linkVariable_faults_iff (parentSourceId : NodeId) (sourceName destination name unit description history : Text)
    (adapter : UaAdapter) :
    SameView accessFaults adapter
        (outcome (linkVariable server parentSourceId sourceName destination name unit description history) adapter).2 ↔
      parseVariablePath sourceName "/" ≠ [] := by
  unfold linkVariable
  refine lastToken_faults_iff ?_ adapter
  refine Keeps.ite (when_keeps (report_keeps (by simp) (by simp) _) _) ?_
  refine Keeps.bind (enrollFolderPathFromString_keeps server _ _) fun base => ?_
  exact Keeps.bind (addComponent_keeps server _ _) fun _ => finishVariable_keeps _ _ _ _

end Variables

end Mapping

namespace ProcessVariableEntry

variable (entry : ProcessVariableEntry)

def finalName : Text := entry.mappedName (getAttributeValueFromNode entry.history)

def Updates : Prop := entry.target ++ '/' :: entry.finalName = entry.source ∧ entry.copyMode = "FALSE"

/-- The entry goes by the last part of its source's path. -/
def TakesLastPart (adapter : UaAdapter) : Prop :=
  entry.source ≠ [] ∧
    (entry.Updates ∨ adapter.space.hasNode (adapter.sourceNode entry) = true ∧ entry.copyMode ≠ "TRUE")

end ProcessVariableEntry

/-- Adapters with the same nodes, folders and root folder for which nothing different was noted. -/
theorem Alike.sourceNode {first second : UaAdapter} (alike : Alike first second) (entry : ProcessVariableEntry) :
    second.sourceNode entry = first.sourceNode entry ∧ second.space = first.space := by
  obtain ⟨histories, warnings, steps, rfl⟩ := alike
  exact ⟨rfl, rfl⟩

theorem Alike.takesLastPart {first second : UaAdapter} (alike : Alike first second) {entry : ProcessVariableEntry} :
    entry.TakesLastPart second ↔ entry.TakesLastPart first := by
  obtain ⟨node, space⟩ := alike.sourceNode entry
  rw [ProcessVariableEntry.TakesLastPart, ProcessVariableEntry.TakesLastPart, node, space]

namespace Mapping

variable (server : UaServer) (csManager : ControlSystemPVManager)

private theorem mapNamed_faults_iff (entry : ProcessVariableEntry) (history : Text) (adapter : UaAdapter) :
    SameView accessFaults adapter (outcome (mapNamed server csManager entry entry.finalName history) adapter).2 ↔
      (entry.TakesLastPart adapter → parseVariablePath entry.source "/" ≠ []) := by
  have reports (errors others : Text) (filled : errors ≠ [] ∧ others ≠ []) (condition : Prop) [Decidable condition] :
      SameView accessFaults adapter (outcome (if condition then raiseError errors "Skipping PV mapping." entry.line
        else raiseError others "Skipping PV mapping." entry.line) adapter).2 :=
    Keeps.ite (report_keeps filled.1 (by simp) _) (report_keeps filled.2 (by simp) _) adapter
  unfold mapNamed
  dsimp only
  split
  next empty =>
    exact iff_of_true (reports _ _ ⟨by simp, by simp⟩ _) fun takes => absurd (List.isEmpty_iff.mp empty) takes.1
  next sourced =>
  have sourced : entry.source ≠ [] := by simpa using sourced
  split
  next updates =>
    have updates : entry.Updates := by simpa [ProcessVariableEntry.Updates] using updates
    have slash : '/' ∈ entry.source := by
      rw [← updates.1]
      exact List.mem_append_right _ List.mem_cons_self
    rw [updateVariable_faults_iff _ slash]
    exact ⟨fun filled _ => filled, fun filled => filled ⟨sourced, .inl updates⟩⟩
  next other =>
  have other : ¬ entry.Updates := by simpa [ProcessVariableEntry.Updates] using other
  rw [outcome_bind_ok (outcome_get adapter)]
  split
  next missing =>
    refine iff_of_true (reports _ _ ⟨by simp, by simp⟩ _) fun takes => ?_
    rcases takes.2 with updates | ⟨there, -⟩
    · exact absurd updates other
    · rw [there] at missing
      cases missing
  next there =>
  have there : adapter.space.hasNode (adapter.sourceNode entry) = true := by simpa using there
  split
  next copies =>
    refine iff_of_true (copyVariable_keeps server csManager _ _ _ _ _ _ _ adapter) fun takes => ?_
    exact absurd copies (takes.2.resolve_left other).2
  next links =>
    rw [linkVariable_faults_iff]
    exact ⟨fun filled _ => filled, fun filled => filled ⟨sourced, .inr ⟨there, links⟩⟩⟩

/-- An entry for a process variable takes the last element of an empty list just when it
takes the last part of a source without parts. -/
theorem mapProcessVariable_faults_iff (entry : ProcessVariableEntry) (adapter : UaAdapter) :
    SameView accessFaults adapter (outcome (mapProcessVariable server csManager entry) adapter).2 ↔
      (entry.TakesLastPart adapter → parseVariablePath entry.source "/" ≠ []) := by
  obtain ⟨after, noted, alike⟩ := addVariableHistory_alike entry entry.source entry.copyMode
    (getAttributeValueFromNode entry.history) adapter
  have kept : Keeps (SameView accessFaults) (when (!(getAttributeValueFromNode entry.history).isEmpty)
      (addVariableHistory entry entry.source entry.copyMode (getAttributeValueFromNode entry.history))) :=
    when_keeps (addVariableHistory_keeps _ _ _ _) _
  have same := kept adapter
  rw [noted] at same
  rw [mapProcessVariable_eq, outcome_bind_ok noted, ← alike.takesLastPart, SameView, ← same]
  exact mapNamed_faults_iff server csManager entry _ after

end Mapping

end OpcUaAdapter
