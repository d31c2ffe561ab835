import OpcUaAdapter.Proofs.MappingComparison

/-! The update of a variable in its own place: the node it finds, and what becomes of the
units and descriptions. -/

namespace OpcUaAdapter

open Effects

def lastPart (path : Text) : Text := ((parseVariablePath path "/").getLast?).getD []

/-- The node that an entry for a variable in its own place finds for it, as the server is taken to
list the references of the folder. -/
def UaAdapter.updateTarget (adapter : UaAdapter) (sourceName : Text) : Option UaNode :=
  let count := sizeMinus sourceName.length ((lastPart sourceName).length + 1)
  let parentSourceFolderId : NodeId :=
    .string (adapter.serverConfig.rootFolder ++ '/' :: sourceName.take (count.getD sourceName.length))
  let references :=
    (adapter.space.browseForward parentSourceFolderId .hasComponent [.variable, .method] ++
      adapter.space.browseInverse parentSourceFolderId .hasComponent [.variable, .method]).take 20
  (references.filter fun rd => rd.displayName = lastPart sourceName).getLast?

namespace UaProcessVariable

/-- A variable with the unit and the description that are given for its node. -/
def relabel (nodeId : NodeId) (unit description : Text) (processVariable : UaProcessVariable) : UaProcessVariable :=
  if processVariable.ownNodeId = nodeId then
    { processVariable with
      engineeringUnit := if unit.isEmpty then processVariable.engineeringUnit else unit
      description := if description.isEmpty then processVariable.description else description }
  else processVariable

theorem relabel_eq_self_iff {nodeId : NodeId} {unit description : Text} {processVariable : UaProcessVariable} :
    processVariable.relabel nodeId unit description = processVariable ↔ (processVariable.ownNodeId = nodeId →
      (unit = [] ∨ processVariable.engineeringUnit = unit) ∧
        (description = [] ∨ processVariable.description = description)) := by
  obtain ⟨namePV, nameNew, base, own, engineeringUnit, text⟩ := processVariable
  unfold relabel
  dsimp only
  split
  next same =>
    cases unit <;> cases description <;> simp [same, eq_comm]
  next other => simp [other]

end UaProcessVariable

namespace Mapping

theorem outcome_setUnitAndDescription (nodeId : NodeId) (unit description : Text) (adapter : UaAdapter) :
    outcome (setUnitAndDescription nodeId unit description) adapter = (.ok (),
      { adapter with variableVector := adapter.variableVector.map (·.relabel nodeId unit description) }) := by
  have entered {changed : List UaProcessVariable}
      (same : changed = adapter.variableVector.map (·.relabel nodeId unit description)) :
      ((.ok (), { adapter with variableVector := changed }) : Except MappingError Unit × UaAdapter) = (.ok (),
        { adapter with variableVector := adapter.variableVector.map (·.relabel nodeId unit description) }) := by
    rw [same]
  unfold UaProcessVariable.relabel at entered ⊢
  cases unit with
  | nil =>
    cases description with
    | nil => exact entered (by simp)
    | cons => exact entered rfl
  | cons =>
    cases description with
    | nil => exact entered rfl
    | cons =>
      refine entered ?_
      rw [List.map_map]
      refine List.map_congr_left fun processVariable _ => ?_
      rw [Function.comp_apply]
      split
      · rfl
      · rfl

theorem note_alike (step : UndefinedStep) (condition : Bool) (adapter : UaAdapter) :
    ∃ after, outcome (when condition (note step)) adapter = (.ok (), after) ∧ Alike adapter after := by
  cases condition with
  | true => exact ⟨_, rfl, _, _, _, rfl⟩
  | false => exact ⟨_, rfl, Alike.refl _⟩

theorem lastToken_alike (path : Text) (adapter : UaAdapter) :
    ∃ after, outcome (lastToken path) adapter = (.ok (lastPart path), after) ∧ Alike adapter after := by
  obtain ⟨after, noted, alike⟩ := note_alike .emptyBack (parseVariablePath path "/").isEmpty adapter
  exact ⟨after, outcome_bind_ok noted _, alike⟩

/-- An update sets what is given on the node it finds, and raises an error where it finds none. -/
theorem updateVariable_alike (line : Nat) (sourceName name unit description : Text) (adapter : UaAdapter) :
    EndAlike Alike (outcome (updateVariable line sourceName name unit description) adapter)
      (outcome ((adapter.updateTarget sourceName).elim (raiseError [] []) fun rd =>
        setUnitAndDescription rd.nodeId unit description) adapter) := by
  obtain ⟨_, first, _, _, _, rfl⟩ := lastToken_alike sourceName adapter
  unfold updateVariable
  rw [outcome_bind_ok first]
  obtain ⟨_, second, histories, warnings, steps, rfl⟩ := note_alike .sizeUnderflow
    (sizeMinus sourceName.length ((lastPart sourceName).length + 1)).isNone (adapter.aside _ _ _)
  rw [outcome_bind_ok second, outcome_bind_ok (outcome_get _)]
  have alike : Alike (adapter.aside histories warnings steps) adapter := Std.Symm.symm _ _ ⟨_, _, _, rfl⟩
  dsimp only
  split
  next missing =>
    have missing : adapter.updateTarget sourceName = none := missing
    rw [missing]
    split
    · exact raiseError_agrees _ _ _ _ _ _ _ _ alike
    · exact raiseError_agrees _ _ _ _ _ _ _ _ alike
  next rd found =>
    have found : adapter.updateTarget sourceName = some rd := found
    rw [found]
    exact setUnitAndDescription_agrees _ _ _ _ _ alike

end Mapping

end OpcUaAdapter
