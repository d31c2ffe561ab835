import OpcUaAdapter.Proofs.FolderFaults

/-! The errors of faulty entries. What is wrong with an entry is said in terms of what it asks
for and what is there; a faulty entry ends in a report or in an exception, as long as the
checks of the mapping see what is wrong. -/

namespace OpcUaAdapter

open Effects

/-- The warnings are only added to, and errors are still raised in the same way. -/
def KeepsWarnings (before after : UaAdapter) : Prop :=
  after.mappingExceptions = before.mappingExceptions ∧ before.warnings <+: after.warnings

theorem SameNotes.warned {before after : UaAdapter} (same : SameNotes before after) : KeepsWarnings before after :=
  ⟨same.mappingExceptions, same.warnings ▸ List.prefix_rfl⟩

instance : LocalSteps KeepsWarnings where
  refl _ := ⟨rfl, List.prefix_rfl⟩
  trans _ _ _ first rest := ⟨rest.1.trans first.1, first.2.trans rest.2⟩
  aside same := ⟨same.exceptions, same.warnings⟩
  writeDescription _ _ _ := ⟨rfl, List.prefix_rfl⟩
  writeDisplayName _ _ _ := ⟨rfl, List.prefix_rfl⟩

instance : FaultSteps KeepsWarnings where
  fault _ _ := ⟨rfl, List.prefix_rfl⟩

instance (server : UaServer) : ServerSteps server KeepsWarnings where
  addComponent _ _ _ := ⟨rfl, List.prefix_rfl⟩
  createFolder adapter base folderName := (adapter.createFolder_grows server base folderName []).notes.warned
  enroll adapter path separator := (adapter.enrollFolderPathFromString_grows server path separator).notes.warned
  newProcessVariable adapter base oneProcessVariable namePV overwriteNodeString :=
    (adapter.newProcessVariable_grows server base oneProcessVariable namePV overwriteNodeString).notes.warned
  newAdditionalVariable adapter base name value description :=
    (adapter.newAdditionalVariable_grows server base name value description).notes.warned

/-- The step throws an error of its own, or warns of one where exceptions are off. -/
def Reports {α : Type} (effect : Mapping α) (adapter : UaAdapter) : Prop :=
  (adapter.mappingExceptions = true ∧ ∃ message, (outcome effect adapter).1 = .error (.runtimeError message)) ∨
    (adapter.mappingExceptions = false ∧ adapter.warnings.length < (outcome effect adapter).2.warnings.length)

namespace Mapping

private theorem raiseError_reports (errorMessage consequenceMessage : Text) (line : Int) (adapter : UaAdapter) :
    Reports (raiseError errorMessage consequenceMessage line) adapter := by
  obtain ⟨noted, first, alike⟩ : ∃ noted, outcome (when (errorMessage.isEmpty || consequenceMessage.isEmpty)
      (note .emptyBack)) adapter = (.ok (), noted) ∧ SameView (fun state : UaAdapter =>
        (state.mappingExceptions, state.warnings)) adapter noted := by
    cases errorMessage.isEmpty || consequenceMessage.isEmpty with
    | true => exact ⟨_, rfl, rfl⟩
    | false => exact ⟨_, rfl, rfl⟩
  obtain ⟨exceptions, warnings⟩ := Prod.mk.inj alike
  rw [Reports]
  unfold raiseError
  dsimp only
  rw [outcome_bind_ok first, outcome_bind_ok (outcome_get noted), exceptions]
  cases adapter.mappingExceptions with
  | true => exact .inl ⟨rfl, _, rfl⟩
  | false =>
    refine .inr ⟨rfl, ?_⟩
    rw [if_neg Bool.false_ne_true, outcome_modify, warnings, List.length_append]
    exact Nat.lt_succ_self _

/-- What comes before a report and goes well takes nothing from it. -/
theorem Reports.after {α β : Type} {effect : Mapping α} {next : α → Mapping β} {adapter middle : UaAdapter} {value : α}
    (reached : outcome effect adapter = (.ok value, middle)) (kept : Keeps KeepsWarnings effect)
    (reports : Reports (next value) middle) : Reports (effect >>= next) adapter := by
  have same := kept adapter
  rw [reached] at same
  obtain ⟨exceptions, warnings⟩ := same
  rw [Reports, outcome_bind_ok reached, ← exceptions]
  refine reports.imp id fun warned => ⟨warned.1, ?_⟩
  exact Nat.lt_of_le_of_lt warnings.length_le warned.2

theorem Reports.read {β : Type} {next : UaAdapter → Mapping β} {adapter : UaAdapter}
    (reports : Reports (next adapter) adapter) : Reports (MonadState.get >>= next) adapter :=
  Reports.after (outcome_get adapter) Keeps.get reports

theorem Reports.ite {condition : Prop} [Decidable condition] {first second : Mapping Unit} {adapter : UaAdapter}
    (here : condition → Reports first adapter) (there : ¬ condition → Reports second adapter) :
    Reports (if condition then first else second) adapter := by
  split
  next holds => exact here holds
  next fails => exact there fails

end Mapping

namespace FolderEntry

variable (entry : FolderEntry)

def source : Text := getAttributeValueFromNode entry.sourceName

def copyMode : Text := toupper (getAttributeValueFromNode entry.copy)

def base : Text := elementContent entry.destination

def folder : Text := elementContent entry.name

/-- The path an entry asks for, below the root folder. -/
def path : Text := if entry.base.isEmpty then entry.folder else entry.base ++ '/' :: entry.folder

private theorem path_ne_nil (named : entry.folder ≠ []) : entry.path ≠ [] := by
  unfold path
  split
  · exact named
  · simp

def targetNode (adapter : UaAdapter) : NodeId := .string (rootFolderOf adapter ++ '/' :: entry.path ++ "Dir")

theorem targetNode_eq (adapter : UaAdapter) :
    (if entry.base.isEmpty then NodeId.string (adapter.serverConfig.rootFolder ++ '/' :: entry.folder ++ "Dir")
      else .string (adapter.serverConfig.rootFolder ++ '/' :: entry.base ++ '/' :: entry.folder ++ "Dir")) =
        entry.targetNode adapter := by
  unfold targetNode path rootFolderOf
  split
  · rfl
  · simp

/-- The adapter once the history of the entry is assigned. -/
def recorded (adapter : UaAdapter) : UaAdapter := (outcome (Mapping.folderHistory entry) adapter).2

/-- The folder of the entry as it is made in its destination, null if it is not. -/
def madeFolder (server : UaServer) (adapter : UaAdapter) : NodeId :=
  let placed := Mapping.enrolledDestination server adapter entry.base
  (placed.2.createFolder server placed.1 entry.folder).1

def Enrolled (server : UaServer) (adapter : UaAdapter) : Prop :=
  (adapter.enrollFolderPathFromString server (entry.base ++ "/replacePart") "/").1.isNull = false

/-- The source is a folder elsewhere. -/
def SourceThere (server : UaServer) (adapter : UaAdapter) : Prop :=
  entry.source ≠ entry.path ∧ (Mapping.enrolledDestination server adapter entry.base).2.space.isFolder
    (.string (rootFolderOf adapter ++ '/' :: entry.source ++ "Dir")) = true

/-- What is wrong with a folder entry, for the adapter its folder is placed in. -/
inductive Fault (server : UaServer) (adapter : UaAdapter) : Prop
  | emptyAttribute (given : some [] ∈ [entry.sourceName, entry.copy, entry.history])
  | unreadableCopy (unreadable : entry.copyMode ∉ [[], "TRUE", "FALSE"])
  | emptyName (given : entry.name.isSome = true) (unnamed : entry.folder = [])
  | misplacedHistory (misplaced : entry.HistoryMisplaced)
  | nothingGiven (unnamed : entry.folder = []) (unrecorded : getAttributeValueFromNode entry.history = [])
  | sourceOmitted (named : entry.folder ≠ []) (copies : entry.copyMode ≠ []) (unsourced : entry.source = [])
  | targetTaken (named : entry.folder ≠ []) (taken : adapter.space.hasNode (entry.targetNode adapter) = true)
      (more : entry.source ≠ [] ∨ elementContent entry.description = [])
  | sourceIsTarget (named : entry.folder ≠ []) (same : entry.source = entry.path)
  | sourceMissing (named : entry.folder ≠ []) (sourced : entry.source ≠ [])
      (missing : (Mapping.enrolledDestination server adapter entry.base).2.space.isFolder
        (.string (rootFolderOf adapter ++ '/' :: entry.source ++ "Dir")) = false)
  | nowhereToPlace (named : entry.folder ≠ []) (free : adapter.space.hasNode (entry.targetNode adapter) = false)
      (missing : ¬ entry.Enrolled server adapter)
  | notMade (named : entry.folder ≠ []) (free : adapter.space.hasNode (entry.targetNode adapter) = false)
      (unmade : (entry.madeFolder server adapter).isNull = true)

/-- What the mapping takes for granted of a folder entry. -/
structure Fits (server : UaServer) (adapter : UaAdapter) : Prop where
  filled : some [] ∉ [entry.sourceName, entry.copy, entry.history]
  readable : entry.copyMode ∈ ([[], "TRUE", "FALSE"] : List Text)
  named : getAttributeValueFromNode entry.history ≠ [] → entry.name.isSome = true → entry.folder ≠ []
  placed : ¬ entry.HistoryMisplaced
  shown : Mapping.CopiesShown server entry adapter
  /-- A copy without a source is not used to describe a folder that is there. -/
  plain : entry.copyMode ≠ [] → entry.source = [] →
    (entry.recorded adapter).space.hasNode (entry.targetNode (entry.recorded adapter)) = true →
      elementContent entry.description = []
  /-- A folder that is to be made can be made, in the destination the entry gives. -/
  makes : entry.folder ≠ [] → (entry.recorded adapter).space.hasNode (entry.targetNode (entry.recorded adapter)) = false →
    (entry.copyMode ≠ [] → entry.source ≠ []) → (entry.source ≠ [] → entry.SourceThere server (entry.recorded adapter)) →
      entry.Enrolled server (entry.recorded adapter) ∧ (entry.madeFolder server (entry.recorded adapter)).isNull = false

end FolderEntry

namespace Mapping

variable {server : UaServer} (csManager : ControlSystemPVManager) {adapter : UaAdapter}

/-- A history that is not misplaced is assigned. -/
theorem folderHistory_recorded {entry : FolderEntry} (placed : ¬ entry.HistoryMisplaced) :
    outcome (folderHistory entry) adapter = (.ok (), entry.recorded adapter) := by
  suffices assigned : (outcome (folderHistory entry) adapter).1 = .ok () from Prod.ext assigned rfl
  unfold folderHistory
  cases given : (getAttributeValueFromNode entry.history).isEmpty with
  | true => rfl
  | false =>
    have history : getAttributeValueFromNode entry.history ≠ [] := List.isEmpty_eq_false_iff.mp given
    have sourced : (getAttributeValueFromNode entry.sourceName).isEmpty = false :=
      List.isEmpty_eq_false_iff.mpr fun unsourced => placed ⟨history, .inl unsourced⟩
    have unraised (effect : Mapping Unit) : outcome (when (getAttributeValueFromNode entry.sourceName).isEmpty effect)
        adapter = (.ok (), adapter) := by
      rw [sourced]
      rfl
    have chosen (effect : Mapping Unit) : when (!false) effect = effect := rfl
    rw [chosen, addFolderHistory, outcome_bind_ok (unraised _), outcome_bind_ok (outcome_get adapter)]
    dsimp only
    split
    next =>
      split
      · rfl
      · rfl
    next unnamed =>
      split
      next => rfl
      next copies =>
        refine absurd ⟨history, .inr ⟨by simpa using unnamed, ?_⟩⟩ placed
        simpa using copies

private theorem mapSourceFolder_reports (fuel : Nat) (entry : FolderEntry) (base : NodeId) (description : Text)
    (fault : entry.source = entry.path ∨
      adapter.space.isFolder (.string (rootFolderOf adapter ++ '/' :: entry.source ++ "Dir")) = false) :
    Reports (mapSourceFolder server csManager fuel entry base entry.source entry.copyMode entry.base entry.folder
      description) adapter := by
  unfold mapSourceFolder
  refine Reports.ite (fun _ => raiseError_reports _ _ _ _) fun elsewhere => Reports.read (Reports.read ?_)
  refine Reports.ite (fun _ => raiseError_reports _ _ _ _) fun there => ?_
  rcases fault with same | missing
  · refine absurd ?_ elsewhere
    rw [same, FolderEntry.path]
    split
    next root => simp [root]
    next nested => simp [nested]
  · rw [Bool.not_eq_true, Bool.not_eq_false'] at there
    exact absurd (there.symm.trans missing) Bool.true_eq_false_eq_False

theorem placeFolder_reports (fuel : Nat) {entry : FolderEntry} (fits : entry.Fits server adapter)
    (named : entry.folder ≠ []) (fault : entry.Fault server (entry.recorded adapter)) :
    Reports (placeFolder server csManager fuel entry entry.source entry.copyMode entry.base entry.folder
      (elementContent entry.description)) (entry.recorded adapter) := by
  unfold placeFolder
  refine Reports.read ?_
  dsimp only
  rw [entry.targetNode_eq]
  refine Reports.ite (fun taken => Reports.ite (fun described => ?_) fun _ => raiseError_reports _ _ _ _) fun free => ?_
  · obtain ⟨unsourced, described⟩ : entry.source = [] ∧ elementContent entry.description ≠ [] := by
      simpa using described
    cases fault with
    | emptyAttribute given => exact absurd given fits.filled
    | unreadableCopy unreadable => exact absurd fits.readable unreadable
    | emptyName _ unnamed => exact absurd unnamed named
    | misplacedHistory misplaced => exact absurd misplaced fits.placed
    | nothingGiven unnamed _ => exact absurd unnamed named
    | sourceOmitted _ copies _ => exact absurd (fits.plain copies unsourced taken) described
    | targetTaken _ _ more => exact absurd (more.resolve_left (not_not_intro unsourced)) described
    | sourceIsTarget _ same => exact absurd (same.symm.trans unsourced) (entry.path_ne_nil named)
    | sourceMissing _ sourced _ => exact absurd unsourced sourced
    | nowhereToPlace _ free _ => exact absurd (taken.symm.trans free) Bool.true_eq_false_eq_False
    | notMade _ free _ => exact absurd (taken.symm.trans free) Bool.true_eq_false_eq_False
  refine Reports.ite (fun _ => raiseError_reports _ _ _ _) fun given => ?_
  have free : (entry.recorded adapter).space.hasNode (entry.targetNode (entry.recorded adapter)) = false := by
    simpa using free
  have sourceGiven : entry.copyMode ≠ [] → entry.source ≠ [] := by
    simpa using given
  -- a folder that comes to be made is made, so what is wrong now is wrong with the source
  obtain ⟨sourced, elsewhere⟩ : entry.source ≠ [] ∧ ¬ entry.SourceThere server (entry.recorded adapter) := by
    have sourceWrong (unmade : ¬ (entry.Enrolled server (entry.recorded adapter) ∧
        (entry.madeFolder server (entry.recorded adapter)).isNull = false)) :
        entry.source ≠ [] ∧ ¬ entry.SourceThere server (entry.recorded adapter) := by
      refine Classical.not_imp.mp fun there => ?_
      exact unmade (fits.makes named free sourceGiven there)
    cases fault with
    | emptyAttribute given => exact absurd given fits.filled
    | unreadableCopy unreadable => exact absurd fits.readable unreadable
    | emptyName _ unnamed => exact absurd unnamed named
    | misplacedHistory misplaced => exact absurd misplaced fits.placed
    | nothingGiven unnamed _ => exact absurd unnamed named
    | sourceOmitted _ copies unsourced => exact absurd unsourced (sourceGiven copies)
    | targetTaken _ taken _ => exact absurd (taken.symm.trans free) Bool.true_eq_false_eq_False
    | sourceIsTarget _ same => exact ⟨same.symm ▸ entry.path_ne_nil named, fun there => there.1 same⟩
    | sourceMissing _ sourced missing =>
      exact ⟨sourced, fun there => absurd (there.2.symm.trans missing) Bool.true_eq_false_eq_False⟩
    | nowhereToPlace _ _ missing => exact sourceWrong fun made => missing made.1
    | notMade _ _ unmade => exact sourceWrong fun made => absurd (unmade.symm.trans made.2) Bool.true_eq_false_eq_False
  refine Reports.after (outcome_enrollDestination entry.base) (enrollDestination_keeps server _) ?_
  rw [List.isEmpty_eq_false_iff.mpr sourced, if_pos (by rfl)]
  refine mapSourceFolder_reports csManager fuel entry _ _ ?_
  rw [enrolledDestination_root]
  refine or_iff_not_imp_left.mpr fun other => ?_
  rw [← Bool.not_eq_true]
  exact fun folder => elsewhere ⟨other, folder⟩

/-- A faulty folder entry ends in a report or an exception, where the mapping sees what is wrong. -/
theorem buildFolder_reports (fuel : Nat) {entry : FolderEntry} (fits : entry.Fits server adapter)
    (fault : entry.Fault server (entry.recorded adapter)) : Reports (buildFolder server csManager fuel entry) adapter := by
  rw [buildFolder_eq]
  refine Reports.after (folderHistory_recorded fits.placed) (when_keeps (addFolderHistory_keeps _ _ _ _ _ _) _) ?_
  refine Reports.ite (fun unnamed => ?_) fun named => ?_
  · have unnamed : entry.folder = [] := List.isEmpty_iff.mp unnamed
    have unrecorded : getAttributeValueFromNode entry.history = [] := by
      cases fault with
      | emptyAttribute given => exact absurd given fits.filled
      | unreadableCopy unreadable => exact absurd fits.readable unreadable
      | emptyName given => exact not_not.mp fun recorded => fits.named recorded given unnamed
      | misplacedHistory misplaced => exact absurd misplaced fits.placed
      | nothingGiven _ unrecorded => exact unrecorded
      | sourceOmitted named => exact absurd unnamed named
      | targetTaken named => exact absurd unnamed named
      | sourceIsTarget named => exact absurd unnamed named
      | sourceMissing named => exact absurd unnamed named
      | nowhereToPlace named => exact absurd unnamed named
      | notMade named => exact absurd unnamed named
    rw [unrecorded]
    exact raiseError_reports _ _ _ _
  · exact placeFolder_reports csManager fuel fits (fun empty => named (List.isEmpty_iff.mpr empty)) fault

end Mapping

namespace ProcessVariableEntry

variable (entry : ProcessVariableEntry)

def unrollPath : Text := getAttributeValueFromNode (entry.destination.bind (·.unrollPath))

def copiedName : Text := if entry.finalName.isEmpty then entry.source else entry.finalName

def variableHistory : Mapping Unit :=
  Mapping.when (!(getAttributeValueFromNode entry.history).isEmpty)
    (Mapping.addVariableHistory entry entry.source entry.copyMode (getAttributeValueFromNode entry.history))

/-- The adapter once the history of the entry is assigned. -/
def recorded (adapter : UaAdapter) : UaAdapter := (outcome entry.variableHistory adapter).2

/-- The source is there and not changed in its own place, but copied or linked. -/
def TakesSource (adapter : UaAdapter) : Prop :=
  entry.source ≠ [] ∧ ¬ entry.Updates ∧ adapter.space.hasNode (adapter.sourceNode entry) = true

/-- The text of the name element is another than the last part of the source. -/
def Renames : Prop := elementContent entry.name ≠ [] ∧ elementContent entry.name ≠ lastPart entry.source

/-- The folder for a link, and the adapter once it is there. -/
def linkFolder (server : UaServer) (adapter : UaAdapter) : NodeId × UaAdapter :=
  adapter.enrollFolderPathFromString server (entry.target ++ "/removedpart") "/"

def Linked (server : UaServer) (adapter : UaAdapter) : Prop :=
  let reference : UaReference := ⟨(entry.linkFolder server adapter).1, .hasComponent, adapter.sourceNode entry⟩
  reference ∈ ((entry.linkFolder server adapter).2.space.addReference server reference).references

/-- What is wrong with an entry for a process variable. -/
inductive Fault (server : UaServer) (csManager : ControlSystemPVManager) (adapter : UaAdapter) : Prop
  | emptyAttribute (given : some [] ∈ [entry.sourceName, entry.copy, entry.history, entry.destination.bind (·.unrollPath)])
  | unreadableCopy (unreadable : entry.copyMode ∉ [[], "TRUE", "FALSE"])
  | emptyName (given : entry.name.isSome = true) (unnamed : elementContent entry.name = [])
  | sourceOmitted (unsourced : entry.source = [])
  | sourceMissing (missing : entry.Updates ∧ adapter.updateTarget entry.source = none ∨
      ¬ entry.Updates ∧ adapter.space.hasNode (adapter.sourceNode entry) = false)
  | nothingUpdated (updates : entry.Updates) (rd : UaNode) (found : adapter.updateTarget entry.source = some rd)
      (strange : ∀ processVariable ∈ adapter.variableVector, processVariable.ownNodeId ≠ rd.nodeId)
  | sourceUnknown (takes : entry.TakesSource adapter) (copies : entry.copyMode = "TRUE")
      (unknown : csManager.getProcessVariable entry.source = none)
  | sourceIsTarget (takes : entry.TakesSource adapter) (copies : entry.copyMode = "TRUE")
      (same : entry.source = entry.target ++ '/' :: entry.finalName)
  | renamed (takes : entry.TakesSource adapter) (links : entry.copyMode ≠ "TRUE") (renames : entry.Renames)
  | nowhereToCopy (takes : entry.TakesSource adapter) (copies : entry.copyMode = "TRUE")
      (missing : ∃ base after, outcome (Mapping.variableDestination server entry.target entry.unrollPath) adapter =
        (.ok base, after) ∧ base.isNull = true)
  | nowhereToLink (takes : entry.TakesSource adapter) (links : entry.copyMode ≠ "TRUE")
      (same : entry.finalName = [] ∨ entry.finalName = lastPart entry.source)
      (missing : (entry.linkFolder server adapter).1.isNull = true)
  | notLinked (takes : entry.TakesSource adapter) (links : entry.copyMode ≠ "TRUE")
      (same : entry.finalName = [] ∨ entry.finalName = lastPart entry.source)
      (refused : ¬ entry.Linked server adapter)
  | nameTaken (takes : entry.TakesSource adapter) (copies : entry.copyMode = "TRUE")
      (taken : ∃ base after, outcome (Mapping.variableDestination server entry.target entry.unrollPath) adapter =
        (.ok base, after) ∧ after.space.hasNode (.string (base.baseName ++ '/' :: entry.copiedName)) = true)

/-- What the mapping takes for granted of an entry for a process variable. -/
structure Fits (server : UaServer) (csManager : ControlSystemPVManager) (adapter : UaAdapter) : Prop where
  filled : some [] ∉ [entry.copy, entry.history, entry.destination.bind (·.unrollPath)]
  readable : entry.copyMode ∈ ([[], "TRUE", "FALSE"] : List Text)
  named : entry.name.isSome = true → elementContent entry.name ≠ []
  parts : entry.TakesLastPart adapter → parseVariablePath entry.source "/" ≠ []
  /-- The node that is copied is one of a variable the manager knows. -/
  known : entry.TakesSource adapter → entry.copyMode = "TRUE" → entry.source ≠ entry.target ++ '/' :: entry.finalName →
    (∃ base after, outcome (Mapping.variableDestination server entry.target entry.unrollPath) adapter = (.ok base, after) ∧
      base.isNull = false) → (csManager.getProcessVariable entry.source).isSome = true
  /-- What is updated is one of the adapter's variables. -/
  updated : entry.Updates → ∀ rd, adapter.updateTarget entry.source = some rd →
    ∃ processVariable ∈ adapter.variableVector, processVariable.ownNodeId = rd.nodeId
  /-- An entry with a history does not ask for another name without a copy. -/
  renamed : entry.TakesSource adapter → entry.copyMode ≠ "TRUE" → entry.Renames →
    getAttributeValueFromNode entry.history = []
  /-- The folder for a link can be made, and the link be added. -/
  linked : entry.TakesSource adapter → entry.copyMode ≠ "TRUE" →
    entry.finalName = [] ∨ entry.finalName = lastPart entry.source →
    (entry.linkFolder server adapter).1.isNull = false ∧ entry.Linked server adapter

private theorem finalName_eq (unrecorded : getAttributeValueFromNode entry.history = []) :
    entry.finalName = elementContent entry.name := by
  unfold finalName mappedName elementContent
  rw [unrecorded]
  rfl

end ProcessVariableEntry

namespace Mapping

variable {server : UaServer} (law : AddsBelow server) {csManager : ControlSystemPVManager} {adapter : UaAdapter}

theorem variableHistory_recorded (entry : ProcessVariableEntry) :
    outcome entry.variableHistory adapter = (.ok (), entry.recorded adapter) ∧ Alike adapter (entry.recorded adapter) := by
  obtain ⟨after, noted, alike⟩ := addVariableHistory_alike entry entry.source entry.copyMode
    (getAttributeValueFromNode entry.history) adapter
  have same : entry.recorded adapter = after := congrArg Prod.snd noted
  rw [same]
  exact ⟨noted, alike⟩

omit law in
theorem Reports.congr {first second : Mapping Unit} (same : outcome first adapter = outcome second adapter)
    (reports : Reports second adapter) : Reports first adapter := by
  rw [Reports, same]
  exact reports

private theorem updateVariable_reports (line : Nat) {sourceName : Text} (name unit description : Text)
    (missing : adapter.updateTarget sourceName = none) :
    Reports (updateVariable line sourceName name unit description) adapter := by
  obtain ⟨_, first, histories, warnings, steps, rfl⟩ := lastToken_alike sourceName adapter
  refine Reports.after first (lastToken_keeps _) ?_
  obtain ⟨_, second, histories, warnings, steps, rfl⟩ := note_alike .sizeUnderflow
    (sizeMinus sourceName.length ((lastPart sourceName).length + 1)).isNone (adapter.aside histories warnings steps)
  refine Reports.after second (when_keeps (note_keeps _) _) (Reports.read ?_)
  dsimp only
  split
  next => exact Reports.ite (fun _ => raiseError_reports _ _ _ _) fun _ => raiseError_reports _ _ _ _
  next rd found =>
    have found : adapter.updateTarget sourceName = some rd := found
    rw [found] at missing
    cases missing

omit law in
private theorem variableDestination_found (destination unrollPath : Text) (adapter : UaAdapter) :
    ∃ base after, outcome (variableDestination server destination unrollPath) adapter = (.ok base, after) := by
  unfold variableDestination
  split
  next => exact ⟨_, _, outcome_bind_ok (outcome_get adapter) _⟩
  next =>
  split
  next => exact ⟨_, _, rfl⟩
  next =>
  split
  next =>
    rw [outcome_bind_ok (outcome_get adapter)]
    dsimp only
    split
    · exact ⟨_, _, rfl⟩
    · exact ⟨_, _, rfl⟩
  next => exact ⟨_, _, rfl⟩

include law

theorem newProcessVariable_taken {base : NodeId} {nameNew : Text} (named : nameNew ≠ [])
    (taken : adapter.space.hasNode (.string (base.baseName ++ '/' :: nameNew)) = true)
    (oneProcessVariable : ProcessVariable) (namePV : Text) :
    (adapter.newProcessVariable server base oneProcessVariable namePV nameNew).1.ownNodeId.isNull = true := by
  have refused {node : UaNode} (used : adapter.space.hasNode node.nodeId = true) (parent : NodeId)
      (referenceType : ReferenceType) (typeDefinition : Option NodeId) :
      (adapter.addNode server node parent referenceType typeDefinition).1 = .null := by
    unfold UaAdapter.addNode AddressSpace.addNode
    split
    next grants =>
      rw [(law _ _ _ grants).1] at used
      cases used
    next => rfl
  have name : (if nameNew.isEmpty then namePV else nameNew) = nameNew :=
    if_neg fun empty => named (List.isEmpty_iff.mp empty)
  simp only [UaAdapter.newProcessVariable, name]
  split
  next => rfl
  split
  next =>
    rw [UaAdapter.mapVoidInput, refused taken]
    rfl
  next =>
    simp only [UaAdapter.mapVariable]
    split
    next => rfl
    next =>
      rw [refused taken]
      rfl

private theorem copyVariable_reports (line : Nat) {sourceName : Text} (sourced : sourceName ≠ [])
    (destination unrollPath name unit description : Text)
    (known : sourceName ≠ destination ++ '/' :: name →
      (∃ base after, outcome (variableDestination server destination unrollPath) adapter = (.ok base, after) ∧
        base.isNull = false) → (csManager.getProcessVariable sourceName).isSome = true)
    (fault : sourceName = destination ++ '/' :: name ∨
      ∃ base after, outcome (variableDestination server destination unrollPath) adapter = (.ok base, after) ∧
        (base.isNull = true ∨ after.space.hasNode
          (.string (base.baseName ++ '/' :: if name.isEmpty then sourceName else name)) = true)) :
    Reports (copyVariable server csManager line sourceName destination unrollPath name unit description) adapter := by
  unfold copyVariable
  refine Reports.ite (fun _ => raiseError_reports _ _ _ _) fun elsewhere => ?_
  obtain ⟨base, after, found, fault⟩ := fault.resolve_left elsewhere
  refine Reports.after found (variableDestination_keeps server _ _) ?_
  refine Reports.ite (fun _ => raiseError_reports _ _ _ _) fun there => ?_
  have taken := fault.resolve_left there
  obtain ⟨oneProcessVariable, knows⟩ := Option.isSome_iff_exists.mp
    (known elsewhere ⟨base, after, found, by simpa using there⟩)
  have named : (if name.isEmpty then sourceName else name) ≠ [] := by
    split
    next => exact sourced
    next filled => simpa using filled
  have created : outcome (newProcessVariable server csManager base sourceName (if name.isEmpty then sourceName else name))
      after = (.ok (after.newProcessVariable server base oneProcessVariable sourceName
        (if name.isEmpty then sourceName else name)).1, (after.newProcessVariable server base oneProcessVariable sourceName
        (if name.isEmpty then sourceName else name)).2) := by
    unfold newProcessVariable
    rw [knows]
    rfl
  refine Reports.after created (newProcessVariable_keeps server csManager _ _ _) ?_
  rw [if_pos (newProcessVariable_taken law named taken oneProcessVariable sourceName)]
  exact raiseError_reports _ _ _ _

omit law in
private theorem linkVariable_reports (parentSourceId : NodeId) (sourceName destination name unit description : Text)
    (renamed : name ≠ [] ∧ name ≠ lastPart sourceName) :
    Reports (linkVariable server parentSourceId sourceName destination name unit description []) adapter := by
  obtain ⟨after, taken, -⟩ := lastToken_alike sourceName adapter
  refine Reports.after taken (lastToken_keeps _) ?_
  rw [List.isEmpty_eq_false_iff.mpr renamed.1]
  exact Reports.ite (fun _ => raiseError_reports _ _ _ _) fun same => absurd same (not_not_intro renamed.2.symm)

theorem mapNamed_reports {entry : ProcessVariableEntry} (fits : entry.Fits server csManager adapter)
    (fault : entry.Fault server csManager adapter) :
    Reports (mapNamed server csManager entry entry.finalName (getAttributeValueFromNode entry.history)) adapter := by
  unfold mapNamed
  dsimp only
  have failed {condition : Prop} [Decidable condition] (first second other another : Text) :
      Reports (if condition then raiseError first second entry.line else raiseError other another entry.line) adapter :=
    Reports.ite (fun _ => raiseError_reports _ _ _ _) fun _ => raiseError_reports _ _ _ _
  refine Reports.ite (fun _ => failed _ _ _ _) fun sourced => ?_
  have sourced : entry.source ≠ [] := fun empty => sourced (List.isEmpty_iff.mpr empty)
  have filled : some [] ∉ [entry.sourceName, entry.copy, entry.history, entry.destination.bind (·.unrollPath)] := by
    rw [List.mem_cons, not_or]
    refine ⟨fun empty => sourced ?_, fits.filled⟩
    rw [ProcessVariableEntry.source, ← empty]
    rfl
  refine Reports.ite (fun updates => ?_) fun other => Reports.read ?_
  · have updates : entry.Updates := by simpa [ProcessVariableEntry.Updates] using updates
    have missing : adapter.updateTarget entry.source = none := by
      cases fault with
      | emptyAttribute given => exact absurd given filled
      | unreadableCopy unreadable => exact absurd fits.readable unreadable
      | emptyName given unnamed => exact absurd unnamed (fits.named given)
      | sourceOmitted unsourced => exact absurd unsourced sourced
      | sourceMissing missing => exact (missing.resolve_right fun other => other.1 updates).2
      | nothingUpdated _ rd found strange =>
        obtain ⟨processVariable, member, same⟩ := fits.updated updates rd found
        exact absurd same (strange processVariable member)
      | sourceUnknown takes => exact absurd updates takes.2.1
      | sourceIsTarget takes => exact absurd updates takes.2.1
      | renamed takes => exact absurd updates takes.2.1
      | nowhereToCopy takes => exact absurd updates takes.2.1
      | nowhereToLink takes => exact absurd updates takes.2.1
      | notLinked takes => exact absurd updates takes.2.1
      | nameTaken takes => exact absurd updates takes.2.1
    exact updateVariable_reports _ _ _ _ missing
  have other : ¬ entry.Updates := by simpa [ProcessVariableEntry.Updates] using other
  refine Reports.ite (fun _ => failed _ _ _ _) fun there => ?_
  have takes : entry.TakesSource adapter := ⟨sourced, other, by simpa using there⟩
  have present : ¬ (entry.Updates ∧ adapter.updateTarget entry.source = none ∨
      ¬ entry.Updates ∧ adapter.space.hasNode (adapter.sourceNode entry) = false) := by
    rintro (⟨updates, -⟩ | ⟨-, missing⟩)
    · exact other updates
    · exact absurd (takes.2.2.symm.trans missing) Bool.true_eq_false_eq_False
  refine Reports.ite (fun copies => ?_) fun links => ?_
  · refine copyVariable_reports law _ sourced _ _ _ _ _ (fits.known takes copies) ?_
    cases fault with
    | emptyAttribute given => exact absurd given filled
    | unreadableCopy unreadable => exact absurd fits.readable unreadable
    | emptyName given unnamed => exact absurd unnamed (fits.named given)
    | sourceOmitted unsourced => exact absurd unsourced sourced
    | sourceMissing missing => exact absurd missing present
    | nothingUpdated updates => exact absurd updates other
    | sourceUnknown _ _ unknown =>
      refine or_iff_not_imp_left.mpr fun elsewhere => ?_
      obtain ⟨base, after, found⟩ := @variableDestination_found server entry.target entry.unrollPath adapter
      refine ⟨base, after, found, .inl (Bool.not_eq_false _ ▸ fun null => ?_)⟩
      have known := fits.known takes copies elsewhere ⟨base, after, found, null⟩
      rw [unknown] at known
      cases known
    | sourceIsTarget _ _ same => exact .inl same
    | renamed _ links => exact absurd copies links
    | nowhereToCopy _ _ missing =>
      obtain ⟨base, after, found, null⟩ := missing
      exact .inr ⟨base, after, found, .inl null⟩
    | nowhereToLink _ links => exact absurd copies links
    | notLinked _ links => exact absurd copies links
    | nameTaken _ _ taken =>
      obtain ⟨base, after, found, taken⟩ := taken
      exact .inr ⟨base, after, found, .inr taken⟩
  · cases fault with
    | emptyAttribute given => exact absurd given filled
    | unreadableCopy unreadable => exact absurd fits.readable unreadable
    | emptyName given unnamed => exact absurd unnamed (fits.named given)
    | sourceOmitted unsourced => exact absurd unsourced sourced
    | sourceMissing missing => exact absurd missing present
    | nothingUpdated updates => exact absurd updates other
    | sourceUnknown _ copies => exact absurd copies links
    | sourceIsTarget _ copies => exact absurd copies links
    | renamed _ _ renames =>
      have unrecorded := fits.renamed takes links renames
      rw [unrecorded, entry.finalName_eq unrecorded]
      exact linkVariable_reports _ _ _ _ _ _ renames
    | nowhereToCopy _ copies => exact absurd copies links
    | nowhereToLink _ _ same missing =>
      rw [(fits.linked takes links same).1] at missing
      cases missing
    | notLinked _ _ same refused => exact absurd (fits.linked takes links same).2 refused
    | nameTaken _ copies => exact absurd copies links

/-- A faulty entry for a process variable ends in a report or an exception, where the mapping
sees what is wrong. -/
theorem mapProcessVariable_reports {entry : ProcessVariableEntry}
    (fits : entry.Fits server csManager (entry.recorded adapter))
    (fault : entry.Fault server csManager (entry.recorded adapter)) :
    Reports (mapProcessVariable server csManager entry) adapter := by
  rw [mapProcessVariable_eq]
  refine Reports.after (variableHistory_recorded entry).1 (when_keeps (addVariableHistory_keeps _ _ _ _) _) ?_
  exact mapNamed_reports law fits fault

end Mapping

namespace AdditionalVariableEntry

variable (entry : AdditionalVariableEntry)

def folder : Text := elementContent entry.destination

def variableName : Text := elementContent entry.name

def place (rootFolder : Text) : Text := if entry.folder.isEmpty then rootFolder else rootFolder ++ '/' :: entry.folder

/-- The server has a node with an id that the mapping takes for one of the entry's name. -/
def Refused (adapter : UaAdapter) : Prop :=
  adapter.space.hasNode (.string (entry.place (rootFolderOf adapter) ++ '/' :: entry.variableName ++ "AdditionalVariable")) = true ∨
    adapter.space.hasNode (.string (entry.place (rootFolderOf adapter) ++ '/' :: entry.variableName ++ "Value")) = true

variable (server : UaServer) (adapter : UaAdapter)

/-- The folder for the variable, and the adapter once it is there. -/
def base : NodeId × UaAdapter :=
  if !entry.folder.isEmpty then adapter.enrollFolderPathFromString server (entry.folder ++ "/removePart") "/"
  else (.string (rootFolderOf adapter ++ "Dir"), adapter)

/-- A process variable or an additional variable has the entry's name in its folder. -/
def Taken : Prop :=
  (entry.base server adapter).2.space.hasNode
      (.string ((entry.base server adapter).1.baseName ++ '/' :: entry.variableName)) = true ∨
    (entry.base server adapter).2.space.hasNode
      (.string ((entry.base server adapter).1.baseName ++ '/' :: entry.variableName ++ "AdditionalVariable")) = true

/-- The variable that is made, and the adapter with its nodes. -/
def made : UaAdditionalVariable × UaAdapter :=
  (entry.base server adapter).2.newAdditionalVariable server (entry.base server adapter).1 entry.variableName
    (elementContent entry.value) (elementContent entry.description)

/-- What is wrong with an entry for an additional variable. -/
inductive Fault : Prop
  | unnamed (unnamed : entry.variableName = [])
  | noFolder (missing : (entry.base server adapter).1.isNull = true)
  | nameTaken (taken : entry.Taken server adapter)
  | notMade (unmade : (entry.made server adapter).1.ownNodeId.isNull = true)

/-- What the mapping takes for granted: a variable of the same name is one that its check for
the node ids finds, and a variable that comes to be made gets its node. -/
structure Fits : Prop where
  found : entry.variableName ≠ [] → (entry.base server adapter).1.isNull = false → entry.Taken server adapter →
    entry.Refused adapter
  makes : entry.variableName ≠ [] → (entry.base server adapter).1.isNull = false → ¬ entry.Refused adapter →
    (entry.made server adapter).1.ownNodeId.isNull = false

end AdditionalVariableEntry

namespace Mapping

variable {server : UaServer} {adapter : UaAdapter}

/-- A faulty entry for an additional variable ends in a report or an exception, where the
mapping sees what is wrong. -/
theorem addAdditionalVariable_reports {entry : AdditionalVariableEntry} (fits : entry.Fits server adapter)
    (fault : entry.Fault server adapter) : Reports (addAdditionalVariable server entry) adapter := by
  unfold addAdditionalVariable
  refine Reports.read ?_
  dsimp only
  refine Reports.ite (fun _ => raiseError_reports _ _ _ _) fun named => ?_
  refine Reports.ite (fun _ => raiseError_reports _ _ _ _) fun additional => ?_
  refine Reports.ite (fun _ => raiseError_reports _ _ _ _) fun value => ?_
  have enrolled : outcome (if !(elementContent entry.destination).isEmpty then
      enrollFolderPathFromString server (elementContent entry.destination ++ "/removePart") "/"
      else pure (.string (adapter.serverConfig.rootFolder ++ "Dir")) : Mapping NodeId) adapter =
        (.ok (entry.base server adapter).1, (entry.base server adapter).2) := by
    unfold AdditionalVariableEntry.base AdditionalVariableEntry.folder
    split
    · rfl
    · rfl
  refine Reports.after enrolled (Keeps.ite (enrollFolderPathFromString_keeps server _ _) (Keeps.pure _)) ?_
  refine Reports.ite (fun _ => raiseError_reports _ _ _ _) fun there => ?_
  have filled : entry.variableName ≠ [] := fun empty => named (List.isEmpty_iff.mpr empty)
  have placed : (entry.base server adapter).1.isNull = false := by simpa using there
  have unseen : ¬ entry.Refused adapter := not_or.mpr ⟨additional, value⟩
  cases fault with
  | unnamed unnamed => exact absurd unnamed filled
  | noFolder missing => exact absurd missing there
  | nameTaken taken => exact absurd (fits.found filled placed taken) unseen
  | notMade unmade =>
    exact absurd (unmade.symm.trans (fits.makes filled placed unseen)) Bool.true_eq_false_eq_False

end Mapping

end OpcUaAdapter
