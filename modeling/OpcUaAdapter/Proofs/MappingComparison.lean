import OpcUaAdapter.ExplicitMapping
import OpcUaAdapter.Library.Agreement

/-! Two runs of the mapping side by side. What the mapping of variables does never depends on
the histories that are assigned to variables, nor on the messages and notes so far, so runs
that start with other ones go on alike. -/

namespace OpcUaAdapter

open Effects

/-- The adapter with other histories of variables, warnings and notes. -/
def UaAdapter.aside (adapter : UaAdapter) (historyvariables : List AdapterPVHistorySetup) (warnings : List Text)
    (undefinedSteps : List UndefinedStep) : UaAdapter :=
  { adapter with serverConfig.historyvariables := historyvariables, warnings, undefinedSteps }

/-- Two adapters that differ in their histories of variables, warnings and notes alone. -/
def Alike (first second : UaAdapter) : Prop :=
  ∃ historyvariables warnings undefinedSteps, second = first.aside historyvariables warnings undefinedSteps

theorem Alike.refl (adapter : UaAdapter) : Alike adapter adapter := ⟨_, _, _, rfl⟩

instance : Std.Refl Alike := ⟨Alike.refl⟩

instance : Std.Symm Alike := ⟨by rintro adapter _ ⟨_, _, _, rfl⟩; exact ⟨_, _, _, rfl⟩⟩

instance : IsTrans UaAdapter Alike :=
  ⟨by rintro adapter _ _ ⟨_, _, _, rfl⟩ ⟨_, _, _, rfl⟩; exact ⟨_, _, _, rfl⟩⟩

namespace UaAdapter

variable (server : UaServer) (adapter : UaAdapter) {histories : List AdapterPVHistorySetup} {warnings : List Text}
  {steps : List UndefinedStep}

private theorem addNode_aside (node : UaNode) (parent : NodeId) (referenceType : ReferenceType)
    (typeDefinition : Option NodeId) :
    (adapter.aside histories warnings steps).addNode server node parent referenceType typeDefinition =
      ((adapter.addNode server node parent referenceType typeDefinition).1,
        (adapter.addNode server node parent referenceType typeDefinition).2.aside histories warnings steps) := rfl

private theorem existFolderPath_aside (base : NodeId) (path : List Text) :
    (adapter.aside histories warnings steps).existFolderPath base path = adapter.existFolderPath base path := by
  induction path generalizing base with
  | nil => rfl
  | cons folder path ih =>
    simp only [existFolderPath, ih]
    rfl

private theorem partlyExisting_aside (base : NodeId) (path : List Text) :
    (adapter.aside histories warnings steps).partlyExisting base path = adapter.partlyExisting base path := by
  fun_induction adapter.partlyExisting base path with
  | case1 base folder next path i found ih => simpa [partlyExisting, aside, found] using ih
  | case2 base folder next path missing => simp [partlyExisting, aside, missing]
  | case3 base path single => rw [partlyExisting.eq_2 _ _ _ single]

/-- A step of the adapter that takes no notice of what stands aside, and leaves it as it is. -/
def Unaware {α : Type} (change : UaAdapter → α × UaAdapter) : Prop :=
  ∀ adapter histories warnings steps, change (adapter.aside histories warnings steps) =
    ((change adapter).1, (change adapter).2.aside histories warnings steps)

private theorem createFolder_unaware (base : NodeId) (folderName : Text) :
    Unaware fun adapter => adapter.createFolder server base folderName := by
  intro adapter histories warnings steps
  have same : (adapter.aside histories warnings steps).existFolder base folderName = adapter.existFolder base folderName :=
    rfl
  simp only [createFolder, same]
  split
  · rfl
  · split
    · rfl
    · rfl

private theorem createFolders_unaware (base : NodeId) (path : List Text) :
    Unaware fun adapter => adapter.createFolders server base path := by
  intro adapter histories warnings steps
  induction path generalizing adapter base with
  | nil => rfl
  | cons folder path ih =>
    have first := createFolder_unaware server base folder adapter histories warnings steps
    simp only [createFolders, first]
    exact ih _ _

private theorem enrollFolderPathFromString_unaware (path separator : Text) :
    Unaware fun adapter => adapter.enrollFolderPathFromString server path separator := by
  intro adapter histories warnings steps
  simp only [enrollFolderPathFromString]
  generalize (if separator.isEmpty then [] else parseVariablePath path separator) = varPathVector
  have own : (adapter.aside histories warnings steps).ownNodeId = adapter.ownNodeId := rfl
  simp only [createFolderPath, own, existFolderPath_aside, partlyExisting_aside]
  split
  · rfl
  split
  · rfl
  split
  · exact createFolders_unaware server _ _ adapter histories warnings steps
  · rfl

private theorem addPVChildNodes_aside (pvNodeId : NodeId) (pvNodePath namePV : Text) (children : List Text) :
    (adapter.aside histories warnings steps).addPVChildNodes server pvNodeId pvNodePath namePV children =
      (adapter.addPVChildNodes server pvNodeId pvNodePath namePV children).aside histories warnings steps := by
  induction children generalizing adapter with
  | nil => rfl
  | cons child children ih =>
    cases refused : (adapter.addNode server (pvChildNode pvNodePath namePV child) pvNodeId .hasComponent
      (some baseDataVariableType)).1.isNull with
    | true => simp [addPVChildNodes, addNode_aside, refused]
    | false => simp [addPVChildNodes, addNode_aside, refused, ih]

private theorem newProcessVariable_unaware (base : NodeId) (oneProcessVariable : ProcessVariable)
    (namePV overwriteNodeString : Text) :
    Unaware fun adapter => adapter.newProcessVariable server base oneProcessVariable namePV overwriteNodeString := by
  intro adapter histories warnings steps
  simp only [newProcessVariable]
  generalize (if overwriteNodeString.isEmpty then namePV else overwriteNodeString) = nameNew
  have method : (adapter.aside histories warnings steps).usesMethod oneProcessVariable =
      adapter.usesMethod oneProcessVariable := rfl
  have typed (nodeId : NodeId) : (adapter.aside histories warnings steps).space.hasDataType nodeId =
      adapter.space.hasDataType nodeId := rfl
  simp only [method, mapVariable, typed, addNode_aside]
  split
  · rfl
  split
  · rfl
  split
  · rfl
  · exact congrArg _ (addPVChildNodes_aside server _ _ _ _ _)

end UaAdapter

namespace ProcessVariableEntry

variable (entry : ProcessVariableEntry)

def source : Text := getAttributeValueFromNode entry.sourceName

def copyMode : Text := toupper (getAttributeValueFromNode entry.copy)

def target : Text := elementContent (entry.destination.map (·.content))

/-- The name an entry is mapped with when it has this history and asks for no copy. -/
def mappedName (history : Text) : Text :=
  (entry.name.map getContentFromNode).getD
    (if !history.isEmpty && !entry.source.isEmpty && (entry.copyMode.isEmpty || entry.copyMode = "FALSE") then entry.source
    else [])

end ProcessVariableEntry

def UaAdapter.sourceNode (adapter : UaAdapter) (entry : ProcessVariableEntry) : NodeId :=
  .string (adapter.serverConfig.rootFolder ++ '/' :: entry.source)

namespace Mapping

theorem modify_agrees {change again : UaAdapter → UaAdapter}
    (kept : ∀ adapter histories warnings steps, Alike (change adapter) (again (adapter.aside histories warnings steps))) :
    Agrees Alike (modify change : Mapping Unit) (modify again) := by
  apply Agrees.modify
  rintro adapter _ ⟨histories, warnings, steps, rfl⟩
  exact kept adapter histories warnings steps

private theorem modifyGet_agrees {α : Type} {change : UaAdapter → α × UaAdapter} (unaware : UaAdapter.Unaware change) :
    Agrees Alike (modifyGet change : Mapping α) (modifyGet change) := by
  apply Agrees.modifyGet
  rintro adapter _ ⟨histories, warnings, steps, rfl⟩
  rw [unaware adapter histories warnings steps]
  exact ⟨rfl, histories, warnings, steps, rfl⟩

private theorem read_agrees {α : Type} {next rest : UaAdapter → Mapping α}
    (each : ∀ adapter histories warnings steps,
      Agrees Alike (next adapter) (rest (adapter.aside histories warnings steps))) :
    Agrees Alike (get >>= next) (get >>= rest) := by
  apply Agrees.read
  rintro adapter _ ⟨histories, warnings, steps, rfl⟩
  exact each adapter histories warnings steps

theorem when_agrees (condition : Bool) {effect another : Mapping Unit} (agree : Agrees Alike effect another) :
    Agrees Alike (when condition effect) (when condition another) := by
  cases condition with
  | true => exact agree
  | false => exact Agrees.pure _

theorem note_agrees (step : UndefinedStep) (condition other : Bool) :
    Agrees Alike (when condition (note step)) (when other (note step)) := by
  rintro adapter _ ⟨histories, warnings, steps, rfl⟩
  cases condition <;> cases other <;> exact ⟨rfl, _, _, _, rfl⟩

/-- An error is raised in both runs or in none; its texts do not matter. -/
theorem raiseError_agrees (errorMessage consequenceMessage another other : Text) (line next : Int) :
    Agrees Alike (raiseError errorMessage consequenceMessage line) (raiseError another other next) := by
  refine Agrees.bind (note_agrees _ _ _) fun _ => ?_
  apply read_agrees
  intro adapter histories warnings steps
  exact Agrees.ite (fun _ => Agrees.throw _ _) fun _ => modify_agrees fun _ _ _ _ => ⟨_, _, _, rfl⟩

private theorem lastToken_agrees (path : Text) : Agrees Alike (lastToken path) (lastToken path) :=
  Agrees.bind (note_agrees _ _ _) fun _ => Agrees.pure _

theorem setUnitAndDescription_agrees (nodeId : NodeId) (unit description : Text) :
    Agrees Alike (setUnitAndDescription nodeId unit description) (setUnitAndDescription nodeId unit description) := by
  refine Agrees.bind (when_agrees _ ?_) fun _ => when_agrees _ ?_
  · exact modify_agrees fun _ histories warnings steps => ⟨histories, warnings, steps, rfl⟩
  · exact modify_agrees fun _ histories warnings steps => ⟨histories, warnings, steps, rfl⟩

theorem finishVariable_agrees (createdNodeId : NodeId) (name unit description : Text) :
    Agrees Alike (finishVariable createdNodeId name unit description)
      (finishVariable createdNodeId name unit description) :=
  Agrees.bind (setUnitAndDescription_agrees _ _ _) fun _ =>
    modify_agrees fun _ histories warnings steps => ⟨histories, warnings, steps, rfl⟩

private theorem updateVariable_agrees (line : Nat) (sourceName name unit description : Text) :
    Agrees Alike (updateVariable line sourceName name unit description)
      (updateVariable line sourceName name unit description) := by
  unfold updateVariable
  refine Agrees.bind (lastToken_agrees _) fun last => ?_
  refine Agrees.bind (note_agrees _ _ _) fun _ => ?_
  apply read_agrees
  intro adapter histories warnings steps
  dsimp only [UaAdapter.aside]
  split
  · exact Agrees.ite (fun _ => raiseError_agrees _ _ _ _ _ _) fun _ => raiseError_agrees _ _ _ _ _ _
  · exact setUnitAndDescription_agrees _ _ _

section Served

variable (server : UaServer) (csManager : ControlSystemPVManager)

theorem enrollFolderPathFromString_agrees (path separator : Text) :
    Agrees Alike (enrollFolderPathFromString server path separator) (enrollFolderPathFromString server path separator) :=
  modifyGet_agrees (UaAdapter.enrollFolderPathFromString_unaware server path separator)

private theorem variableDestination_agrees (destination unrollPath : Text) :
    Agrees Alike (variableDestination server destination unrollPath) (variableDestination server destination unrollPath) := by
  unfold variableDestination
  apply Agrees.ite
  · exact fun _ => read_agrees fun _ _ _ _ => Agrees.pure _
  refine fun _ => Agrees.ite (fun _ => enrollFolderPathFromString_agrees server _ _) fun _ => ?_
  refine Agrees.ite (fun _ => ?_) fun _ => enrollFolderPathFromString_agrees server _ _
  apply read_agrees
  intro adapter histories warnings steps
  exact Agrees.ite (fun _ => Agrees.pure _) fun _ => enrollFolderPathFromString_agrees server _ _

private theorem newProcessVariable_agrees (base : NodeId) (namePV overwriteNodeString : Text) :
    Agrees Alike (newProcessVariable server csManager base namePV overwriteNodeString)
      (newProcessVariable server csManager base namePV overwriteNodeString) := by
  unfold newProcessVariable
  split
  · exact Agrees.throw _ _
  · exact modifyGet_agrees (UaAdapter.newProcessVariable_unaware server _ _ _ _)

private theorem copyVariable_agrees (line : Nat) (sourceName destination unrollPath name unit description : Text) :
    Agrees Alike (copyVariable server csManager line sourceName destination unrollPath name unit description)
      (copyVariable server csManager line sourceName destination unrollPath name unit description) := by
  unfold copyVariable
  refine Agrees.ite (fun _ => raiseError_agrees _ _ _ _ _ _) fun _ => ?_
  refine Agrees.bind (variableDestination_agrees server _ _) fun base => ?_
  refine Agrees.ite (fun _ => raiseError_agrees _ _ _ _ _ _) fun _ => ?_
  refine Agrees.bind (newProcessVariable_agrees server csManager _ _ _) fun created => ?_
  refine Agrees.ite (fun _ => raiseError_agrees _ _ _ _ _ _) fun _ => ?_
  refine Agrees.bind (modify_agrees fun _ _ _ _ => ⟨_, _, _, rfl⟩) fun _ => ?_
  exact finishVariable_agrees _ _ _ _

theorem linkVariable_agrees (parentSourceId : NodeId) (sourceName destination name unit description history : Text) :
    Agrees Alike (linkVariable server parentSourceId sourceName destination name unit description history)
      (linkVariable server parentSourceId sourceName destination name unit description history) := by
  unfold linkVariable
  refine Agrees.bind (lastToken_agrees _) fun sourceVarName => ?_
  refine Agrees.ite (fun _ => when_agrees _ (raiseError_agrees _ _ _ _ _ _)) fun _ => ?_
  refine Agrees.bind (enrollFolderPathFromString_agrees server _ _) fun base => ?_
  refine Agrees.bind (modify_agrees fun _ histories warnings steps => ⟨histories, warnings, steps, rfl⟩) fun _ => ?_
  exact finishVariable_agrees _ _ _ _

private theorem addVariableHistory_agrees (entry : ProcessVariableEntry) (sourceName copy history : Text) :
    Agrees Alike (addVariableHistory entry sourceName copy history)
      (addVariableHistory entry sourceName copy history) := by
  unfold addVariableHistory
  apply read_agrees
  intro adapter histories warnings steps
  refine Agrees.bind ?_ fun _ => when_agrees _ (modify_agrees fun _ _ _ _ => ⟨_, _, _, rfl⟩)
  split
  · exact modify_agrees fun _ _ _ _ => ⟨_, _, _, rfl⟩
  · exact modify_agrees fun _ _ _ _ => ⟨_, _, _, rfl⟩
  · exact Agrees.pure _

/-- The mapping of an entry behind its history, with the name it goes by then. -/
def mapNamed (entry : ProcessVariableEntry) (name history : Text) : Mapping Unit := do
  let unrollPath := getAttributeValueFromNode (entry.destination.bind (·.unrollPath))
  let unit := elementContent entry.unit
  let description := elementContent entry.description
  if entry.source.isEmpty then
    if !name.isEmpty then
      raiseError ("PV mapping failed. SourceName missing for 'name' : '" ++ name) "Skipping PV mapping." entry.line
    else raiseError "PV mapping failed. SourceName is missing." "Skipping PV mapping." entry.line
  else if entry.target ++ '/' :: name = entry.source && entry.copyMode = "FALSE" then
    updateVariable entry.line entry.source name unit description
  else
    let adapter ← get
    if !adapter.space.hasNode (adapter.sourceNode entry) then
      if !name.isEmpty then
        raiseError ("PV mapping failed. Source PV not found 'name' : '" ++ name) "Skipping PV mapping." entry.line
      else raiseError "PV mapping failed. Source PV not found" "Skipping PV mapping." entry.line
    else if entry.copyMode = "TRUE" then
      copyVariable server csManager entry.line entry.source entry.target unrollPath name unit description
    else linkVariable server (adapter.sourceNode entry) entry.source entry.target name unit description history

theorem mapProcessVariable_eq (entry : ProcessVariableEntry) :
    mapProcessVariable server csManager entry =
      when (!(getAttributeValueFromNode entry.history).isEmpty)
        (addVariableHistory entry entry.source entry.copyMode (getAttributeValueFromNode entry.history)) >>= fun _ =>
      mapNamed server csManager entry (entry.mappedName (getAttributeValueFromNode entry.history))
        (getAttributeValueFromNode entry.history) := rfl

private theorem mapNamed_agrees (entry : ProcessVariableEntry) (name history : Text) :
    Agrees Alike (mapNamed server csManager entry name history) (mapNamed server csManager entry name history) := by
  unfold mapNamed
  have failed (first second other another : Text) (condition : Prop) [Decidable condition] :
      Agrees Alike (if condition then raiseError first second entry.line else raiseError other another entry.line)
        (if condition then raiseError first second entry.line else raiseError other another entry.line) :=
    Agrees.ite (fun _ => raiseError_agrees _ _ _ _ _ _) fun _ => raiseError_agrees _ _ _ _ _ _
  refine Agrees.ite (fun _ => failed _ _ _ _ _) fun _ => ?_
  refine Agrees.ite (fun _ => updateVariable_agrees _ _ _ _ _) fun _ => ?_
  apply read_agrees
  intro adapter histories warnings steps
  refine Agrees.ite (fun _ => failed _ _ _ _ _) fun _ => ?_
  refine Agrees.ite (fun _ => copyVariable_agrees server csManager _ _ _ _ _ _ _) fun _ => ?_
  exact linkVariable_agrees server _ _ _ _ _ _ _

theorem mapProcessVariable_agrees (entry : ProcessVariableEntry) :
    Agrees Alike (mapProcessVariable server csManager entry) (mapProcessVariable server csManager entry) :=
  Agrees.bind (when_agrees _ (addVariableHistory_agrees _ _ _ _)) fun _ => mapNamed_agrees server csManager _ _ _

/-- A history of a variable stands aside. -/
theorem addVariableHistory_alike (entry : ProcessVariableEntry) (sourceName copy history : Text) (adapter : UaAdapter) :
    ∃ after, outcome (when (!history.isEmpty) (addVariableHistory entry sourceName copy history)) adapter =
      (.ok (), after) ∧ Alike adapter after := by
  unfold when addVariableHistory
  split
  · cases entry.name <;> cases entry.destination <;> cases !sourceName.isEmpty && (copy.isEmpty || copy = "FALSE") <;>
      exact ⟨_, rfl, _, _, _, rfl⟩
  · exact ⟨_, rfl, Alike.refl _⟩

/-- The history part of an entry changes nothing for what follows. -/
theorem mapProcessVariable_alike (entry : ProcessVariableEntry) (adapter : UaAdapter) :
    EndAlike Alike (outcome (mapProcessVariable server csManager entry) adapter)
      (outcome (mapNamed server csManager entry (entry.mappedName (getAttributeValueFromNode entry.history))
        (getAttributeValueFromNode entry.history)) adapter) := by
  obtain ⟨after, noted, alike⟩ := addVariableHistory_alike entry entry.source entry.copyMode
    (getAttributeValueFromNode entry.history) adapter
  rw [mapProcessVariable_eq, outcome_bind_ok noted]
  exact mapNamed_agrees server csManager _ _ _ _ _ (Std.Symm.symm _ _ alike)

end Served

end Mapping

end OpcUaAdapter
