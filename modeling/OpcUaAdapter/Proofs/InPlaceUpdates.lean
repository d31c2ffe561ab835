import OpcUaAdapter.Proofs.ComponentReferences
import OpcUaAdapter.Proofs.HistoryIndependence

/-! An entry for a variable in its own place looks below the node id of the folder without
its `Dir`. The variable is a component of the folder itself, so it is never found there. -/

namespace OpcUaAdapter

open Effects Mapping

def letters (text : Text) : Text := text.filter fun c => c ≠ '/'

private theorem letters_append (first second : Text) : letters (first ++ second) = letters first ++ letters second :=
  List.filter_append ..

private theorem letters_slash (text : Text) : letters ('/' :: text) = letters text := rfl

private theorem letters_of_plain {text : Text} (plain : '/' ∉ text) : letters text = text := by
  refine List.filter_eq_self.mpr fun c member => ?_
  have other : c ≠ '/' := fun same => plain (same ▸ member)
  simpa using other

private theorem letters_treePath (rootFolder : Text) {path : List Text} (tokens : AreTokens path) :
    letters (treePath rootFolder path) = letters rootFolder ++ path.flatten := by
  induction path using List.reverseRecOn with
  | nil => simp [treePath]
  | append_singleton path last ih =>
    obtain ⟨front, token⟩ := areTokens_append.mp tokens
    rw [treePath_append, letters_append, letters_slash, ih front, letters_of_plain (token last (by simp)).2]
    simp

private theorem treePath_below (rootFolder : Text) (path : List Text) (name : Text) :
    ∃ rest, treePath rootFolder path ++ '/' :: name = rootFolder ++ '/' :: rest := by
  cases path with
  | nil => exact ⟨name, by simp [treePath]⟩
  | cons token path => exact ⟨token ++ (path.flatMap fun token => '/' :: token) ++ '/' :: name, by simp [treePath]⟩

theorem parse_named {varName d n : Text} (named : d ++ '/' :: n = varName.drop 1) (filled : n ≠ []) (plain : '/' ∉ n) :
    ∃ c, parseVariablePath varName "/" = parseVariablePath (c :: d) "/" ++ [n] := by
  cases varName with
  | nil => simp at named
  | cons c rest =>
    obtain rfl : d ++ '/' :: n = rest := named
    exact ⟨c, parseVariablePath_concat (c :: d) filled plain⟩

private theorem letters_length_le_cons (c : Char) (text : Text) :
    (letters text).length ≤ (parseVariablePath (c :: text) "/").flatten.length := by
  rw [flatten_parseVariablePath]
  exact ((List.sublist_cons_self c text).filter _).length_le

private theorem folderId_nil_ne (rootFolder text : Text) : folderId rootFolder [] ≠ .string (rootFolder ++ '/' :: text) := by
  intro same
  have root : treePath rootFolder [] = rootFolder := List.append_nil _
  rw [folderId, root] at same
  cases List.append_cancel_left (NodeId.string.inj same)

section Place

variable {rootFolder d n : Text} {base own : NodeId}

/-- The own node of a variable is below the root folder and ends with the variable's name;
what is in front of the name has the letters of the folders at least. -/
theorem IsPlace.text (place : IsPlace rootFolder (d ++ '/' :: n) base own) (filled : n ≠ []) (plain : '/' ∉ n) :
    ∃ front rest, own = .string (front ++ '/' :: n) ∧ front ++ '/' :: n = rootFolder ++ '/' :: rest ∧
      (letters rootFolder).length + (letters d).length ≤ (letters front).length := by
  rcases place with ⟨-, same⟩ | ⟨varName, named, -, -, same⟩
  · refine ⟨rootFolder ++ '/' :: d, d ++ '/' :: n, by rw [same]; simp, by simp, ?_⟩
    rw [letters_append, letters_slash, List.length_append]
  · obtain ⟨c, split⟩ := parse_named named filled plain
    rw [split, treePath_append] at same
    have tokens := areTokens_parsed (c :: d)
    obtain ⟨rest, below⟩ := treePath_below rootFolder (parseVariablePath (c :: d) "/") n
    refine ⟨_, rest, same, below, ?_⟩
    rw [letters_treePath rootFolder tokens, List.length_append]
    exact Nat.add_le_add_left (letters_length_le_cons c d) _

theorem IsPlace.base_ne (place : IsPlace rootFolder (d ++ '/' :: n) base own) (filled : n ≠ []) (plain : '/' ∉ n) :
    base ≠ .string (rootFolder ++ '/' :: d) := by
  rcases place with ⟨rfl, -⟩ | ⟨varName, named, -, rfl, -⟩
  · exact folderId_nil_ne rootFolder d
  · obtain ⟨c, split⟩ := parse_named named filled plain
    rw [split, List.dropLast_concat]
    intro same
    have longer := congrArg List.length (congrArg letters (NodeId.string.inj same))
    have here := letters_length_le_cons c d
    rw [letters_append, letters_treePath rootFolder (areTokens_parsed (c :: d)), letters_append, letters_slash] at longer
    simp only [List.length_append] at longer
    have dir : (letters "Dir").length = 3 := by decide
    omega

end Place

section Misses

variable {rootFolder d n : Text} {base own : NodeId}

theorem ComponentShape.not_parent (shape : ComponentShape rootFolder own (.string (rootFolder ++ '/' :: d)))
    (place : IsPlace rootFolder (d ++ '/' :: n) base own) (filled : n ≠ []) (plain : '/' ∉ n) : False := by
  obtain ⟨front, rest, same, below, longer⟩ := place.text filled plain
  have name_length : 0 < n.length := List.length_pos_iff.mpr filled
  have own_letters : (letters (front ++ '/' :: n)).length = (letters front).length + n.length := by
    rw [letters_append, letters_slash, letters_of_plain plain, List.length_append]
  generalize target : NodeId.string (rootFolder ++ '/' :: d) = other at shape
  cases shape with
  | inRoot name => exact folderId_nil_ne rootFolder rest (same.trans (congrArg NodeId.string below))
  | @inFolder path nonempty tokens =>
    obtain ⟨above, last, rfl⟩ := (List.eq_nil_or_concat path).resolve_left nonempty
    rw [List.concat_eq_append] at *
    rw [List.dropLast_concat] at same
    have ends := NodeId.string.inj same
    have whole := congrArg (fun text => (letters text).length) (NodeId.string.inj target)
    have parts := congrArg (fun text => (letters text).length) ends
    have last_length : 0 < last.length := List.length_pos_iff.mpr (tokens last (by simp)).1
    have dir : (letters "Dir").length = 3 := by decide
    simp only [letters_treePath rootFolder tokens, letters_append,
      letters_treePath rootFolder (areTokens_append.mp tokens).1, List.length_append, List.flatten_append,
      List.flatten_cons, List.flatten_nil, List.append_nil, letters_slash, letters_of_plain plain] at whole parts
    -- the name is so short that its slash would be one of the last three letters
    have suffix : '/' :: n <:+ ("Dir" : Text) :=
      List.suffix_of_suffix_length_le (ends ▸ List.suffix_append front ('/' :: n)) (List.suffix_append _ _)
        (by change n.length + 1 ≤ 3; omega)
    exact absurd (suffix.subset List.mem_cons_self) (by decide)
  | below text child =>
    have whole := congrArg (fun text => (letters text).length) (NodeId.string.inj target)
    rw [NodeId.string.inj same] at whole
    simp only [letters_append, letters_slash, List.length_append] at whole own_letters
    omega
  | orphan => cases same

private theorem reference_of_mem_browseInverse {space : AddressSpace} {target : NodeId} {referenceType : ReferenceType}
    {nodeClasses : List NodeClass} {rd : UaNode} (member : rd ∈ space.browseInverse target referenceType nodeClasses) :
    ⟨rd.nodeId, referenceType, target⟩ ∈ space.references ∧ space.hasNode rd.nodeId = true := by
  obtain ⟨⟨source, type, other⟩, kept, found⟩ := List.mem_filterMap.mp member
  obtain ⟨stored, same⟩ := List.mem_filter.mp kept
  obtain ⟨rfl, rfl⟩ : other = target ∧ type = referenceType := by simpa using same
  obtain ⟨there, -⟩ := Option.filter_eq_some_iff.mp found
  obtain rfl : rd.nodeId = source := by simpa using List.find?_some there
  exact ⟨stored, by rw [AddressSpace.hasNode, there]; rfl⟩

private theorem lastPart_concat (path : Text) {name : Text} (filled : name ≠ []) (plain : '/' ∉ name) :
    lastPart (path ++ '/' :: name) = name := by
  unfold lastPart
  rw [parseVariablePath_concat path filled plain, List.getLast?_concat, Option.getD_some]

theorem PlacesVariables.updateTarget_ne {adapter : UaAdapter}
    (places : PlacesVariables adapter.serverConfig.rootFolder adapter) {processVariable : UaProcessVariable}
    (member : processVariable ∈ adapter.variableVector) (named : processVariable.namePV = d ++ '/' :: n)
    (filled : n ≠ []) (plain : '/' ∉ n) {rd : UaNode} (found : adapter.updateTarget (d ++ '/' :: n) = some rd) :
    rd.nodeId ≠ processVariable.ownNodeId := by
  have listed := List.mem_of_mem_take (List.mem_of_mem_filter (List.mem_of_getLast? found))
  have count : sizeMinus (d ++ '/' :: n).length ((lastPart (d ++ '/' :: n)).length + 1) = some d.length := by
    rw [lastPart_concat d filled plain, sizeMinus, List.length_append, List.length_cons, if_pos (Nat.le_add_left _ _),
      Nat.add_sub_cancel]
  rw [count, Option.getD_some, List.take_left, List.mem_append] at listed
  obtain ⟨-, own⟩ := places.placed processVariable member
  rcases listed with below | above
  · have reference := reference_of_mem_browseForward below
    intro same
    rcases own with null | ⟨base, place, component⟩
    · have known := places.fit.known reference
      rw [same, null, places.fit.noNull] at known
      cases known
    · rw [named] at place
      rw [same] at reference
      exact place.base_ne filled plain (places.fit.single component reference)
  · obtain ⟨reference, known⟩ := reference_of_mem_browseInverse above
    intro same
    rcases own with null | ⟨base, place, component⟩
    · rw [same, null, places.fit.noNull] at known
      cases known
    · rw [named] at place
      rw [same] at reference
      exact (places.fit.shaped reference).not_parent place filled plain

end Misses

/-- The mapping sets the unit and the description of the variables with a source name, and
changes nothing else in variables, nodes and references. -/
structure SetsOnly (before after : UaAdapter) (namePV unit description : Text) : Prop where
  labels : after.variableVector = before.variableVector.map fun processVariable =>
    if processVariable.namePV = namePV then { processVariable with engineeringUnit := unit, description } else processVariable
  space : after.space = before.space

/-- No update of a variable below a folder sets its unit. -/
theorem update_misses_variable {server : UaServer} (law : RefusesUsed server) (csManager : ControlSystemPVManager)
    (serverConfig : ServerConfig) (mappingExceptions : Bool) (mapFile : MapFile) {entry : ProcessVariableEntry}
    {d n : Text} (filled : n ≠ []) (plain : '/' ∉ n) (source : entry.source = d ++ '/' :: n) (target : entry.target = d)
    (named : entry.name.map getContentFromNode = some n) (copy : entry.copyMode = "FALSE")
    (unit : elementContent entry.unit ≠ []) :
    let start := mappedAdapter server csManager serverConfig "/" mappingExceptions mapFile
    (∃ processVariable ∈ start.variableVector, processVariable.namePV = d ++ '/' :: n) →
      ¬ SetsOnly start (outcome (explicitVarMapping server csManager [entry]) start).2 (d ++ '/' :: n)
        (elementContent entry.unit) (elementContent entry.description) := by
  intro start ⟨processVariable, member, same⟩ sets
  have root : start.serverConfig.rootFolder = serverConfig.rootFolder :=
    congrArg ServerConfig.rootFolder (mappedAdapter_own server csManager serverConfig "/" mappingExceptions mapFile).1
  have places : PlacesVariables start.serverConfig.rootFolder start := by
    rw [root]
    exact mappedAdapter_places law csManager serverConfig mappingExceptions mapFile
  have single : (outcome (explicitVarMapping server csManager [entry]) start).2 =
      (outcome (mapProcessVariable server csManager entry) start).2 := by
    unfold explicitVarMapping
    rw [outcome_forM_cons]
    rcases outcome (mapProcessVariable server csManager entry) start with ⟨_ | _, _⟩ <;> rfl
  rw [single] at sets
  have name : ∀ history, entry.mappedName history = n := by
    intro history
    unfold ProcessVariableEntry.mappedName
    rw [named, Option.getD_some]
  have sourced : entry.source ≠ [] := by
    rw [source]
    simp
  have mapped := mapProcessVariable_alike server csManager entry start
  rw [name, mapNamed_inPlace sourced ⟨by rw [target, source], copy⟩] at mapped
  obtain ⟨histories, warnings, steps, states⟩ := (mapped.trans (updateVariable_alike _ _ _ _ _ start)).symm.states
  have labels := (congrArg UaAdapter.variableVector states).symm.trans sets.labels
  change (outcome _ start).2.variableVector = _ at labels
  have set : ∃ labelled, labelled = processVariable ∧ labelled = { processVariable with
      engineeringUnit := elementContent entry.unit, description := elementContent entry.description } := by
    cases found : start.updateTarget entry.source with
    | none =>
      obtain ⟨_, _, _, kept⟩ := (raiseError_alike start [] [] (-1)).symm.states
      have kept : (outcome (raiseError [] []) start).2.variableVector = start.variableVector.map id := by
        rw [kept, List.map_id]
        rfl
      rw [found] at labels
      have each := List.map_inj_left.mp (kept.symm.trans labels) processVariable member
      rw [if_pos same] at each
      exact ⟨processVariable, rfl, each⟩
    | some rd =>
      rw [found, Option.elim_some, outcome_setUnitAndDescription] at labels
      have each := List.map_inj_left.mp labels processVariable member
      rw [source] at found
      have other := places.updateTarget_ne member same filled plain found
      rw [UaProcessVariable.relabel, if_neg (Ne.symm other), if_pos same] at each
      exact ⟨processVariable, rfl, each⟩
  obtain ⟨_, rfl, changed⟩ := set
  have units := congrArg UaProcessVariable.engineeringUnit changed
  rw [(places.placed _ member).1] at units
  exact unit units.symm

def speedLabels : ProcessVariableEntry where
  sourceName := some "control/drive/speed"
  copy := some "false"
  destination := some { content := "control/drive" }
  name := some "speed"
  unit := some "rpm"
  description := some "set point"

private theorem speed_listed :
    ∃ processVariable ∈ driveAdapter.variableVector, processVariable.namePV = "control/drive".toList ++ '/' :: "speed" := by
  decide +kernel

theorem speedLabels_missed :
    ¬ SetsOnly driveAdapter (outcome (explicitVarMapping unusedServer driveManager [speedLabels]) driveAdapter).2
      ("control/drive".toList ++ '/' :: "speed") "rpm" "set point" :=
  update_misses_variable (fun _ _ _ granted => by simpa [unusedServer] using granted) driveManager
    { rootFolder := "device" } false {} (by decide) (by decide) (by decide) (by decide) (by decide)
    (by decide) (by decide) speed_listed

/-- The speed of the drive keeps its empty unit. -/
theorem speed_unit_not_set : ¬ ∀ (server : UaServer) (csManager : ControlSystemPVManager) (serverConfig : ServerConfig)
    (mapFile : MapFile) (entry : ProcessVariableEntry) (d n : Text), d ≠ [] → n ≠ [] → '/' ∉ n →
    entry.source = d ++ '/' :: n → entry.target = d → entry.name.map getContentFromNode = some n →
    entry.copyMode = "FALSE" → elementContent entry.unit ≠ [] → elementContent entry.description ≠ [] →
    let start := mappedAdapter server csManager serverConfig "/" false mapFile
    (∃ processVariable ∈ start.variableVector, processVariable.namePV = d ++ '/' :: n) →
      SetsOnly start (outcome (explicitVarMapping server csManager [entry]) start).2 (d ++ '/' :: n)
        (elementContent entry.unit) (elementContent entry.description) := by
  intro sets
  have labels := (sets unusedServer driveManager { rootFolder := "device" } {} speedLabels "control/drive" "speed" (by decide)
    (by decide) (by decide) (by decide) (by decide) (by decide) (by decide) (by decide) (by decide) speed_listed).labels
  revert labels
  decide +kernel

end OpcUaAdapter
