import OpcUaAdapter.ExplicitMapping
import OpcUaAdapter.Library.FirstFound
import OpcUaAdapter.Proofs.ExcludeCoverage
import OpcUaAdapter.Proofs.MapReloading

/-! The histories of the variables before and after a map file that assigns them is loaded
and saved. An entry of a variable comes before those of folders, of which the first counts. -/

namespace OpcUaAdapter.Generator
open Effects XMLDirectory

namespace MapDocument

variable (document : MapDocument)

def variableHistory (source : Text) : Option Text :=
  document.processVariables.findSome? fun pv => if pv.sourceName = some source then given pv.history else none

def folderHistory (source : Text) : Option Text :=
  document.folders.findSome? fun folder =>
    folder.sourceName.bind fun directory =>
      if (directory ++ "/".toList).isPrefixOf source then given folder.history else none

/-- The history a variable gets: that of its own entry, or else that of a folder. -/
def effectiveHistory (source : Text) : Option Text :=
  (document.variableHistory source).or (document.folderHistory source)

def lastVariableHistory (source : Text) : Option Text :=
  document.processVariables.reverse.findSome? fun pv => if pv.sourceName = some source then given pv.history else none

def directoryHistory (names : List Text) : Option Text :=
  document.folders.reverse.findSome? fun folder =>
    if folder.sourceName = some (sourceOf names) then given folder.history else none

/-- The history of the innermost directory on the way to the root that has one while the
directory it lies in has none. -/
def topHistory : List Text → Option Text
  | [] => none
  | name :: above =>
    (if (document.directoryHistory above).isSome then none else document.directoryHistory (name :: above)).or
      (topHistory above)

def Uncopied (copy : Option Text) : Prop := toupper (getAttributeValueFromNode copy) ∈ [[], ("FALSE" : Text)]

/-- The entries only assign histories, to folders and variables of the application. -/
structure AssignsHistories (file : ApplicationFile) : Prop where
  folders : ∀ folder ∈ document.folders, folder.name = none ∧ folder.destination = none ∧ folder.description = none ∧
    Uncopied folder.copy ∧ (given folder.history).isSome ∧
    ∃ place above d, place ≠ [] ∧ Located file.root place above d ∧ folder.sourceName = some (sourceOf (d.name :: above))
  processVariables : ∀ pv ∈ document.processVariables, pv.name = none ∧ pv.destination = none ∧ pv.unit = none ∧
    pv.description = none ∧ Uncopied pv.copy ∧ (given pv.history).isSome ∧
    ∃ place name above, .var place name above ∈ file.nodes ∧ pv.sourceName = some (sourceOf (name :: above))
  excludes : document.excludes = []

/-- What the condition on the file is for one variable: the first history it is given is
the one that is written. In the root directory none is, in a directory with a history that
of a directory. -/
def HistoryKept (name : Text) (above : List Text) : Prop :=
  match document.variableHistory (sourceOf (name :: above)) with
  | some history =>
    if above = ["root".toList] ∨ (document.directoryHistory above).isSome then document.topHistory above = some history
    else document.lastVariableHistory (sourceOf (name :: above)) = some history
  | none => document.folderHistory (sourceOf (name :: above)) = document.topHistory above

instance (name : Text) (above : List Text) : Decidable (document.HistoryKept name above) :=
  match found : document.variableHistory (sourceOf (name :: above)) with
  | some history => decidable_of_iff
      (if above = ["root".toList] ∨ (document.directoryHistory above).isSome then document.topHistory above = some history
        else document.lastVariableHistory (sourceOf (name :: above)) = some history)
      (by rw [HistoryKept, found])
  | none => decidable_of_iff (document.folderHistory (sourceOf (name :: above)) = document.topHistory above)
      (by rw [HistoryKept, found])

end MapDocument

private theorem given_eq_self {value : Option Text} (filled : (given value).isSome) : given value = value := by
  rcases value with _ | _ | _
  · rfl
  · cases filled
  · rfl

section Loading

variable {file : ApplicationFile} {f : MapDocument} (named : file.root.wellNamed = true)

include named

theorem source_eq_iff {place other : Place} {above higher : List Text} {d c : XMLDirectory}
    (here : Located file.root place above d) (there : Located file.root other higher c) (filled : other ≠ []) :
    sourceOf (c.name :: higher) = sourceOf (d.name :: above) ↔ other = place := by
  constructor
  · intro same
    have below : place ≠ [] := by
      rintro rfl
      cases here
      obtain ⟨inner, names, within, proper⟩ := directory_names named there filled
      rw [names] at same
      exact sourceOf_start within proper "root".toList same
    refine there.place_eq named here (Paths.join_inj (there.proper named file.root_plain)
      (here.proper named file.root_plain) ?_)
    change pathOf _ = pathOf _
    rw [← directory_source named there filled, ← directory_source named here below, same]
  · rintro rfl
    obtain ⟨rfl, rfl⟩ := there.unique here
    rfl

private theorem folderTarget_source {folder : FolderEntry} {place : Place} {above : List Text} {d : XMLDirectory}
    (here : Located file.root place above d) (below : place ≠ [])
    (source : folder.sourceName = some (sourceOf (d.name :: above))) :
    folderTarget file.root folder = some { place, name := d.name, path := pathOf (d.name :: above) } := by
  unfold folderTarget folderSource rootFindDir
  rw [source]
  dsimp only [Option.bind_some]
  rw [directory_source named here below]
  exact here.findDir named file.root_plain

variable (assigns : f.AssignsHistories file)

include assigns

private theorem folderPlace_iff {folder : FolderEntry} (member : folder ∈ f.folders) {place : Place} {above : List Text}
    {d : XMLDirectory} (here : Located file.root place above d) :
    folderPlace file.root folder = some place ↔ folder.sourceName = some (sourceOf (d.name :: above)) := by
  obtain ⟨_, _, _, _, _, other, higher, c, filled, there, source⟩ := assigns.folders folder member
  rw [folderPlace, folderTarget_source named there filled source, source, Option.map_some, Option.some.injEq,
    Option.some.injEq, source_eq_iff named here there filled]

omit named in
private theorem foldersFor_sameChanges (place : Place) (d : DirectoryOptions) :
    ((foldersFor file.root f place).foldl (fun d folder => folderStep file.root folder d) d).SameChanges d := by
  have plain : ∀ folder ∈ foldersFor file.root f place, folder ∈ f.folders := fun folder member =>
    (List.mem_filter.mp member).1
  generalize foldersFor file.root f place = folders at plain
  induction folders generalizing d with
  | nil => exact ⟨rfl, rfl, rfl⟩
  | cons folder rest ih =>
    obtain ⟨here, others⟩ := List.forall_mem_cons.mp plain
    obtain ⟨name, description, destination⟩ := ih (folderStep file.root folder d) others
    obtain ⟨noName, noDestination, noDescription, _, _, _, _, _, _, _, source⟩ := assigns.folders folder here
    have step : (folderStep file.root folder d).SameChanges d := by
      unfold folderStep folderChange afterFolder
      cases folderTarget file.root folder with
      | none => exact ⟨rfl, rfl, rfl⟩
      | some found => simp [DirectoryOptions.SameChanges, source, noName, noDestination, noDescription]
    exact ⟨name.trans step.1, description.trans step.2.1, destination.trans step.2.2⟩

private theorem loaded_dir {place : Place} {above : List Text} {d : XMLDirectory} (here : Located file.root place above d) :
    (loadEntries file.root f {}).dir place = { historizing := f.directoryHistory (d.name :: above) } := by
  have unmarked : dirExcludesFor file.root f place = [] := by rw [dirExcludesFor, assigns.excludes]; rfl
  obtain ⟨name, description, destination⟩ := foldersFor_sameChanges assigns place {}
  have exclude := KeyedUpdates.foldl_same (folderStep_exclude file.root) (foldersFor file.root f place) {}
  have historizing := KeyedUpdates.foldl_last (folderStep_historizing file.root) (foldersFor file.root f place) {}
  have last : f.directoryHistory (d.name :: above) = ((foldersFor file.root f place).reverse.findSome? fun folder =>
      if folder.sourceName.isSome ∧ (folderTarget file.root folder).isSome then folder.history else none) := by
    rw [MapDocument.directoryHistory, foldersFor, ← List.filter_reverse]
    refine FirstFound.findSome?_filter (fun folder member found => ?_) fun folder member other => ?_
    · have place_found := of_decide_eq_true found
      have source := (folderPlace_iff named assigns (List.mem_reverse.mp member) here).mp place_found
      have target : (folderTarget file.root folder).isSome := by
        obtain ⟨_, shape, _⟩ := Option.map_eq_some_iff.mp place_found
        rw [shape]
        rfl
      rw [if_pos source, if_pos ⟨by rw [source]; rfl, target⟩]
      exact given_eq_self (assigns.folders folder (List.mem_reverse.mp member)).2.2.2.2.1
    · have missing := of_decide_eq_false other
      rw [folderPlace_iff named assigns (List.mem_reverse.mp member) here] at missing
      rw [if_neg missing]
  rw [loadEntries_dir, unmarked, List.foldl_nil, DirectoryOptions.ext_iff]
  exact ⟨exclude, historizing.trans (by rw [last]; exact Option.or_none), name, description, destination⟩

omit assigns

private theorem variable_source_start {place : Place} {above : List Text} {d : XMLDirectory} {var : XMLVar}
    (here : Located file.root place above d) (inside : var ∈ d.vars) (rest : Text) :
    sourceOf (var.name :: d.name :: above) ≠ '/' :: rest := by
  obtain ⟨inner, names, filled, proper⟩ := variable_names named here inside
  rw [names]
  exact sourceOf_start filled proper rest

theorem strip_source {place : Place} {above : List Text} {d : XMLDirectory} {var : XMLVar}
    (here : Located file.root place above d) (inside : var ∈ d.vars) :
    strip (sourceOf (var.name :: d.name :: above)) '/' = sourceOf (var.name :: d.name :: above) := by
  have start := variable_source_start named here inside
  obtain ⟨named_var, plain⟩ := properName_iff.mp ((wellNamed_spec (here.wellNamed named)).vars_proper var inside)
  have finish : (sourceOf (var.name :: d.name :: above)).getLast? ≠ some '/' := by
    intro slash
    have source := congrArg List.getLast? (variable_source named here inside)
    rw [List.getLast?_append, slash, pathOf_cons, childPath, List.getLast?_append, List.getLast?_cons,
      List.getLast?_eq_some_getLast named_var] at source
    exact plain ((Option.some.inj source) ▸ List.getLast_mem named_var)
  unfold strip
  rw [List.dropWhile_eq_self_iff.mpr ?_, List.rdropWhile_eq_self_iff.mpr ?_]
  · intro nonempty slash
    rw [List.getLast?_eq_some_getLast nonempty] at finish
    exact finish (congrArg some (of_decide_eq_true slash))
  · intro inside slash
    generalize sourceOf (var.name :: d.name :: above) = text at *
    cases text with
    | nil => cases inside
    | cons c rest => exact start rest (congrArg (· :: rest) (of_decide_eq_true slash))

private theorem variableTarget_source {pv : ProcessVariableEntry} {place : Place × Nat} {name : Text} {above : List Text}
    (member : .var place name above ∈ file.nodes) (source : pv.sourceName = some (sourceOf (name :: above))) :
    variableTarget file.root pv = some { place, name } := by
  obtain ⟨d, var, higher, here, rfl, inside, rfl⟩ := mem_nodes_iff.mp member
  unfold variableTarget rootFindVar
  rw [source, Option.bind_some, strip_source named here (List.mem_of_getElem? inside),
    variable_source named here (List.mem_of_getElem? inside)]
  exact here.findVar inside named file.root_plain

omit named in
private theorem variable_unique {place : Place × Nat} {name other : Text} {above higher : List Text}
    (here : .var place name above ∈ file.nodes) (there : .var place other higher ∈ file.nodes) :
    name = other ∧ above = higher := by
  obtain ⟨d, var, outer, located, rfl, inside, rfl⟩ := mem_nodes_iff.mp here
  obtain ⟨c, v, up, found, rfl, within, rfl⟩ := mem_nodes_iff.mp there
  obtain ⟨rfl, rfl⟩ := located.unique found
  obtain rfl := Option.some.inj (inside.symm.trans within)
  exact ⟨rfl, rfl⟩

theorem variable_place_eq {place other : Place × Nat} {name own : Text} {above higher : List Text}
    (here : .var place name above ∈ file.nodes) (there : .var other own higher ∈ file.nodes)
    (same : sourceOf (name :: above) = sourceOf (own :: higher)) : place = other := by
  have first := @variableTarget_source file named { sourceName := some (sourceOf (name :: above)) } _ _ _ here rfl
  have second := @variableTarget_source file named { sourceName := some (sourceOf (name :: above)) } _ _ _ there
    (congrArg some same)
  exact congrArg VariableReference.place (Option.some.inj (first.symm.trans second))

include assigns

private theorem variablePlace_iff {pv : ProcessVariableEntry} (member : pv ∈ f.processVariables) {place : Place × Nat}
    {name : Text} {above : List Text} (here : .var place name above ∈ file.nodes) :
    variablePlace file.root pv = some place ↔ pv.sourceName = some (sourceOf (name :: above)) := by
  obtain ⟨_, _, _, _, _, _, other, own, higher, there, source⟩ := assigns.processVariables pv member
  constructor
  · intro found
    rw [variablePlace, variableTarget_source named there source, Option.map_some, Option.some.injEq] at found
    obtain rfl : other = place := found
    obtain ⟨rfl, rfl⟩ := variable_unique here there
    exact source
  · intro same
    rw [variablePlace, variableTarget_source named here same]
    rfl

omit named in
private theorem variablesFor_sameChanges (place : Place × Nat) {v : VarOptions} (start : v.SameChanges {}) :
    ((variablesFor file.root f place).foldl (fun v pv => variableStep file.root pv v) v).SameChanges {} := by
  have plain : ∀ pv ∈ variablesFor file.root f place, pv ∈ f.processVariables := fun pv member =>
    (List.mem_filter.mp member).1
  generalize variablesFor file.root f place = pvs at plain
  induction pvs generalizing v with
  | nil => exact start
  | cons pv rest ih =>
    obtain ⟨here, others⟩ := List.forall_mem_cons.mp plain
    obtain ⟨noName, noDestination, noUnit, noDescription, _⟩ := assigns.processVariables pv here
    have step : (variableStep file.root pv v).SameChanges {} := by
      unfold variableStep
      cases variableTarget file.root pv with
      | none => exact start
      | some found =>
        obtain ⟨newName, unit, description, destination⟩ := start
        simp [VarOptions.SameChanges, XMLVar.readProcessVariable, XMLVar.moveToRoot, XMLVar.assignVariable, noName,
          noDestination, noUnit, noDescription, newName, unit, description, destination]
    exact ih step others

private theorem loaded_var {place : Place × Nat} {name : Text} {above : List Text} (here : .var place name above ∈ file.nodes) :
    (loadEntries file.root f {}).var place = { historizing := f.lastVariableHistory (sourceOf (name :: above)) } := by
  have unmarked : varExcludesFor file.root f place = [] := by rw [varExcludesFor, assigns.excludes]; rfl
  obtain ⟨newName, unit, description, destination⟩ := @variablesFor_sameChanges _ _ assigns place {} ⟨rfl, rfl, rfl, rfl⟩
  have exclude := KeyedUpdates.foldl_same (variableStep_exclude file.root) (variablesFor file.root f place) {}
  have historizing := KeyedUpdates.foldl_last (variableStep_historizing file.root) (variablesFor file.root f place) {}
  have last : f.lastVariableHistory (sourceOf (name :: above)) = ((variablesFor file.root f place).reverse.findSome?
      fun pv => if (variableTarget file.root pv).isSome then pv.history else none) := by
    rw [MapDocument.lastVariableHistory, variablesFor, ← List.filter_reverse]
    refine FirstFound.findSome?_filter (fun pv member found => ?_) fun pv member other => ?_
    · have place_found := of_decide_eq_true found
      have source := (variablePlace_iff named assigns (List.mem_reverse.mp member) here).mp place_found
      have target : (variableTarget file.root pv).isSome := by
        obtain ⟨_, shape, _⟩ := Option.map_eq_some_iff.mp place_found
        rw [shape]
        rfl
      rw [if_pos source, if_pos target]
      exact given_eq_self (assigns.processVariables pv (List.mem_reverse.mp member)).2.2.2.2.2.1
    · have missing := of_decide_eq_false other
      rw [variablePlace_iff named assigns (List.mem_reverse.mp member) here] at missing
      rw [if_neg missing]
  rw [loadEntries_var, unmarked, List.foldl_nil, VarOptions.ext_iff]
  exact ⟨exclude, historizing.trans (by rw [last]; exact Option.or_none), newName, unit, description, destination⟩

end Loading

theorem ownEntries_history (name path : Text) (history : Option Text) (historizingActive excludeActive : Bool) :
    ownEntries name path { historizing := history } historizingActive excludeActive =
      ((activeHistory history historizingActive).map fun h => .folder
        { sourceName := some (removePrefix path "/root/"), copy := some "False", history := some h }).toList := by
  unfold ownEntries descriptionEntry changeEntry excludeEntry
  cases activeHistory history historizingActive <;> simp

private theorem generateMapEntry_history (var : XMLVar) (path : Text) (history : Option Text)
    (historizingActive excludeActive : Bool) :
    var.generateMapEntry { historizing := history } path historizingActive excludeActive =
      ((activeHistory history historizingActive).map fun h => .processVariable
        { sourceName := some (if removePrefix path "/root/" = [] then var.name
            else childPath (removePrefix path "/root/") var.name)
          copy := some "False", history := some h }).toList := by
  unfold XMLVar.generateMapEntry XMLVar.processVariableEntry excludeEntry
  cases activeHistory history historizingActive <;> simp

/-- The history the entries of a node give to a variable, by a folder entry or by one of its own. -/
def folderGives (source : Text) : MapEntry → Option Text
  | .folder folder => folder.sourceName.bind fun directory =>
      if (directory ++ "/".toList).isPrefixOf source then given folder.history else none
  | _ => none

def variableGives (source : Text) : MapEntry → Option Text
  | .processVariable pv => if pv.sourceName = some source then given pv.history else none
  | _ => none

private theorem folderHistory_eq (document : MapDocument) (source : Text) :
    document.folderHistory source = document.entries.findSome? (folderGives source) := by
  unfold MapDocument.folderHistory MapDocument.folders
  rw [FirstFound.findSome?_filterMap]
  congr 1
  funext entry
  cases entry <;> rfl

private theorem variableHistory_eq (document : MapDocument) (source : Text) :
    document.variableHistory source = document.entries.findSome? (variableGives source) := by
  unfold MapDocument.variableHistory MapDocument.processVariables
  rw [FirstFound.findSome?_filterMap]
  congr 1
  funext entry
  cases entry <;> rfl

private theorem save_entries {file : ApplicationFile} {s : MapGenerator} {g : MapDocument} (tree : s.dir = some file.root)
    (saved : s.save = .ok g) : g.entries = file.nodes.flatMap s.options.entriesOf := by
  rw [← ApplicationFile.mapEntries_eq]
  unfold MapGenerator.save at saved
  rw [tree] at saved
  cases config : s.createConfig with
  | error error =>
    rw [config] at saved
    cases saved
  | ok element =>
    rw [config] at saved
    cases saved
    rfl

private theorem findSome?_toList {value : Option α} (give : α → β) (found : β → Option γ) :
    (value.map give).toList.findSome? found = value.bind fun a => found (give a) := by
  cases value with
  | none => rfl
  | some a => exact List.findSome?_singleton

private theorem directoryHistory_given (document : MapDocument) (names : List Text) :
    given (document.directoryHistory names) = document.directoryHistory names := by
  cases history : document.directoryHistory names with
  | none => rfl
  | some h =>
    obtain ⟨folder, _, gives⟩ := List.exists_of_findSome?_eq_some history
    split at gives
    · rw [← gives, given_given]
    · cases gives

private theorem lastVariableHistory_given (document : MapDocument) (source : Text) :
    given (document.lastVariableHistory source) = document.lastVariableHistory source := by
  cases history : document.lastVariableHistory source with
  | none => rfl
  | some h =>
    obtain ⟨pv, _, gives⟩ := List.exists_of_findSome?_eq_some history
    split at gives
    · rw [← gives, given_given]
    · cases gives

section Saving

variable {file : ApplicationFile} {f : MapDocument} (named : file.root.wellNamed = true)
  (assigns : f.AssignsHistories file)

private theorem directory_source_filled (named : file.root.wellNamed = true) {place : Place} {above : List Text} {d : XMLDirectory}
    (here : Located file.root place above d) (below : place ≠ []) : sourceOf (d.name :: above) ≠ [] := by
  obtain ⟨inner, names, filled, proper⟩ := directory_names named here below
  intro nothing
  have path := congrArg List.length (directory_source named here below)
  rw [nothing, names, pathOf_append, List.append_nil, List.length_append] at path
  cases inner with
  | nil => exact filled rfl
  | cons name rest =>
    have letters := List.length_pos_of_ne_nil (properName_iff.mp (proper name List.mem_cons_self)).1
    have longer : (pathOf (name :: rest)).length = (pathOf rest).length + (name.length + 1) := by
      rw [pathOf_cons, childPath, List.length_append, List.length_cons]
    have root : (pathOf ["root".toList]).length = 5 := rfl
    have start : "/root/".toList.length = 6 := rfl
    omega

include assigns

omit named in

private theorem no_history {names : List Text} (other : ∀ place above d, place ≠ [] → Located file.root place above d →
    sourceOf (d.name :: above) ≠ sourceOf names) : f.directoryHistory names = none := by
  refine List.findSome?_eq_none_iff.mpr fun folder member => ?_
  obtain ⟨_, _, _, _, _, place, above, d, below, located, source⟩ := assigns.folders folder (List.mem_reverse.mp member)
  rw [if_neg]
  rw [source, Option.some.injEq]
  exact other place above d below located

include named

private theorem root_history : f.directoryHistory ["root".toList] = none := by
  refine no_history assigns fun place above d below located => ?_
  obtain ⟨inner, names, filled, proper⟩ := directory_names named located below
  rw [names]
  exact sourceOf_start filled proper "root".toList

private theorem nothing_history : f.directoryHistory [] = none :=
  no_history assigns fun _ _ _ below located => directory_source_filled named located below

variable {place : Place} {above : List Text} {d : XMLDirectory} (here : Located file.root place above d)
  {var : XMLVar} (inside : var ∈ d.vars)

include here inside

theorem directory_gives {other : Place} {higher : List Text} {c : XMLDirectory}
    (there : Located file.root other higher c) :
    ((loadEntries file.root f {}).entriesOf (.dir other c.name higher)).findSome?
        (folderGives (sourceOf (var.name :: d.name :: above))) =
      if other <:+ place ∧ (f.directoryHistory higher).isNone then f.directoryHistory (c.name :: higher) else none := by
  rw [Options.entriesOf, loaded_dir named assigns there, ownEntries_history, findSome?_toList]
  have given_history := directoryHistory_given f (c.name :: higher)
  have active : (loadEntries file.root f {}).historizingAbove other = (f.directoryHistory higher).isSome := by
    cases there with
    | root => rw [nothing_history named assigns]; rfl
    | child outer within => 
      rw [Options.historizingAbove, loaded_dir named assigns outer]
  rw [active, activeHistory, given_history]
  cases history : f.directoryHistory (c.name :: higher) with
  | none =>
    rw [ite_self, ite_self]
    rfl
  | some h =>
    rw [history] at given_history
    have below : other ≠ [] := by
      rintro rfl
      cases there
      cases history.symm.trans (root_history named assigns)
    cases f.directoryHistory higher with
    | some upper => simp
    | none =>
      have prefixed := directory_prefix_iff named here inside there below
      rw [← List.isPrefixOf_iff_prefix] at prefixed
      change (if (sourceOf (c.name :: higher) ++ "/".toList).isPrefixOf (sourceOf (var.name :: d.name :: above)) then
        given (some h) else none) = _
      rw [given_history]
      by_cases upwards : other <:+ place
      · rw [if_pos (prefixed.mpr upwards), if_pos ⟨upwards, rfl⟩]
      · rw [if_neg (mt prefixed.mp upwards), if_neg fun both => upwards both.1]

omit here inside in
theorem directory_gives_none {other : Place} {higher : List Text} {c : XMLDirectory}
    (there : Located file.root other higher c) (source : Text) :
    ((loadEntries file.root f {}).entriesOf (.dir other c.name higher)).findSome? (variableGives source) = none := by
  rw [Options.entriesOf, loaded_dir named assigns there, ownEntries_history, findSome?_toList]
  cases activeHistory _ _ <;> rfl

omit here inside assigns in
theorem written_source {q : Place} {higher : List Text} {c : XMLDirectory} (there : Located file.root q higher c)
    {v : XMLVar} (within : v ∈ c.vars) :
    (if removePrefix (pathOf (c.name :: higher)) "/root/" = [] then v.name
      else childPath (removePrefix (pathOf (c.name :: higher)) "/root/") v.name) =
      if q = [] then childPath rootPath v.name else sourceOf (v.name :: c.name :: higher) := by
  by_cases below : q = []
  · subst below
    cases there
    rfl
  · change (if sourceOf (c.name :: higher) = [] then v.name else childPath (sourceOf (c.name :: higher)) v.name) = _
    rw [if_neg below, if_neg (directory_source_filled named there below)]
    have path := variable_source named there within
    rw [pathOf_cons, childPath, ← directory_source named there below, List.append_assoc] at path
    exact (List.append_cancel_left path).symm

omit here inside in
private theorem variable_gives {q : Place × Nat} {name : Text} {higher : List Text} (there : .var q name higher ∈ file.nodes)
    (source : Text) :
    ((loadEntries file.root f {}).entriesOf (.var q name higher)).findSome? (variableGives source) =
      if (if q.1 = [] then childPath rootPath name else sourceOf (name :: higher)) = source ∧
        (f.directoryHistory higher).isNone then f.lastVariableHistory (sourceOf (name :: higher)) else none := by
  obtain ⟨c, v, outer, located, rfl, within, rfl⟩ := mem_nodes_iff.mp there
  rw [Options.entriesOf, loaded_var named assigns there, loaded_dir named assigns located, generateMapEntry_history,
    findSome?_toList, written_source named located (List.mem_of_getElem? within)]
  generalize (if q.1 = [] then childPath rootPath v.name else sourceOf (v.name :: c.name :: outer)) = written
  have given_history := lastVariableHistory_given f (sourceOf (v.name :: c.name :: outer))
  dsimp only
  rw [activeHistory, given_history]
  cases f.directoryHistory (c.name :: outer) with
  | some upper => simp
  | none =>
    cases history : f.lastVariableHistory (sourceOf (v.name :: c.name :: outer)) with
    | none =>
      rw [ite_self, ite_self]
      rfl
    | some h =>
      rw [history] at given_history
      change (if some written = some source then given (some h) else none) = _
      rw [given_history]
      simp

omit here inside in
private theorem variable_gives_none {q : Place × Nat} {name : Text} {higher : List Text}
    (there : .var q name higher ∈ file.nodes) (source : Text) :
    ((loadEntries file.root f {}).entriesOf (.var q name higher)).findSome? (folderGives source) = none := by
  rw [Options.entriesOf, loaded_var named assigns there, generateMapEntry_history, findSome?_toList]
  cases activeHistory _ _ <;> rfl

theorem pathNodes_gives {other : Place} {higher : List Text} {c : XMLDirectory}
    (there : Located file.root other higher c) (upwards : other <:+ place) :
    (pathNodes other (c.name :: higher)).findSome? (fun node =>
        ((loadEntries file.root f {}).entriesOf node).findSome? (folderGives (sourceOf (var.name :: d.name :: above)))) =
      f.topHistory (c.name :: higher) := by
  induction there with
  | root =>
    have gives := directory_gives named assigns here inside .root
    have nothing : f.directoryHistory [file.root.name] = none := root_history named assigns
    rw [pathNodes, pathNodes, List.findSome?_singleton, gives, nothing, ite_self, MapDocument.topHistory, nothing, ite_self]
    rfl
  | @child q up e c index outer within ih =>
    have gives := directory_gives named assigns here inside (.child outer within)
    have next : f.topHistory (c.name :: e.name :: up) = (if (f.directoryHistory (e.name :: up)).isSome then none
      else f.directoryHistory (c.name :: e.name :: up)).or (f.topHistory (e.name :: up)) := rfl
    rw [pathNodes, List.findSome?_cons, List.tail_cons, ih ((List.suffix_cons _ _).trans upwards), gives, next]
    cases f.directoryHistory (e.name :: up) with
    | some upper =>
      simp only [Option.isNone_some, Bool.false_eq_true, and_false, reduceIte, Option.isSome_some]
      rfl
    | none =>
      rw [if_pos ⟨upwards, rfl⟩]
      cases f.directoryHistory (c.name :: e.name :: up) <;> rfl

variable {g : MapDocument} (entries : g.entries = file.nodes.flatMap (loadEntries file.root f {}).entriesOf)

include entries

private theorem saved_folderHistory :
    g.folderHistory (sourceOf (var.name :: d.name :: above)) = f.topHistory (d.name :: above) := by
  rw [folderHistory_eq, entries, FirstFound.findSome?_flatMap, ← pathNodes_gives named assigns here inside here
    List.suffix_rfl, ← here.filter_nodes]
  refine FirstFound.findSome?_filter (fun _ _ _ => rfl) fun node member outside => ?_
  cases node with
  | dir other name higher =>
    obtain ⟨c, there, rfl⟩ := mem_nodes_iff.mp member
    rw [directory_gives named assigns here inside there, if_neg]
    rintro ⟨upwards, _⟩
    rw [TreeNode.contains, List.isSuffixOf_iff_suffix.mpr upwards] at outside
    cases outside
  | var other name higher => exact variable_gives_none named assigns member _

omit here inside in
private theorem saved_variableHistory {place : Place × Nat} {name : Text} {above : List Text}
    (member : .var place name above ∈ file.nodes) :
    g.variableHistory (sourceOf (name :: above)) =
      if above = ["root".toList] ∨ (f.directoryHistory above).isSome then none
      else f.lastVariableHistory (sourceOf (name :: above)) := by
  rw [variableHistory_eq, entries, FirstFound.findSome?_flatMap, FirstFound.findSome?_only member]
  · rw [variable_gives named assigns member]
    obtain ⟨d, var, higher, here, rfl, inside, rfl⟩ := mem_nodes_iff.mp member
    by_cases root : place.1 = []
    · rw [root] at here
      cases here
      have start := variable_source_start named .root (List.mem_of_getElem? inside)
      rw [if_pos root, if_neg fun both => start _ both.1.symm, if_pos (.inl rfl)]
    · have below : d.name :: higher ≠ ["root".toList] := fun same => root (here.place_eq named .root same)
      rw [if_neg root]
      cases f.directoryHistory (d.name :: higher) with
      | none =>
        have outside : ¬ (d.name :: higher = ["root".toList] ∨ (none : Option Text).isSome = true) := by
          rintro (same | impossible)
          · exact below same
          · cases impossible
        rw [if_pos ⟨rfl, rfl⟩, if_neg outside]
      | some history => simp
  · intro node there other
    cases node with
    | dir q own higher =>
      obtain ⟨c, located, rfl⟩ := mem_nodes_iff.mp there
      exact directory_gives_none named assigns located _
    | var q own higher =>
      rw [variable_gives named assigns there, if_neg]
      rintro ⟨same, _⟩
      split at same
      · obtain ⟨d, var, outer, here, rfl, inside, rfl⟩ := mem_nodes_iff.mp member
        exact variable_source_start named here (List.mem_of_getElem? inside) _ same.symm
      · obtain rfl := variable_place_eq named there member same
        obtain ⟨rfl, rfl⟩ := variable_unique there member
        exact other rfl

omit here inside in
theorem saved_effectiveHistory {place : Place × Nat} {name : Text} {above : List Text}
    (member : .var place name above ∈ file.nodes) :
    g.effectiveHistory (sourceOf (name :: above)) =
      (if above = ["root".toList] ∨ (f.directoryHistory above).isSome then none
        else f.lastVariableHistory (sourceOf (name :: above))).or (f.topHistory above) := by
  rw [MapDocument.effectiveHistory, saved_variableHistory named assigns entries member]
  obtain ⟨d, var, higher, here, rfl, inside, rfl⟩ := mem_nodes_iff.mp member
  rw [saved_folderHistory named assigns here (List.mem_of_getElem? inside) entries]

end Saving

theorem lastVariableHistory_isSome (document : MapDocument) (source : Text) :
    (document.lastVariableHistory source).isSome = (document.variableHistory source).isSome := by
  rw [Bool.eq_iff_iff]
  unfold MapDocument.lastVariableHistory MapDocument.variableHistory
  simp only [List.findSome?_isSome_iff, List.mem_reverse]

private theorem historyKept_iff {f g : MapDocument} {name : Text} {above : List Text}
    (saved : g.effectiveHistory (sourceOf (name :: above)) =
      (if above = ["root".toList] ∨ (f.directoryHistory above).isSome then none
        else f.lastVariableHistory (sourceOf (name :: above))).or (f.topHistory above)) :
    g.effectiveHistory (sourceOf (name :: above)) = f.effectiveHistory (sourceOf (name :: above)) ↔
      f.HistoryKept name above := by
  have last := lastVariableHistory_isSome f (sourceOf (name :: above))
  rw [saved, MapDocument.HistoryKept, MapDocument.effectiveHistory]
  cases own : f.variableHistory (sourceOf (name :: above)) with
  | none =>
    rw [own, Option.isSome_none, Option.isSome_eq_false_iff, Option.isNone_iff_eq_none] at last
    rw [last, ite_self, Option.none_or, Option.none_or]
    exact eq_comm
  | some history =>
    rw [own] at last
    obtain ⟨final, written⟩ := Option.isSome_iff_exists.mp last
    rw [Option.some_or, written]
    dsimp only
    split
    · rw [Option.none_or]
    · rw [Option.some_or]

/-- Loading and saving a file that assigns histories keeps that of every variable exactly
when the first one it is given is the one that is written. -/
theorem MapGenerator.histories_kept_iff {file : ApplicationFile} (named : file.root.wellNamed = true)
    {f g : MapDocument} {counts : List Nat} {after : MapGenerator} (assigns : f.AssignsHistories file)
    (loads : outcome (parseMapFile (some f)) file.parseChimeraTK = (.ok counts, after)) (saved : after.save = .ok g) :
    (∀ place name above, .var place name above ∈ file.nodes →
      g.effectiveHistory (sourceOf (name :: above)) = f.effectiveHistory (sourceOf (name :: above))) ↔
    ∀ place name above, .var place name above ∈ file.nodes → f.HistoryKept name above := by
  obtain ⟨_, _, rfl⟩ := (parseMapFile_ok rfl).mp loads
  have entries : g.entries = file.nodes.flatMap (loadEntries file.root f {}).entriesOf := save_entries rfl saved
  refine forall_congr' fun place => forall_congr' fun name => forall_congr' fun above => forall_congr' fun member => ?_
  exact historyKept_iff (saved_effectiveHistory named assigns entries member)

def historyFile (folders : List (Text × Text)) : MapDocument where
  entries := folders.map fun entry => .folder { sourceName := some entry.1, history := some entry.2 }

private theorem historyFile_assigns {file : ApplicationFile} {folders : List (Text × Text)}
    (each : ∀ entry ∈ folders, (given (some entry.2)).isSome ∧ ∃ place name above,
      place ≠ [] ∧ .dir place name above ∈ file.nodes ∧ entry.1 = sourceOf (name :: above)) :
    (historyFile folders).AssignsHistories file := by
  have read : (historyFile folders).folders = folders.map fun entry =>
      { sourceName := some entry.1, history := some entry.2 } := by
    unfold MapDocument.folders historyFile
    rw [List.filterMap_map]
    exact congrFun List.filterMap_eq_map folders
  have others {γ : Type} {select : MapEntry → Option γ} (none_selected : ∀ folder, select (.folder folder) = none) :
      (historyFile folders).entries.filterMap select = [] := by
    unfold historyFile
    rw [List.filterMap_map, List.filterMap_eq_nil_iff]
    exact fun entry _ => none_selected _
  refine ⟨fun folder member => ?_, fun pv member => ?_, others fun _ => rfl⟩
  · rw [read] at member
    obtain ⟨entry, there, rfl⟩ := List.mem_map.mp member
    obtain ⟨filled, place, name, above, below, node, source⟩ := each entry there
    obtain ⟨d, located, rfl⟩ := mem_nodes_iff.mp node
    exact ⟨rfl, rfl, rfl, List.mem_cons_self, filled, place, above, d, below, located, congrArg some source⟩
  · rw [MapDocument.processVariables, others fun _ => rfl] at member
    cases member

theorem drive_histories_kept :
    ∃ g, (loaded driveApplication.root (historyFile [("control/drive", "fast")]) driveApplication.parseChimeraTK).save =
      .ok g ∧ ∀ place name above, .var place name above ∈ driveApplication.nodes →
        g.effectiveHistory (sourceOf (name :: above)) =
          (historyFile [("control/drive", "fast")]).effectiveHistory (sourceOf (name :: above)) := by
  have assigns : (historyFile [("control/drive", "fast")]).AssignsHistories driveApplication := by
    refine historyFile_assigns (List.forall_mem_singleton.mpr ⟨rfl, [0, 0], "drive", ["control", "root"], ?_, ?_, ?_⟩)
    all_goals decide
  have readable : Loadable driveApplication.root (historyFile [("control/drive", "fast")]) :=
    ⟨rfl, by rintro element ⟨⟩, by decide⟩
  refine ⟨_, rfl, (MapGenerator.histories_kept_iff (by decide) assigns ((parseMapFile_ok rfl).mpr ⟨readable, rfl, rfl⟩)
    rfl).mpr fun place name above member => ?_⟩
  have kept : ∀ names ∈ driveApplication.nodes.filterMap (fun
      | .var _ name above => some (name, above)
      | .dir _ _ _ => none), (historyFile [("control/drive", "fast")]).HistoryKept names.1 names.2 := by
    decide +kernel
  exact kept (name, above) (List.mem_filterMap.mpr ⟨_, member, rfl⟩)

/-- The entry of the drive comes first in the file and is not written again. -/
theorem drive_history_lost : ¬ ∀ (file : ApplicationFile) (f g : MapDocument) (counts : List Nat) (after : MapGenerator),
    file.root.wellNamed = true → f.AssignsHistories file →
    outcome (MapGenerator.parseMapFile (some f)) file.parseChimeraTK = (.ok counts, after) → after.save = .ok g →
    ∀ place name above, .var place name above ∈ file.nodes →
      g.effectiveHistory (sourceOf (name :: above)) = f.effectiveHistory (sourceOf (name :: above)) := by
  intro kept
  have assigns : (historyFile [("control/drive", "short"), ("control", "long")]).AssignsHistories driveApplication := by
    refine historyFile_assigns (List.forall_mem_cons.mpr ⟨⟨rfl, [0, 0], "drive", ["control", "root"], ?_, ?_, ?_⟩,
      List.forall_mem_singleton.mpr ⟨rfl, [0], "control", ["root"], ?_, ?_, ?_⟩⟩)
    all_goals decide
  have readable : Loadable driveApplication.root (historyFile [("control/drive", "short"), ("control", "long")]) :=
    ⟨rfl, by rintro element ⟨⟩, by decide⟩
  have speed := kept driveApplication _ _ _ _ (by decide) assigns ((parseMapFile_ok rfl).mpr ⟨readable, rfl, rfl⟩) rfl
    ([0, 0], 0) "speed" ["drive", "control", "root"] (by decide)
  revert speed
  decide +kernel

end OpcUaAdapter.Generator
