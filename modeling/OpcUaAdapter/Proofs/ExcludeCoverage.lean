import OpcUaAdapter.Proofs.GeneratorNames

/-! The variables that the exclude entries of a saved map cover, and those that are marked
or lie below a marked directory. -/

namespace OpcUaAdapter.Generator
open XMLDirectory

def excludeNames (entries : List MapEntry) : List Text :=
  entries.filterMap fun | .exclude entry => entry.sourceName | _ => none

/-- An entry `p` covers the variable `p`, and an entry `d/*` every variable below `d`. -/
def Covers (entry source : Text) : Prop :=
  entry = source ∨ ∃ d : Text, entry = d ++ "/*".toList ∧ d ++ "/".toList <+: source

/-- The entries of a saved map that belong to the tree. -/
def ApplicationFile.mapEntries (file : ApplicationFile) (options : Options) : List MapEntry :=
  file.root.generateMapEntries options (childPath [] file.root.name) [] false false

def ApplicationFile.nodes (file : ApplicationFile) : List TreeNode := XMLDirectory.nodes [] [] file.root

theorem ApplicationFile.mapEntries_eq (file : ApplicationFile) (options : Options) :
    file.mapEntries options = file.nodes.flatMap options.entriesOf :=
  generateMapEntries_eq options [] [] file.root

theorem ApplicationFile.root_plain (file : ApplicationFile) : '/' ∉ file.root.name :=
  (by decide : '/' ∉ "root".toList)

namespace Options

variable (options : Options)

/-- The variable is marked itself or lies below a marked directory. -/
def Unwanted (place : Place × Nat) : Prop :=
  (options.var place).exclude = some true ∨ ∃ q, q <:+ place.1 ∧ (options.dir q).exclude = some true

/-- An entry is written for a marked directory whose parent has no flag. The one of the
root names no variable. -/
def WritesDir (place : Place) : Prop :=
  place ≠ [] ∧ (options.dir place).exclude = some true ∧ (options.dir place.tail).exclude = none

def WritesVar (place : Place × Nat) : Prop :=
  (options.var place).exclude = some true ∧ (options.dir place.1).exclude = none

end Options

private theorem excludeNames_flatMap (nodes : List TreeNode) (options : Options) (source : Text) :
    source ∈ excludeNames (nodes.flatMap options.entriesOf) ↔
      ∃ node ∈ nodes, source ∈ excludeNames (options.entriesOf node) := by
  simp only [excludeNames, List.mem_filterMap, List.mem_flatMap]
  constructor
  · rintro ⟨entry, ⟨node, member, inside⟩, shape⟩
    exact ⟨node, member, entry, inside, shape⟩
  · rintro ⟨node, member, entry, inside, shape⟩
    exact ⟨entry, ⟨node, member, inside⟩, shape⟩

private theorem excludeNames_ownEntries (name path : Text) (own : DirectoryOptions) (historiszingActive excludeActive : Bool) :
    excludeNames (ownEntries name path own historiszingActive excludeActive) =
      if own.exclude = some true ∧ ¬ excludeActive then [removePrefix path "/root/" ++ "/*"] else [] := by
  have folders (entries : List FolderEntry) : excludeNames (entries.map .folder) = [] := by
    simp [excludeNames, List.filterMap_map]
  unfold ownEntries
  unfold excludeNames at folders ⊢
  rw [List.filterMap_append, folders, List.append_nil, excludeEntry]
  split <;> rfl

private theorem excludeNames_generateMapEntry (var : XMLVar) (own : VarOptions) (path : Text)
    (historizingActive excludeActive : Bool) :
    excludeNames (var.generateMapEntry own path historizingActive excludeActive) =
      if own.exclude = some true ∧ ¬ excludeActive then [removePrefix (childPath path var.name) "/root/"] else [] := by
  have others (entries : List ProcessVariableEntry) : excludeNames (entries.map .processVariable) = [] := by
    simp [excludeNames, List.filterMap_map]
  unfold XMLVar.generateMapEntry
  unfold excludeNames at others ⊢
  rw [List.filterMap_append, others, List.append_nil, excludeEntry]
  split <;> rfl

section

variable {file : ApplicationFile} {place other : Place} {above higher : List Text} {d c : XMLDirectory}
  (named : file.root.wellNamed = true) (here : Located file.root place above d)

include named here

theorem directory_names (below : place ≠ []) :
    ∃ inner, d.name :: above = inner ++ ["root".toList] ∧ inner ≠ [] ∧ ∀ name ∈ inner, properName name = true := by
  obtain ⟨inner, names, length, proper⟩ := here.names named
  refine ⟨inner, names, ?_, proper⟩
  rintro rfl
  exact below (List.eq_nil_of_length_eq_zero length.symm)

theorem directory_source (below : place ≠ []) :
    "/root/".toList ++ sourceOf (d.name :: above) = pathOf (d.name :: above) := by
  obtain ⟨inner, names, filled, _⟩ := directory_names named here below
  rw [names]
  exact root_sourceOf filled

variable {var : XMLVar} (inside : var ∈ d.vars)

include inside

theorem variable_names :
    ∃ inner, var.name :: d.name :: above = inner ++ ["root".toList] ∧ inner ≠ [] ∧
      ∀ name ∈ inner, properName name = true := by
  obtain ⟨inner, names, _, proper⟩ := here.names named
  refine ⟨var.name :: inner, by rw [names]; rfl, by simp, List.forall_mem_cons.mpr ⟨?_, proper⟩⟩
  exact (wellNamed_spec (here.wellNamed named)).vars_proper var inside

theorem variable_source :
    "/root/".toList ++ sourceOf (var.name :: d.name :: above) = pathOf (var.name :: d.name :: above) := by
  obtain ⟨inner, names, filled, _⟩ := variable_names named here inside
  rw [names]
  exact root_sourceOf filled

private theorem variable_plain : Paths.Plain '/' (var.name :: d.name :: above) := by
  refine List.forall_mem_cons.mpr ⟨?_, here.proper named file.root_plain⟩
  exact (properName_iff.mp ((wellNamed_spec (here.wellNamed named)).vars_proper var inside)).2

/-- The source of a directory and a slash start the source of the variables below it, and of no others. -/
theorem directory_prefix_iff (there : Located file.root other higher c) (below : other ≠ []) :
    sourceOf (c.name :: higher) ++ "/".toList <+: sourceOf (var.name :: d.name :: above) ↔ other <:+ place := by
  rw [← here.suffix_iff named there, ← List.prefix_append_right_inj "/root/".toList, ← List.append_assoc,
    directory_source named there below, variable_source named here inside]
  change Paths.join '/' (c.name :: higher) ++ ['/'] <+: Paths.join '/' (var.name :: d.name :: above) ↔ _
  rw [Paths.join_separator_prefix_iff (there.proper named file.root_plain) (variable_plain named here inside)]
  constructor
  · rintro ⟨name, between, names⟩
    exact ⟨between, (List.cons.inj names).2.symm⟩
  · rintro ⟨between, names⟩
    exact ⟨var.name, between, by rw [List.cons_append, names]⟩

theorem covers_directory_iff (there : Located file.root other higher c) (below : other ≠ []) :
    Covers (sourceOf (c.name :: higher) ++ "/*".toList) (sourceOf (var.name :: d.name :: above)) ↔ other <:+ place := by
  rw [← directory_prefix_iff named here inside there below]
  constructor
  · rintro (same | ⟨text, same, start⟩)
    · exact ⟨"*".toList, by rw [← same, List.append_assoc]; rfl⟩
    · rwa [List.append_cancel_right same]
  · exact fun start => .inr ⟨_, rfl, start⟩

theorem not_covers_root : ¬ Covers (removePrefix rootPath "/root/" ++ "/*".toList) (sourceOf (var.name :: d.name :: above)) := by
  obtain ⟨inner, names, filled, proper⟩ := variable_names named here inside
  have start := sourceOf_start filled proper
  rw [← names] at start
  rintro (same | ⟨text, same, rest, whole⟩)
  · exact start "root/*".toList same.symm
  · have slash : text = "/root".toList := (List.append_cancel_right same).symm
    exact start ("root/".toList ++ rest) (by rw [← whole, slash]; rfl)

theorem covers_variable_iff (there : Located file.root other higher c) {v : XMLVar} (within : v ∈ c.vars) :
    Covers (sourceOf (v.name :: c.name :: higher)) (sourceOf (var.name :: d.name :: above)) ↔
      v.name :: c.name :: higher = var.name :: d.name :: above ∨ v.name = "*".toList ∧ other ≠ [] ∧ other <:+ place := by
  have own := variable_source named there within
  constructor
  · rintro (same | ⟨text, same, start⟩)
    · left
      refine Paths.join_inj (variable_plain named there within) (variable_plain named here inside) ?_
      change pathOf _ = pathOf _
      rw [← own, same, variable_source named here inside]
    · right
      rw [same] at own
      have split : pathOf (c.name :: higher) ++ '/' :: v.name = ("/root/".toList ++ text) ++ '/' :: "*".toList := by
        rw [List.append_assoc]
        exact own.symm
      obtain ⟨directory, star⟩ := Paths.append_separator_inj (variable_plain named there within _ List.mem_cons_self)
        (by decide) split
      have below : other ≠ [] := by
        rintro rfl
        cases there
        have := congrArg List.length directory
        rw [List.length_append] at this
        have : (pathOf [file.root.name]).length = 5 := rfl
        have : "/root/".toList.length = 6 := rfl
        omega
      refine ⟨star, below, (directory_prefix_iff named here inside there below).mp ?_⟩
      rw [← directory_source named there below] at directory
      rwa [List.append_cancel_left directory]
  · rintro (same | ⟨star, below, upwards⟩)
    · exact .inl (congrArg sourceOf same)
    · refine .inr ⟨sourceOf (c.name :: higher), ?_, (directory_prefix_iff named here inside there below).mpr upwards⟩
      have split : pathOf (v.name :: c.name :: higher) = pathOf (c.name :: higher) ++ "/*".toList := by
        rw [star]
        rfl
      rw [split, ← directory_source named there below, List.append_assoc] at own
      exact List.append_cancel_left own

end

/-- An entry is written for the variable, for a directory above it, or for a variable called
`*` of a directory above it. -/
def ApplicationFile.Reached (file : ApplicationFile) (options : Options) (place : Place × Nat) : Prop :=
  options.WritesVar place ∨ (∃ q, q <:+ place.1 ∧ options.WritesDir q) ∨
    ∃ star above, .var star "*" above ∈ file.nodes ∧ star.1 ≠ [] ∧ star.1 <:+ place.1 ∧ options.WritesVar star

private theorem Options.excludeAbove_eq {options : Options} {place : Place} (below : place ≠ []) :
    options.excludeAbove place = (options.dir place.tail).exclude.isSome := by
  cases place with
  | nil => exact absurd rfl below
  | cons index above => rfl

private theorem covered_iff {file : ApplicationFile} (named : file.root.wellNamed = true) (options : Options)
    {place : Place × Nat} {name : Text} {above : List Text} (member : .var place name above ∈ file.nodes) :
    (∃ entry ∈ excludeNames (file.mapEntries options), Covers entry (sourceOf (name :: above))) ↔
      file.Reached options place := by
  obtain ⟨d, var, outer, here, rfl, inside, rfl⟩ := mem_nodes_iff.mp member
  have var_mem := List.mem_of_getElem? inside
  rw [file.mapEntries_eq]
  simp only [excludeNames_flatMap]
  constructor
  · rintro ⟨entry, ⟨node, nodeMember, written⟩, covers⟩
    cases node with
    | dir q own higher =>
      obtain ⟨c, there, rfl⟩ := mem_nodes_iff.mp nodeMember
      rw [Options.entriesOf, excludeNames_ownEntries] at written
      split at written
      next marked =>
        rw [List.mem_singleton.mp written] at covers
        by_cases below : q = []
        · subst below
          cases there
          exact absurd covers (not_covers_root named here var_mem)
        · rw [Options.excludeAbove_eq below] at marked
          exact .inr (.inl ⟨q, (covers_directory_iff named here var_mem there below).mp covers, below, marked.1,
            by simpa using marked.2⟩)
      next => cases written
    | var q own higher =>
      obtain ⟨c, v, up, there, rfl, within, rfl⟩ := mem_nodes_iff.mp nodeMember
      rw [Options.entriesOf, excludeNames_generateMapEntry] at written
      split at written
      next marked =>
        have writes : options.WritesVar q := ⟨marked.1, by simpa using marked.2⟩
        rw [List.mem_singleton.mp written] at covers
        rcases (covers_variable_iff named here var_mem there (List.mem_of_getElem? within)).mp covers with
          same | ⟨star, below, upwards⟩
        · have found := there.findVar within named file.root_plain
          rw [same, here.findVar inside named file.root_plain] at found
          have places : place = q := congrArg VariableReference.place (Option.some.inj found)
          exact .inl (places ▸ writes)
        · exact .inr (.inr ⟨q, _, star ▸ nodeMember, below, upwards, writes⟩)
      next => cases written
  · rintro (⟨marked, unset⟩ | ⟨q, upwards, below, marked, unset⟩ | ⟨star, higher, starMember, below, upwards, marked, unset⟩)
    · refine ⟨sourceOf (var.name :: d.name :: outer), ⟨_, member, ?_⟩, .inl rfl⟩
      rw [Options.entriesOf, excludeNames_generateMapEntry, if_pos ⟨marked, by simp [unset]⟩]
      exact List.mem_singleton_self _
    · obtain ⟨higher, c, there⟩ := here.suffix upwards
      refine ⟨sourceOf (c.name :: higher) ++ "/*".toList, ⟨_, there.directory_mem, ?_⟩,
        (covers_directory_iff named here var_mem there below).mpr upwards⟩
      rw [Options.entriesOf, excludeNames_ownEntries, Options.excludeAbove_eq below, if_pos ⟨marked, by simp [unset]⟩]
      exact List.mem_singleton_self _
    · obtain ⟨c, v, up, there, rfl, within, star_name⟩ := mem_nodes_iff.mp starMember
      refine ⟨sourceOf (v.name :: c.name :: up), ⟨_, starMember, ?_⟩,
        (covers_variable_iff named here var_mem there (List.mem_of_getElem? within)).mpr
          (.inr ⟨star_name, below, upwards⟩)⟩
      rw [Options.entriesOf, excludeNames_generateMapEntry, if_pos ⟨marked, by simp [unset]⟩, star_name]
      exact List.mem_singleton_self _

/-- The exclude entries cover the variables that are marked or below a marked directory, and
no others, exactly when each of these is reached by an entry and a marked variable called `*`
has only such variables around it. A flag that is `False` keeps the entries of the contents
of a directory from being written as one that is `True` does. -/
theorem exclude_entries_exact_iff {file : ApplicationFile} (named : file.root.wellNamed = true) (options : Options) :
    (∀ place name above, .var place name above ∈ file.nodes →
      ((∃ entry ∈ excludeNames (file.mapEntries options), Covers entry (sourceOf (name :: above))) ↔
        options.Unwanted place)) ↔
      (∀ place name above, .var place name above ∈ file.nodes → options.Unwanted place → file.Reached options place) ∧
      ∀ star higher, .var star "*" higher ∈ file.nodes → star.1 ≠ [] → options.WritesVar star →
        ∀ place name above, .var place name above ∈ file.nodes → star.1 <:+ place.1 → options.Unwanted place := by
  constructor
  · intro exact
    refine ⟨fun place name above member unwanted => ?_, fun star higher starMember below writes place name above member
      upwards => ?_⟩
    · exact (covered_iff named options member).mp ((exact place name above member).mpr unwanted)
    · refine (exact place name above member).mp ((covered_iff named options member).mpr ?_)
      exact .inr (.inr ⟨star, higher, starMember, below, upwards, writes⟩)
  · rintro ⟨reached, stars⟩ place name above member
    rw [covered_iff named options member]
    refine ⟨?_, reached place name above member⟩
    rintro (writes | ⟨q, upwards, _, marked, _⟩ | ⟨star, higher, starMember, below, upwards, writes⟩)
    · exact .inl writes.1
    · exact .inr ⟨q, upwards, marked⟩
    · exact stars star higher starMember below writes place name above member upwards

/-- A directory `control` with a variable and a directory `drive` of two variables. -/
def driveApplication : ApplicationFile where
  name := some "control"
  dirs := [.directory "control" [.directory "drive" [] [⟨"speed"⟩, ⟨"torque"⟩]] [⟨"state"⟩]]

/-- The directory `drive` is marked, and one of its variables too. -/
def driveMarked : Options where
  dir place := if place = [0, 0] then { exclude := some true } else {}
  var place := if place = ([0, 0], 1) then { exclude := some true } else {}

theorem drive_excluded :
    driveApplication.root.wellNamed = true ∧ ∀ place name above, .var place name above ∈ driveApplication.nodes →
      ((∃ entry ∈ excludeNames (driveApplication.mapEntries driveMarked), Covers entry (sourceOf (name :: above))) ↔
        driveMarked.Unwanted place) := by
  have drive (q : Place) (marked : (driveMarked.dir q).exclude = some true) : q = [0, 0] := by
    by_contra other
    simp [driveMarked, other] at marked
  refine ⟨by decide, (exclude_entries_exact_iff (by decide) driveMarked).mpr ⟨?_, ?_⟩⟩
  · intro place name above member unwanted
    refine .inr (.inl ⟨[0, 0], ?_, by decide, rfl, rfl⟩)
    rcases unwanted with marked | ⟨q, upwards, marked⟩
    · by_cases torque : place = ([0, 0], 1)
      · exact torque ▸ List.suffix_rfl
      · simp [driveMarked, torque] at marked
    · exact drive q marked ▸ upwards
  · intro star higher member
    have plain : ∀ node ∈ driveApplication.nodes, node.name ≠ "*".toList := by decide
    exact absurd rfl (plain _ member)

/-- `drive` was marked and unmarked again. -/
def driveUnmarked : Options where
  dir place := if place = [0, 0] then { exclude := some false } else {}
  var place := if place = ([0, 0], 1) then { exclude := some true } else {}

/-- A directory that was marked and unmarked again keeps a marked variable from being excluded. -/
theorem unmarked_directory_hides_variable : ¬ ∀ (file : ApplicationFile) (options : Options),
    file.root.wellNamed = true → ∀ place name above, .var place name above ∈ file.nodes →
      ((∃ entry ∈ excludeNames (file.mapEntries options), Covers entry (sourceOf (name :: above))) ↔
        options.Unwanted place) := by
  intro exact
  have torque := exact driveApplication driveUnmarked (by decide) ([0, 0], 1) "torque" ["drive", "control", "root"]
    (by decide)
  obtain ⟨entry, written, _⟩ := torque.mpr (.inl rfl)
  have none : excludeNames (driveApplication.mapEntries driveUnmarked) = [] := by decide +kernel
  rw [none] at written
  cases written

end OpcUaAdapter.Generator
