import OpcUaAdapter.ImplicitMapping

/-! Which process variables the exclude entries take out of the implicit mapping. The
three kinds of patterns are tested in different ways, and only one of them knows an
exemption for folders with a history. -/

namespace OpcUaAdapter

/-- What an entry of the exclude list stands for: one name, the names that start with a
stem, or the names below a directory, whose stem ends with a slash. -/
inductive ExcludePattern where
  | exact (name : Text)
  | greedy (stem : Text)
  | directory (stem : Text)
deriving DecidableEq

namespace ExcludePattern

def of (e : Text) : ExcludePattern :=
  if ("/*" : Text).isSuffixOf e then .directory e.dropLast
  else if ("*" : Text).isSuffixOf e then .greedy e.dropLast
  else .exact e

def Matches (name : Text) : ExcludePattern → Prop
  | exact same => name = same
  | greedy stem | directory stem => stem <+: name

instance (name : Text) (pattern : ExcludePattern) : Decidable (pattern.Matches name) :=
  match pattern with
  | exact same => inferInstanceAs (Decidable (name = same))
  | greedy stem | directory stem => inferInstanceAs (Decidable (stem <+: name))

def OnlyAtStart (part text : Text) : Prop := ∀ later, later <:+ text → later ≠ text → ¬ part <+: later

/-- What it takes for a matching entry to be heeded. The stem of a directory must not
occur in the name again, and no folder with a history may be a prefix of the name. -/
def Skips (folderWithHistory : List Text) (name : Text) : ExcludePattern → Prop
  | exact same => name = same
  | greedy stem => stem <+: name
  | directory stem => stem <+: name ∧ OnlyAtStart stem name ∧ ∀ folder ∈ folderWithHistory, ¬ folder <+: name

private theorem Skips.matches {folderWithHistory : List Text} {name : Text} {pattern : ExcludePattern}
    (skips : pattern.Skips folderWithHistory name) : pattern.Matches name := by
  cases pattern with
  | exact | greedy => exact skips
  | directory => exact skips.1

end ExcludePattern

/-- The exclude list and the folder list hold names with a slash in front. -/
def Rooted (e : Text) : Prop := ∃ sourceName, sourceName ≠ [] ∧ e = '/' :: sourceName

private theorem mem_foldl_iff {α β : Type} {step : List β → α → List β} (adds : α → β → Prop)
    (stepped : ∀ found item value, value ∈ step found item ↔ value ∈ found ∨ adds item value) {items : List α}
    {found : List β} {value : β} :
    value ∈ items.foldl step found ↔ value ∈ found ∨ ∃ item ∈ items, adds item value := by
  induction items generalizing found with
  | nil => simp
  | cons item items ih => rw [List.foldl_cons, ih, stepped, List.exists_mem_cons_iff, or_assoc]

private theorem mem_exclude {mapFile : MapFile} {e : Text} :
    e ∈ mapFile.exclude ↔ ∃ entry ∈ mapFile.excludes,
      getAttributeValueFromNode entry.sourceName ≠ [] ∧ e = '/' :: getAttributeValueFromNode entry.sourceName := by
  unfold MapFile.exclude
  rw [mem_foldl_iff fun entry e => getAttributeValueFromNode entry.sourceName ≠ [] ∧
    e = '/' :: getAttributeValueFromNode entry.sourceName]
  · simp
  · intro found entry value
    simp only [List.isEmpty_iff]
    split
    next empty => simp [empty]
    next filled => simp [filled, or_comm]

private theorem mem_folderWithHistory {mapFile : MapFile} {folder : Text} :
    folder ∈ mapFile.folderWithHistory ↔ ∃ entry ∈ mapFile.folders,
      getAttributeValueFromNode entry.sourceName ≠ [] ∧ getAttributeValueFromNode entry.history ≠ [] ∧
        folder = '/' :: getAttributeValueFromNode entry.sourceName := by
  unfold MapFile.folderWithHistory
  rw [mem_foldl_iff fun entry folder => getAttributeValueFromNode entry.sourceName ≠ [] ∧
    getAttributeValueFromNode entry.history ≠ [] ∧ folder = '/' :: getAttributeValueFromNode entry.sourceName]
  · simp
  · intro found entry value
    simp only [Bool.and_eq_true, Bool.not_eq_true', List.isEmpty_eq_false_iff]
    split
    next filled => simp [filled, or_comm]
    next empty => simp only [not_and] at empty; simp; tauto

theorem mem_getAllMappedPvSourceNames {mapFile : MapFile} {sourceName : Text} :
    sourceName ∈ mapFile.getAllMappedPvSourceNames ↔
      ∃ entry ∈ mapFile.processVariables, getAttributeValueFromNode entry.sourceName = sourceName := by
  unfold MapFile.getAllMappedPvSourceNames
  rw [mem_foldl_iff fun entry sourceName => getAttributeValueFromNode entry.sourceName = sourceName]
  · simp
  · intro found entry value
    simp [or_comm, eq_comm]

private theorem MapFile.exclude_rooted {mapFile : MapFile} {e : Text} (member : e ∈ mapFile.exclude) : Rooted e := by
  obtain ⟨entry, _, filled, same⟩ := mem_exclude.mp member
  exact ⟨_, filled, same⟩

private theorem MapFile.folderWithHistory_rooted {mapFile : MapFile} {folder : Text}
    (member : folder ∈ mapFile.folderWithHistory) : Rooted folder := by
  obtain ⟨entry, _, filled, _, same⟩ := mem_folderWithHistory.mp member
  exact ⟨_, filled, same⟩

theorem history_substring_differs {folder : Text} (rooted : Rooted folder) (name : Text) :
    (name.drop 1).take (folder.length - 1) ≠ folder := by
  obtain ⟨sourceName, _, rfl⟩ := rooted
  intro same
  have := congrArg List.length same
  simp only [List.length_take, List.length_cons] at this
  omega

private theorem prefix_iff_take_eq {first second : Text} : second.take first.length = first ↔ first <+: second := by
  rw [List.prefix_iff_eq_take, eq_comm]

theorem rfind_pattern_iff {e part : Text} (shorter : part.length ≤ e.length) :
    rfind part e = sizeMinus e.length part.length ↔ part <:+ e := by
  rw [sizeMinus, if_pos shorter, rfind_suffix_iff shorter]

theorem heeded_iff {matched mapped : Prop} [Decidable matched] [Decidable mapped] {history skip : Bool} :
    (if matched then if (!(decide mapped || history)) = true then true else skip else skip) = true ↔
      skip = true ∨ ¬ mapped ∧ matched ∧ history = false := by
  by_cases found : matched <;> by_cases used : mapped <;> cases history <;> cases skip <;> simp [found, used]

theorem skipVar_iff {mappedPvSources folderWithHistory : List Text} {name e : Text} {skip : Bool} (rooted : Rooted e)
    (folders : ∀ folder ∈ folderWithHistory, Rooted folder) :
    skipVar mappedPvSources folderWithHistory name skip e = true ↔
      skip = true ∨ name.drop 1 ∉ mappedPvSources ∧ (ExcludePattern.of e).Skips folderWithHistory name := by
  obtain ⟨sourceName, filled, rfl⟩ := rooted
  have long : 2 ≤ ('/' :: sourceName).length := by
    have := List.length_pos_iff.mpr filled
    rw [List.length_cons]
    omega
  have unexempted : (folderWithHistory.any fun folder => (name.drop 1).take (folder.length - 1) = folder) = false := by
    refine List.any_eq_false.mpr fun folder member => ?_
    simpa using history_substring_differs (folders folder member) name
  have mapped : (mappedPvSources.any fun ele => decide (ele = name.drop 1)) = decide (name.drop 1 ∈ mappedPvSources) := by
    rw [Bool.eq_iff_iff]
    simp
  have directory : rfind "/*" ('/' :: sourceName) = sizeMinus ('/' :: sourceName).length 2 ↔
      ("/*" : Text) <:+ '/' :: sourceName := rfind_pattern_iff long
  have greedy : rfind "*" ('/' :: sourceName) = sizeMinus ('/' :: sourceName).length 1 ↔
      ("*" : Text) <:+ '/' :: sourceName := rfind_pattern_iff (Nat.le_of_succ_le long)
  have stem : ('/' :: sourceName).dropLast ≠ [] := by
    intro empty
    have := congrArg List.length empty
    simp only [List.length_dropLast, List.length_nil] at this
    omega
  unfold skipVar ExcludePattern.of
  simp only [directory, greedy, List.isSuffixOf_iff_suffix, ← List.dropLast_eq_take, unexempted, mapped]
  by_cases slash : ("/*" : Text) <:+ '/' :: sourceName
  · have history : (folderWithHistory.any fun folder => decide (name.take folder.length = folder)) = false ↔
        ∀ folder ∈ folderWithHistory, ¬ folder <+: name := by
      simp only [List.any_eq_false, decide_eq_true_eq, prefix_iff_take_eq]
    simp only [if_pos slash, heeded_iff, rfind_eq_zero_iff stem, history, ExcludePattern.Skips,
      ExcludePattern.OnlyAtStart, and_assoc]
  · by_cases star : ("*" : Text) <:+ '/' :: sourceName
    · simp only [if_neg slash, if_pos star, heeded_iff, ExcludePattern.Skips, List.isPrefixOf_iff_prefix, and_true]
    · simp only [if_neg slash, if_neg star, ExcludePattern.Skips]
      by_cases same : name = '/' :: sourceName
      · subst same
        simp only [if_true, List.drop_succ_cons, List.drop_zero, List.contains_iff_mem]
        by_cases used : sourceName ∈ mappedPvSources <;> simp [used]
      · rw [if_neg same]
        simp only [same, and_false, or_false]

/-- The process variables the exclude entries keep out of the implicit mapping. -/
def MapFile.Excludes (mapFile : MapFile) (name : Text) : Prop :=
  name.drop 1 ∉ mapFile.getAllMappedPvSourceNames ∧
    ∃ e ∈ mapFile.exclude, (ExcludePattern.of e).Skips mapFile.folderWithHistory name

private theorem exclude_foldl_iff {mapFile : MapFile} {name : Text} :
    mapFile.exclude.foldl (skipVar mapFile.getAllMappedPvSourceNames mapFile.folderWithHistory name) false = true ↔
      mapFile.Excludes name := by
  have rounds : ∀ {entries : List Text} {skip : Bool}, (∀ e ∈ entries, Rooted e) →
      (entries.foldl (skipVar mapFile.getAllMappedPvSourceNames mapFile.folderWithHistory name) skip = true ↔
        skip = true ∨ ∃ e ∈ entries, name.drop 1 ∉ mapFile.getAllMappedPvSourceNames ∧
          (ExcludePattern.of e).Skips mapFile.folderWithHistory name) := by
    intro entries
    induction entries with
    | nil => intro skip _; simp
    | cons e entries ih =>
      intro skip rooted
      obtain ⟨here, later⟩ := List.forall_mem_cons.mp rooted
      rw [List.foldl_cons, ih later, skipVar_iff here fun folder => mapFile.folderWithHistory_rooted,
        List.exists_mem_cons_iff, or_assoc]
  rw [rounds fun e => mapFile.exclude_rooted, MapFile.Excludes]
  constructor
  · rintro (set | ⟨e, member, unmapped, skips⟩)
    · cases set
    · exact ⟨unmapped, e, member, skips⟩
  · rintro ⟨unmapped, e, member, skips⟩
    exact .inr ⟨e, member, unmapped, skips⟩

def Considered (processVariables : List ProcessVariable) (name : Text) : Prop :=
  ∃ processVariable ∈ processVariables, processVariable.unusableVoid = false ∧ processVariable.name = name

private theorem considered_append {processVariables : List ProcessVariable} {processVariable : ProcessVariable} {name : Text} :
    Considered (processVariables ++ [processVariable]) name ↔
      Considered processVariables name ∨ processVariable.unusableVoid = false ∧ processVariable.name = name := by
  simp only [Considered, List.mem_append, List.mem_singleton, or_and_right, exists_or, exists_eq_left]

/-- What the loop has done with the names so far, with each by itself. -/
structure Sorted (mapFile : MapFile) (processVariables : List ProcessVariable) (loop : MappingLoop) : Prop where
  skip : loop.skip = false
  mapped : ∀ name, name ∈ loop.implicitlyMapped ↔ Considered processVariables name ∧ ¬ mapFile.Excludes name
  unused : ∀ name, name ∈ loop.unusedVariables ↔ Considered processVariables name ∧ mapFile.Excludes name

theorem Sorted.next {mapFile : MapFile} {processVariables : List ProcessVariable} {loop : MappingLoop}
    (sorted : Sorted mapFile processVariables loop) (processVariable : ProcessVariable) :
    Sorted mapFile (processVariables ++ [processVariable]) (loop.next mapFile processVariable) := by
  obtain ⟨skip, mapped, unused⟩ := sorted
  unfold MappingLoop.next
  cases void : processVariable.unusableVoid with
  | true =>
    rw [if_pos rfl]
    refine ⟨skip, fun name => ?_, fun name => ?_⟩
    · simp only [mapped, considered_append, void, Bool.true_eq_false, false_and, or_false]
    · simp only [unused, considered_append, void, Bool.true_eq_false, false_and, or_false]
  | false =>
    rw [if_neg Bool.false_ne_true, skip]
    have outcome := @exclude_foldl_iff mapFile processVariable.name
    revert outcome
    generalize mapFile.exclude.foldl _ false = set
    intro outcome
    cases set with
    | true =>
      have excluded := outcome.mp rfl
      simp only [Bool.not_true, Bool.false_eq_true, if_false]
      refine ⟨rfl, fun name => ?_, fun name => ?_⟩
      · simp only [mapped, considered_append, void, true_and]
        refine and_congr_left fun kept => ?_
        exact ⟨.inl, fun either => either.resolve_right fun same => kept (same ▸ excluded)⟩
      · simp only [List.mem_insert_iff, unused, considered_append, void, true_and, or_and_right, eq_comm]
        rw [or_comm]
        refine or_congr_right ⟨fun same => ⟨same, same ▸ excluded⟩, And.left⟩
    | false =>
      have kept : ¬ mapFile.Excludes processVariable.name := fun excluded => Bool.false_ne_true (outcome.mpr excluded)
      simp only [Bool.not_false, if_true]
      refine ⟨rfl, fun name => ?_, fun name => ?_⟩
      · simp only [List.mem_append, List.mem_singleton, mapped, considered_append, void, true_and, or_and_right, eq_comm]
        refine or_congr_right ⟨fun same => ⟨same, same ▸ kept⟩, And.left⟩
      · simp only [unused, considered_append, void, true_and]
        refine and_congr_left fun excluded => ?_
        exact ⟨.inl, fun either => either.resolve_right fun same => kept (same ▸ excluded)⟩

theorem mappingLoop_sorted (mapFile : MapFile) (processVariables : List ProcessVariable) :
    Sorted mapFile processVariables (mappingLoop mapFile processVariables) := by
  induction processVariables using List.reverseRecOn with
  | nil => exact ⟨rfl, by simp [mappingLoop, Considered], by simp [mappingLoop, Considered]⟩
  | append_singleton processVariables processVariable ih =>
    rw [mappingLoop, List.foldl_append]
    exact ih.next processVariable

def MapFile.InHistoryFolder (mapFile : MapFile) (name : Text) : Prop :=
  ∃ entry ∈ mapFile.folders, getAttributeValueFromNode entry.sourceName ≠ [] ∧
    getAttributeValueFromNode entry.history ≠ [] ∧
    '/' :: (getAttributeValueFromNode entry.sourceName ++ ['/']) <+: name

def MapFile.Unmapped (mapFile : MapFile) (name : Text) : Prop :=
  ∀ entry ∈ mapFile.processVariables, getAttributeValueFromNode entry.sourceName ≠ name.drop 1

def MapFile.Heeds (mapFile : MapFile) (name : Text) : Prop :=
  ∃ e ∈ mapFile.exclude, (ExcludePattern.of e).Skips mapFile.folderWithHistory name

theorem MapFile.Unmapped.excludes_iff {mapFile : MapFile} {name : Text} (unmapped : mapFile.Unmapped name) :
    mapFile.Excludes name ↔ mapFile.Heeds name := by
  refine and_iff_right fun used => ?_
  obtain ⟨entry, member, same⟩ := mem_getAllMappedPvSourceNames.mp used
  exact unmapped entry member same

private theorem MapFile.InHistoryFolder.exempt {mapFile : MapFile} {name : Text} (inside : mapFile.InHistoryFolder name) :
    ∃ folder ∈ mapFile.folderWithHistory, folder <+: name := by
  obtain ⟨entry, member, filled, history, below⟩ := inside
  refine ⟨_, mem_folderWithHistory.mpr ⟨entry, member, filled, history, rfl⟩, ?_⟩
  rw [← List.cons_append] at below
  exact (List.prefix_append _ _).trans below

/-- The map file excludes the directory the variable lies in, and has no use for it. -/
structure MapFile.ExcludesDirectory (mapFile : MapFile) (d name : Text) : Prop where
  excluded : ∃ entry ∈ mapFile.excludes, entry.sourceName = some (d ++ ['/', '*'])
  below : '/' :: (d ++ ['/']) <+: name
  unmapped : mapFile.Unmapped name
  outside : ¬ mapFile.InHistoryFolder name

private theorem ExcludePattern.of_directory (d : Text) :
    ExcludePattern.of ('/' :: (d ++ ['/', '*'])) = .directory ('/' :: (d ++ ['/'])) := by
  have ending : ("/*" : Text).isSuffixOf ('/' :: (d ++ ['/', '*'])) = true :=
    List.isSuffixOf_iff_suffix.mpr ((List.suffix_append d _).trans (List.suffix_cons _ _))
  have stem : ('/' :: (d ++ ['/', '*'])).dropLast = '/' :: (d ++ ['/']) := by
    rw [show '/' :: (d ++ ['/', '*']) = ('/' :: (d ++ ['/'])) ++ ['*'] by simp, List.dropLast_concat]
  rw [of, if_pos ending, stem]

/-- A variable below an excluded directory is left out exactly when the name of the
directory does not occur in it again and no folder with a history is a prefix of it,
except where another entry leaves it out. -/
theorem directory_excluded_iff {mapFile : MapFile} {processVariables : List ProcessVariable}
    {processVariable : ProcessVariable} (listed : processVariable ∈ processVariables)
    (other : processVariable.valueType ≠ .void) {d : Text}
    (excludes : mapFile.ExcludesDirectory d processVariable.name) :
    (processVariable.name ∉ (mappingLoop mapFile processVariables).implicitlyMapped ∧
      processVariable.name ∈ (mappingLoop mapFile processVariables).unusedVariables) ↔
    (ExcludePattern.OnlyAtStart ('/' :: (d ++ ['/'])) processVariable.name ∧
      ∀ folder ∈ mapFile.folderWithHistory, ¬ folder <+: processVariable.name) ∨
    ∃ e ∈ mapFile.exclude, e ≠ '/' :: (d ++ ['/', '*']) ∧
      (ExcludePattern.of e).Skips mapFile.folderWithHistory processVariable.name := by
  have sorted := mappingLoop_sorted mapFile processVariables
  have considered : Considered processVariables processVariable.name :=
    ⟨processVariable, listed, by simp [ProcessVariable.unusableVoid, other], rfl⟩
  rw [sorted.mapped, sorted.unused, excludes.unmapped.excludes_iff]
  simp only [considered, true_and, not_not, and_self]
  have entry : '/' :: (d ++ ['/', '*']) ∈ mapFile.exclude := by
    obtain ⟨entry, member, name⟩ := excludes.excluded
    exact mem_exclude.mpr ⟨entry, member, by simp [getAttributeValueFromNode, name]⟩
  have own : (ExcludePattern.of ('/' :: (d ++ ['/', '*']))).Skips mapFile.folderWithHistory processVariable.name ↔
      ExcludePattern.OnlyAtStart ('/' :: (d ++ ['/'])) processVariable.name ∧
        ∀ folder ∈ mapFile.folderWithHistory, ¬ folder <+: processVariable.name := by
    rw [ExcludePattern.of_directory]
    exact and_iff_right excludes.below
  rw [← own]
  constructor
  · rintro ⟨e, member, skips⟩
    by_cases same : e = '/' :: (d ++ ['/', '*'])
    · exact .inl (same ▸ skips)
    · exact .inr ⟨e, member, same, skips⟩
  · rintro (skips | ⟨e, member, _, skips⟩)
    · exact ⟨_, entry, skips⟩
    · exact ⟨e, member, skips⟩

def demoVariable (name : Text) : ProcessVariable := { name, valueType := .int32, isWriteable := true }

def demoHistory : FolderEntry := { sourceName := some "a", history := some "h" }

def demoExclude (sourceName : Text) (folders : List FolderEntry) : MapFile :=
  { excludes := [⟨some sourceName⟩], folders }

private theorem demoExclude_unmapped (sourceName name : Text) (folders : List FolderEntry) :
    (demoExclude sourceName folders).Unmapped name :=
  fun _ member => absurd member List.not_mem_nil

private theorem demoExclude_outside (sourceName name : Text) : ¬ (demoExclude sourceName []).InHistoryFolder name :=
  fun ⟨_, member, _⟩ => absurd member List.not_mem_nil

theorem directory_excluded :
    ("/a/x" : Text) ∉ (mappingLoop (demoExclude "a/*" []) [demoVariable "/a/x"]).implicitlyMapped ∧
      ("/a/x" : Text) ∈ (mappingLoop (demoExclude "a/*" []) [demoVariable "/a/x"]).unusedVariables := by
  have excludes : (demoExclude "a/*" []).ExcludesDirectory "a" "/a/x" :=
    ⟨⟨_, List.mem_singleton_self _, rfl⟩, by decide, demoExclude_unmapped _ _ _, demoExclude_outside _ _⟩
  have single : ExcludePattern.OnlyAtStart "/a/" "/a/x" := ((rfind_eq_zero_iff (by decide)).mp (by decide)).2
  exact (directory_excluded_iff (List.mem_singleton_self (demoVariable "/a/x")) (by decide) excludes).mpr
    (.inl ⟨single, fun folder member => absurd member List.not_mem_nil⟩)

/-- The directory occurs in the name again, or a folder with a history has a name that
the name of the variable only starts with. -/
theorem directory_not_excluded :
    (demoExclude "a/*" []).ExcludesDirectory "a" "/a/b/a/x" ∧
    (mappingLoop (demoExclude "a/*" []) [demoVariable "/a/b/a/x"]).implicitlyMapped = ["/a/b/a/x"] ∧
    (demoExclude "ab/*" [demoHistory]).ExcludesDirectory "ab" "/ab/x" ∧
    (mappingLoop (demoExclude "ab/*" [demoHistory]) [demoVariable "/ab/x"]).implicitlyMapped = ["/ab/x"] := by
  refine ⟨?_, by decide, ?_, by decide⟩
  · exact ⟨⟨_, List.mem_singleton_self _, rfl⟩, by decide, demoExclude_unmapped _ _ _, demoExclude_outside _ _⟩
  · refine ⟨⟨_, List.mem_singleton_self _, rfl⟩, by decide, demoExclude_unmapped _ _ _, ?_⟩
    rintro ⟨entry, member, _, _, below⟩
    cases List.mem_singleton.mp member
    exact absurd below (by decide)

/-- A variable is kept just when it lies in a folder with a history, exactly in these cases: in
such a folder, only directory entries match it; outside, some entry is heeded. -/
theorem history_exemption_iff {mapFile : MapFile} {processVariables : List ProcessVariable}
    {processVariable : ProcessVariable} (listed : processVariable ∈ processVariables)
    (usable : processVariable.unusableVoid = false)
    (unmapped : mapFile.Unmapped processVariable.name) :
    (processVariable.name ∈ (mappingLoop mapFile processVariables).implicitlyMapped ↔
      mapFile.InHistoryFolder processVariable.name) ↔
    (mapFile.InHistoryFolder processVariable.name → ∀ e ∈ mapFile.exclude,
      (ExcludePattern.of e).Matches processVariable.name → ∃ stem, ExcludePattern.of e = .directory stem) ∧
    (¬ mapFile.InHistoryFolder processVariable.name → ∃ e ∈ mapFile.exclude,
      (ExcludePattern.of e).Skips mapFile.folderWithHistory processVariable.name) := by
  have considered : Considered processVariables processVariable.name := ⟨processVariable, listed, usable, rfl⟩
  rw [(mappingLoop_sorted mapFile processVariables).mapped, unmapped.excludes_iff]
  simp only [considered, true_and]
  by_cases inside : mapFile.InHistoryFolder processVariable.name
  · simp only [inside, iff_true, true_implies, not_true_eq_false, false_implies, and_true]
    constructor
    · intro kept e member matching
      cases pattern : ExcludePattern.of e with
      | exact | greedy => exact absurd ⟨e, member, pattern ▸ matching⟩ kept
      | directory stem => exact ⟨stem, rfl⟩
    · rintro directories ⟨e, member, skips⟩
      obtain ⟨stem, pattern⟩ := directories e member skips.matches
      obtain ⟨folder, history, prefixes⟩ := inside.exempt
      rw [pattern] at skips
      exact skips.2.2 folder history prefixes
  · simp only [inside, iff_false, not_not, false_implies, not_false_eq_true, true_implies, true_and]
    exact Iff.rfl

private theorem demoHistory_inside (sourceName : Text) : (demoExclude sourceName [demoHistory]).InHistoryFolder "/a/x" :=
  ⟨demoHistory, List.mem_singleton_self _, by decide, by decide, by decide⟩

theorem directory_exempted :
    ("/a/x" : Text) ∈ (mappingLoop (demoExclude "a/*" [demoHistory]) [demoVariable "/a/x"]).implicitlyMapped ↔
      (demoExclude "a/*" [demoHistory]).InHistoryFolder "/a/x" := by
  refine (history_exemption_iff (List.mem_singleton_self (demoVariable "/a/x")) rfl
    (demoExclude_unmapped _ _ _)).mpr ⟨fun _ e member _ => ?_, ?_⟩
  · cases List.mem_singleton.mp member
    exact ⟨"/a/", rfl⟩
  · exact fun outside => absurd (demoHistory_inside _) outside

/-- A prefix pattern is heeded in a folder with a history too. -/
theorem prefix_not_exempted :
    let mapFile := demoExclude "a*" [demoHistory]
    (∃ e ∈ mapFile.exclude, (ExcludePattern.of e).Matches "/a/x") ∧ mapFile.Unmapped "/a/x" ∧
      mapFile.InHistoryFolder "/a/x" ∧ (mappingLoop mapFile [demoVariable "/a/x"]).implicitlyMapped = [] :=
  ⟨⟨"/a*", List.mem_singleton_self _, by decide⟩, demoExclude_unmapped _ _ _, demoHistory_inside _, by decide⟩

end OpcUaAdapter