import Mathlib.Data.List.Nodup
import OpcUaAdapter.Proofs.ExcludePatterns

/-! The loop over the process variables as a sorting into two sets. A variable's side is
decided by its name and by what the map file excludes, uses and historizes, taken as sets:
neither the order of the entries nor the other variables matter, and more exclude entries
only make more variables unused. -/

namespace OpcUaAdapter

/-- The same names are used as sources, and the same folders have a history. -/
structure MapFile.SameUses (first second : MapFile) : Prop where
  mapped : ∀ sourceName, sourceName ∈ first.getAllMappedPvSourceNames ↔ sourceName ∈ second.getAllMappedPvSourceNames
  historized : ∀ folder, folder ∈ first.folderWithHistory ↔ folder ∈ second.folderWithHistory

private theorem ExcludePattern.Skips.of_fewer {first second : List Text} {name : Text} {pattern : ExcludePattern}
    (fewer : ∀ folder ∈ second, folder ∈ first) (skips : pattern.Skips first name) : pattern.Skips second name := by
  cases pattern with
  | exact | greedy => exact skips
  | directory => exact ⟨skips.1, skips.2.1, fun folder member => skips.2.2 folder (fewer folder member)⟩

theorem MapFile.Excludes.of_more {first second : MapFile} {name : Text} (uses : first.SameUses second)
    (more : ∀ e ∈ first.exclude, e ∈ second.exclude) (excludes : first.Excludes name) : second.Excludes name := by
  obtain ⟨unmapped, e, member, skips⟩ := excludes
  refine ⟨fun mapped => unmapped ((uses.mapped _).mpr mapped), e, more e member, ?_⟩
  exact skips.of_fewer fun folder later => (uses.historized folder).mpr later

theorem MapFile.SameUses.symm {first second : MapFile} (uses : first.SameUses second) : second.SameUses first :=
  ⟨fun sourceName => (uses.mapped sourceName).symm, fun folder => (uses.historized folder).symm⟩

theorem MapFile.SameUses.excludes_iff {first second : MapFile} (uses : first.SameUses second)
    (same : ∀ e, e ∈ first.exclude ↔ e ∈ second.exclude) (name : Text) : first.Excludes name ↔ second.Excludes name := by
  constructor
  · exact fun excludes => excludes.of_more uses fun e => (same e).mp
  · exact fun excludes => excludes.of_more uses.symm fun e => (same e).mpr

/-- The names that are mapped implicitly are names of the list, in its order. -/
theorem implicitlyMapped_sublist (mapFile : MapFile) (processVariables : List ProcessVariable) :
    (mappingLoop mapFile processVariables).implicitlyMapped.Sublist (processVariables.map ProcessVariable.name) := by
  induction processVariables using List.reverseRecOn with
  | nil => exact .slnil
  | append_singleton processVariables processVariable ih =>
    have longer := ih.append (List.nil_sublist [processVariable.name])
    rw [List.append_nil] at longer
    rw [mappingLoop, List.foldl_append, ← mappingLoop, List.map_append, List.foldl_cons, List.foldl_nil]
    unfold MappingLoop.next
    split
    · exact longer
    · dsimp only
      split
      · exact ih.append (List.Sublist.refl _)
      · exact longer

def MappingLoop.Maps (loop : MappingLoop) (name : Text) : Prop :=
  loop.implicitlyMapped.count name = 1 ∧ name ∉ loop.unusedVariables

def MappingLoop.LeavesUnused (loop : MappingLoop) (name : Text) : Prop :=
  name ∉ loop.implicitlyMapped ∧ name ∈ loop.unusedVariables

section

variable {mapFile : MapFile} {processVariables : List ProcessVariable} {processVariable : ProcessVariable}
  (listed : processVariable ∈ processVariables)

include listed

private theorem leavesUnused_iff (usable : processVariable.unusableVoid = false) :
    (mappingLoop mapFile processVariables).LeavesUnused processVariable.name ↔ mapFile.Excludes processVariable.name := by
  have sorted := mappingLoop_sorted mapFile processVariables
  have considered : Considered processVariables processVariable.name := ⟨processVariable, listed, usable, rfl⟩
  rw [MappingLoop.LeavesUnused, sorted.mapped, sorted.unused]
  constructor
  · exact fun unused => unused.2.2
  · exact fun excluded => ⟨fun mapped => mapped.2 excluded, considered, excluded⟩

variable (distinct : (processVariables.map ProcessVariable.name).Nodup)

include distinct

private theorem maps_iff (usable : processVariable.unusableVoid = false) :
    (mappingLoop mapFile processVariables).Maps processVariable.name ↔ ¬ mapFile.Excludes processVariable.name := by
  have sorted := mappingLoop_sorted mapFile processVariables
  have considered : Considered processVariables processVariable.name := ⟨processVariable, listed, usable, rfl⟩
  have once := (implicitlyMapped_sublist mapFile processVariables).nodup distinct
  rw [MappingLoop.Maps, sorted.unused]
  constructor
  · exact fun mapped excluded => mapped.2 ⟨considered, excluded⟩
  · intro kept
    refine ⟨?_, fun unused => kept unused.2⟩
    exact List.count_eq_one_of_mem once ((sorted.mapped _).mpr ⟨considered, kept⟩)

/-- The loop passes over an unusable variable. -/
theorem unusable_in_neither (unusable : processVariable.unusableVoid = true) :
    processVariable.name ∉ (mappingLoop mapFile processVariables).implicitlyMapped ∧
      processVariable.name ∉ (mappingLoop mapFile processVariables).unusedVariables := by
  have sorted := mappingLoop_sorted mapFile processVariables
  have passed : ¬ Considered processVariables processVariable.name := by
    rintro ⟨same, member, usable, name⟩
    rw [List.inj_on_of_nodup_map distinct member listed name, unusable] at usable
    cases usable
  rw [sorted.mapped, sorted.unused]
  exact ⟨fun mapped => passed mapped.1, fun unused => passed unused.1⟩

/-- A usable variable is mapped or left unused, an unusable one is neither. Any other list
and map file decide about a variable of the name in the same way if they exclude, use and
historize the same, and where more is excluded what was left unused still is. -/
theorem mappingLoop_sorts :
    (processVariable.unusableVoid = true →
      processVariable.name ∉ (mappingLoop mapFile processVariables).implicitlyMapped ∧
        processVariable.name ∉ (mappingLoop mapFile processVariables).unusedVariables) ∧
    (processVariable.unusableVoid = false →
      ((mappingLoop mapFile processVariables).Maps processVariable.name ∨
        (mappingLoop mapFile processVariables).LeavesUnused processVariable.name) ∧
      ∀ (second : MapFile) (others : List ProcessVariable) (other : ProcessVariable),
        (others.map ProcessVariable.name).Nodup → other ∈ others → other.unusableVoid = false →
        other.name = processVariable.name → mapFile.SameUses second →
        ((∀ e, e ∈ mapFile.exclude ↔ e ∈ second.exclude) →
          ((mappingLoop second others).Maps other.name ↔
            (mappingLoop mapFile processVariables).Maps processVariable.name) ∧
          ((mappingLoop second others).LeavesUnused other.name ↔
            (mappingLoop mapFile processVariables).LeavesUnused processVariable.name)) ∧
        ((∀ e ∈ mapFile.exclude, e ∈ second.exclude) →
          (mappingLoop mapFile processVariables).LeavesUnused processVariable.name →
          (mappingLoop second others).LeavesUnused other.name)) := by
  refine ⟨unusable_in_neither listed distinct, fun usable => ⟨?_, ?_⟩⟩
  · rw [maps_iff listed distinct usable, leavesUnused_iff listed usable]
    exact (em _).symm
  · intro second others other different member considered name uses
    rw [maps_iff listed distinct usable, leavesUnused_iff listed usable, maps_iff member different considered,
      leavesUnused_iff member considered, name]
    constructor
    · intro same
      have excludes := uses.excludes_iff same processVariable.name
      exact ⟨not_congr excludes.symm, excludes.symm⟩
    · exact fun more excludes => excludes.of_more uses more

end

/-- With the entry `a/*` a variable of the directory is unused, also when `b` is excluded as well. -/
theorem excluded_variable_sorted :
    (mappingLoop { excludes := [⟨some "b"⟩, ⟨some "a/*"⟩] } [demoVariable "/a/x"]).LeavesUnused "/a/x" := by
  have member : demoVariable "/a/x" ∈ [demoVariable "/a/x"] := List.mem_singleton_self _
  have uses : (demoExclude "a/*" []).SameUses { excludes := [⟨some "b"⟩, ⟨some "a/*"⟩] } :=
    ⟨fun _ => Iff.rfl, fun _ => Iff.rfl⟩
  have sorts := (@mappingLoop_sorts (demoExclude "a/*" []) _ _ member (by decide)).2 rfl
  exact (sorts.2 _ _ _ (by decide) member rfl rfl uses).2 (by decide) (by unfold MappingLoop.LeavesUnused; decide)

end OpcUaAdapter
