import OpcUaAdapter.Proofs.ExcludeCoverage
import OpcUaAdapter.Proofs.MapLoading

/-! Which map files make loading raise an exception, and what it has changed by then. -/

namespace OpcUaAdapter.Generator
open Effects XMLDirectory

/-- The numbers of a setup are integers. -/
structure SetupElement.Readable (setup : SetupElement) : Prop where
  entriesPerResponse : ∀ text ∈ setup.entriesPerResponse, (int text).isSome
  bufferLength : ∀ text ∈ setup.bufferLength, (int text).isSome
  interval : ∀ text ∈ setup.interval, (int text).isSome

private theorem readNumberAttribute_ok_iff (given : Option Text) (value : Int) :
    (∃ number, HistorySetting.readNumberAttribute given value = .ok number) ↔
      ∀ text ∈ given, (int text).isSome := by
  cases given with
  | none => simp [HistorySetting.readNumberAttribute]
  | some text => cases parsed : int text <;> simp [HistorySetting.readNumberAttribute, intAttribute, parsed]

private theorem bind_ok_iff {ε α β : Type} {first : Except ε α} {next : α → Except ε β} :
    (∃ result, (first >>= next) = .ok result) ↔ ∃ value, first = .ok value ∧ ∃ result, next value = .ok result := by
  cases first with
  | error error => simp [bind, Except.bind]
  | ok value => simp [bind, Except.bind]

private theorem readHistory_ok_iff (setting : HistorySetting) (setup : SetupElement) :
    (∃ h, setting.readHistory setup = .ok h) ↔ setup.Readable := by
  have entries := readNumberAttribute_ok_iff setup.entriesPerResponse setting.entriesPerResponse
  have buffer := readNumberAttribute_ok_iff setup.bufferLength setting.bufferLength
  have interval := readNumberAttribute_ok_iff setup.interval setting.interval
  rw [HistorySetting.readHistory, bind_ok_iff]
  simp only [bind_ok_iff]
  constructor
  · rintro ⟨first, readEntries, second, readBuffer, third, readInterval, _⟩
    exact ⟨entries.mp ⟨first, readEntries⟩, buffer.mp ⟨second, readBuffer⟩, interval.mp ⟨third, readInterval⟩⟩
  · rintro ⟨first, second, third⟩
    obtain ⟨_, readEntries⟩ := entries.mpr first
    obtain ⟨_, readBuffer⟩ := buffer.mpr second
    obtain ⟨_, readInterval⟩ := interval.mpr third
    exact ⟨_, readEntries, _, readBuffer, _, readInterval, _, rfl⟩

private theorem readSetups_ok_iff (setups : List SetupElement) :
    (∃ settings, Config.readSetups setups = .ok settings) ↔ ∀ setup ∈ setups, setup.Readable := by
  unfold Config.readSetups
  induction setups with
  | nil => simp [pure, Except.pure]
  | cons setup rest ih =>
    rw [List.mapM_cons, List.forall_mem_cons, ← ih, ← readHistory_ok_iff { name := [] }]
    cases HistorySetting.readHistory { name := [] } setup with
    | error error => simp [bind, Except.bind]
    | ok h => cases rest.mapM (HistorySetting.readHistory { name := [] }) <;> simp [bind, Except.bind, pure, Except.pure]

/-- A description stands next to a root folder, and every number is an integer. -/
structure ConfigElement.Readable (config : ConfigElement) : Prop where
  described : config.rootFolder.isSome → config.description.isSome
  port : ∀ text ∈ config.server.bind (·.port), (int text).isSome
  setups : ∀ setup ∈ config.historizing.getD [], setup.Readable

theorem ConfigElement.readable_iff (config : ConfigElement) :
    Config.Readable config (Config.settingsOf config) ↔ config.Readable := by
  have setups := readSetups_ok_iff (config.historizing.getD [])
  constructor
  · rintro ⟨described, port, read⟩
    exact ⟨described, port, setups.mp ⟨_, read⟩⟩
  · rintro ⟨described, port, read⟩
    obtain ⟨settings, found⟩ := setups.mpr read
    refine ⟨described, port, ?_⟩
    rw [Config.settingsOf, found]

theorem parseMapFile_ok_without_tree {data : MapDocument} {s after : MapGenerator} {counts : List Nat}
    (tree : s.dir = none) (tag : data.tag = "uamapping") :
    outcome (MapGenerator.parseMapFile (some data)) s = (.ok counts, after) ↔
      (∀ element ∈ data.config, Config.Readable element (Config.settingsOf element)) ∧ [0, 0, 0] = counts ∧
        { s with toConfig := Config.configAfter data.config s.toConfig } = after := by
  have config := MapGenerator.onConfig_acts (Config.readConfig_acts data.config)
  unfold MapGenerator.parseMapFile
  rw [outcome_seq_eq_ok]
  simp only [outcome_modify, tree, Option.isSome_none, Bool.false_eq_true, reduceIte, Prod.mk.injEq, true_and,
    exists_eq_left', tag, ne_eq, not_true_eq_false]
  rw [outcome_seq_eq_ok]
  constructor
  · rintro ⟨middle, read, rest⟩
    obtain ⟨readable, _, rfl⟩ := (config _ _ _).mp read
    simp only [outcome_bind, outcome_get, tree, outcome_pure, Prod.mk.injEq, Except.ok.injEq] at rest
    exact ⟨readable, rest⟩
  · rintro ⟨readable, counted, rfl⟩
    refine ⟨_, (config _ _ _).mpr ⟨readable, rfl, rfl⟩, ?_⟩
    simp only [outcome_bind, outcome_get, tree, outcome_pure, Prod.mk.injEq, Except.ok.injEq]
    exact ⟨counted, trivial⟩

/-- A map file can be loaded exactly when its configuration can be read and, given a tree,
no folder entry lacks the text that is made its name. -/
theorem MapGenerator.parseMapFile_returns_iff (s : MapGenerator) {data : MapDocument} (tag : data.tag = "uamapping") :
    (∃ folders pvs excludes after, outcome (parseMapFile (some data)) s = (.ok [folders, pvs, excludes], after)) ↔
      (∀ config ∈ data.config, config.Readable) ∧
        ∀ dir ∈ s.dir, ∀ folder ∈ data.folders,
          if folder.sourceName.isSome then (folderTarget dir folder).isSome → folder.name ≠ some []
          else (given folder.name).isSome := by
  have config : (∀ element ∈ data.config, Config.Readable element (Config.settingsOf element)) ↔
      ∀ config ∈ data.config, config.Readable :=
    forall₂_congr fun element _ => element.readable_iff
  rw [← config]
  cases tree : s.dir with
  | none =>
    simp only [parseMapFile_ok_without_tree tree tag]
    constructor
    · rintro ⟨_, _, _, _, readable, _⟩
      exact ⟨readable, by rintro dir ⟨⟩⟩
    · exact fun ⟨readable, _⟩ => ⟨0, 0, 0, _, readable, rfl, rfl⟩
  | some dir =>
    simp only [parseMapFile_ok tree]
    constructor
    · rintro ⟨_, _, _, _, loadable, _⟩
      refine ⟨loadable.config, ?_⟩
      rintro _ ⟨⟩
      exact loadable.folders
    · exact fun ⟨readable, folders⟩ => ⟨_, _, _, _, ⟨tag, readable, folders dir rfl⟩, rfl, rfl⟩

def driveConfigElement : ConfigElement where
  rootFolder := some "plant"
  description := some "Drives of the plant"
  server := some { applicationName := some "control", port := some "4841" }
  historizing := some [{ name := some "fast", entriesPerResponse := some "200", bufferLength := some "10", interval := some "50" }]

/-- A map file with entries of every kind. The directory `control/pump` of the last folder
entry is not in the tree, so its name without text is never taken over. -/
def driveDocument : MapDocument where
  config := some driveConfigElement
  entries := [
    .exclude { sourceName := some "control/state" },
    .processVariable { sourceName := some "control/drive/speed", name := some "velocity", unit := some "1/s" },
    .folder { sourceName := some "control/drive", name := some "motor", destination := some "axis", history := some "fast" },
    .folder { destination := some "control", name := some "drive", description := some "The motor of the axis" },
    .folder { sourceName := some "control/pump", name := some [] }]

theorem driveConfigElement_readable : driveConfigElement.Readable := by
  refine ⟨fun _ => rfl, ?_, ?_⟩
  · rintro text ⟨⟩
    decide
  · intro setup member
    cases List.mem_singleton.mp member
    constructor <;> rintro text ⟨⟩ <;> decide

theorem MapGenerator.drive_document_returns :
    ∃ folders pvs excludes after, outcome (parseMapFile (some driveDocument)) driveApplication.parseChimeraTK =
      (.ok [folders, pvs, excludes], after) := by
  refine (parseMapFile_returns_iff _ rfl).mpr ⟨?_, ?_⟩
  · rintro config ⟨⟩
    exact driveConfigElement_readable
  · rintro dir ⟨⟩
    decide +kernel

/-- A folder entry with neither a source nor a name is not skipped. -/
theorem nameless_folder_raises : ¬ ∀ (s : MapGenerator) (data : MapDocument), data.tag = "uamapping" →
    ∃ folders pvs excludes after, outcome (MapGenerator.parseMapFile (some data)) s =
      (.ok [folders, pvs, excludes], after) := by
  intro returns
  obtain ⟨_, _, _, _, loads⟩ := returns driveApplication.parseChimeraTK { entries := [.folder {}] } rfl
  have named := ((parseMapFile_ok rfl).mp loads).1.folders {} (List.mem_singleton_self _)
  cases named

end OpcUaAdapter.Generator
