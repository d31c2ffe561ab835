import OpcUaAdapter.HistorySetups
import OpcUaAdapter.Library.Effects
import OpcUaAdapter.Library.FirstByKey

/-! The history setups that are read: the first complete one of each name. Anything else is
reported, or ends the reading where errors are raised as exceptions. -/

namespace OpcUaAdapter

open Effects

def UaAdapter.warned (adapter : UaAdapter) (reports : List Text) : UaAdapter :=
  { adapter with warnings := adapter.warnings ++ reports }

namespace Mapping

/-- The computation gives this value, and reports something just when not all is fine. Where
errors are raised as exceptions it ends with one of them instead. -/
structure Checks {α : Type} (fine : Prop) (value : α) (effect : Mapping α) : Prop where
  tolerant : ∀ adapter : UaAdapter, adapter.mappingExceptions = false →
    ∃ reports, outcome effect adapter = (.ok value, adapter.warned reports) ∧ (reports = [] ↔ fine)
  passed : ∀ adapter : UaAdapter, adapter.mappingExceptions = true → fine →
    outcome effect adapter = (.ok value, adapter)
  stopped : ∀ adapter : UaAdapter, adapter.mappingExceptions = true → ¬ fine →
    ∃ message, (outcome effect adapter).1 = .error (.runtimeError message)

section Rules

variable {α β : Type} {fine also : Prop} {value : α} {effect : Mapping α}

theorem Checks.pure (value : α) : Checks True value (Pure.pure value) where
  tolerant adapter _ := ⟨[], by simp [UaAdapter.warned], by simp⟩
  passed _ _ _ := rfl
  stopped _ _ not_fine := absurd trivial not_fine

theorem Checks.bind {next : α → Mapping β} {last : β} (first : Checks fine value effect)
    (rest : Checks also last (next value)) : Checks (fine ∧ also) last (effect >>= next) where
  tolerant adapter tolerant := by
    obtain ⟨reports, reached, quiet⟩ := first.tolerant adapter tolerant
    obtain ⟨more, ended, still⟩ := rest.tolerant (adapter.warned reports) tolerant
    refine ⟨reports ++ more, ?_, ?_⟩
    · rw [outcome_bind_ok reached, ended, UaAdapter.warned, UaAdapter.warned, UaAdapter.warned, List.append_assoc]
    · rw [List.append_eq_nil_iff, quiet, still]
  passed adapter strict holds := by
    rw [outcome_bind_ok (first.passed adapter strict holds.1)]
    exact rest.passed adapter strict holds.2
  stopped adapter strict fails := by
    by_cases holds : fine
    · rw [outcome_bind_ok (first.passed adapter strict holds)]
      exact rest.stopped adapter strict fun others => fails ⟨holds, others⟩
    · obtain ⟨message, error⟩ := first.stopped adapter strict holds
      exact ⟨message, outcome_bind_error error _⟩

theorem Checks.congr {other : Prop} (checks : Checks fine value effect) (same : fine ↔ other) :
    Checks other value effect := by
  rwa [← same]

/-- No other value comes out. -/
theorem Checks.eq_of_ok {other : α} (checks : Checks fine value effect) {adapter : UaAdapter}
    (ended : (outcome effect adapter).1 = .ok other) : other = value := by
  cases mode : adapter.mappingExceptions with
  | false =>
    obtain ⟨reports, reached, -⟩ := checks.tolerant adapter mode
    rw [reached] at ended
    exact (Except.ok.inj ended).symm
  | true =>
    by_cases holds : fine
    · rw [checks.passed adapter mode holds] at ended
      exact (Except.ok.inj ended).symm
    · obtain ⟨message, error⟩ := checks.stopped adapter mode holds
      rw [error] at ended
      cases ended

theorem raiseError_throws_or_warns {errorMessage consequenceMessage : Text} (error : errorMessage ≠ [])
    (consequence : consequenceMessage ≠ []) (line : Int) :
    ∃ message report, ∀ adapter : UaAdapter, outcome (raiseError errorMessage consequenceMessage line) adapter =
      if adapter.mappingExceptions then (.error (.runtimeError message), adapter) else (.ok (), adapter.warned [report]) := by
  let lineMessage : Text := if 0 < line then " Mapping line number: " ++ intText line ++ "." else []
  refine ⟨"Error! " ++ withPeriod errorMessage ++ lineMessage,
    withPeriod errorMessage ++ ' ' :: (withPeriod consequenceMessage ++ lineMessage), fun adapter => ?_⟩
  have quiet : outcome (when (errorMessage.isEmpty || consequenceMessage.isEmpty) (note .emptyBack)) adapter =
      (.ok (), adapter) := by
    rw [List.isEmpty_eq_false_iff.mpr error, List.isEmpty_eq_false_iff.mpr consequence]
    rfl
  unfold raiseError
  rw [outcome_bind_ok quiet, outcome_bind_ok (outcome_get adapter)]
  cases adapter.mappingExceptions with
  | true => rfl
  | false => rfl

theorem Checks.raiseError {errorMessage consequenceMessage : Text} (error : errorMessage ≠ [])
    (consequence : consequenceMessage ≠ []) (line : Int) :
    Checks False () (raiseError errorMessage consequenceMessage line) := by
  obtain ⟨message, report, either⟩ := raiseError_throws_or_warns error consequence line
  refine ⟨fun adapter tolerant => ⟨[report], ?_, by simp⟩, fun _ _ => False.elim, fun adapter strict _ => ⟨message, ?_⟩⟩
  · rw [either, tolerant]
    rfl
  · rw [either, strict]
    rfl

end Rules

end Mapping

namespace SetupElement

variable (element : SetupElement)

/-- The element has a name and all the parameters that its backend needs, and the client for
InfluxDB can be set up if it is used. -/
structure Complete : Prop where
  named : element.historyName ≠ []
  influx : element.backend = .influxDB → element.influxError = none
  buffer : element.backend = .circular → getAttributeValueFromNode element.bufferLength ≠ []
  entries : getAttributeValueFromNode element.entriesPerResponse ≠ []
  interval : getAttributeValueFromNode element.interval ≠ []

instance : Decidable element.Complete :=
  decidable_of_iff (element.historyName ≠ [] ∧ (element.backend = .influxDB → element.influxError = none) ∧
      (element.backend = .circular → getAttributeValueFromNode element.bufferLength ≠ []) ∧
      getAttributeValueFromNode element.entriesPerResponse ≠ [] ∧ getAttributeValueFromNode element.interval ≠ [])
    ⟨fun ⟨named, influx, buffer, entries, interval⟩ => ⟨named, influx, buffer, entries, interval⟩,
      fun ⟨named, influx, buffer, entries, interval⟩ => ⟨named, influx, buffer, entries, interval⟩⟩

def setsUpInflux : Bool := element.backend = .influxDB && element.influxError.isNone

end SetupElement

def HistoryConfig.enter (config : HistoryConfig) (element : SetupElement) : HistoryConfig where
  history := if element.Complete then insertNew (·.name) config.history element.setup else config.history
  influxClient := config.influxClient || element.setsUpInflux

/-- The element is complete, and there is no setup of its name. -/
def HistoryConfig.Accepts (config : HistoryConfig) (element : SetupElement) : Prop :=
  element.Complete ∧ ∀ confEntry ∈ config.history, element.historyName ≠ confEntry.name

namespace Mapping

private theorem notAdded_filled (historyName : Text) : notAdded historyName ≠ [] := by
  intro empty
  obtain ⟨front, -⟩ := List.append_eq_nil_iff.mp empty
  exact absurd (List.append_eq_nil_iff.mp front).1 (by decide)

private theorem setupError_checks {errorMessage consequenceMessage : Text} (error : errorMessage ≠ [])
    (consequence : consequenceMessage ≠ []) (line : Int) :
    Checks False true (setupError errorMessage consequenceMessage line) :=
  ((Checks.raiseError error consequence line).bind (.pure true)).congr (by simp)

private theorem requireName_checks (element : SetupElement) :
    Checks (element.historyName ≠ []) (decide (element.historyName = [])) (requireName element) := by
  unfold requireName
  cases named : element.historyName with
  | nil => exact (setupError_checks (by simp) (by simp) _).congr (by simp)
  | cons c rest => exact (Checks.pure false).congr (by simp)

private theorem requireParameter_checks (element : SetupElement) (parameter : Option Text) {errorMessage : Text}
    (error : errorMessage ≠ []) :
    Checks (getAttributeValueFromNode parameter ≠ []) (decide (getAttributeValueFromNode parameter = []))
      (requireParameter element parameter errorMessage) := by
  unfold requireParameter
  cases getAttributeValueFromNode parameter with
  | nil => exact (setupError_checks error (notAdded_filled _) _).congr (by simp)
  | cons c rest => exact (Checks.pure false).congr (by simp)

private theorem setUpInflux_checks (element : SetupElement) :
    Checks (element.influxError = none) element.influxError.isSome (setUpInflux element) := by
  unfold setUpInflux
  cases element.influxError with
  | none => exact (Checks.pure false).congr (by simp)
  | some what => exact (setupError_checks (by simp) (notAdded_filled _) _).congr (by simp)

private theorem setUpInflux_checks_used (element : SetupElement) :
    Checks (element.backend = .influxDB → element.influxError = none)
      (element.backend = .influxDB && element.influxError.isSome)
      (if element.backend = .influxDB then setUpInflux element else pure false) := by
  cases element.backend with
  | circular => exact (Checks.pure false).congr (by simp)
  | influxDB => exact (setUpInflux_checks element).congr (by simp)

private theorem requireBuffer_checks (element : SetupElement) :
    Checks (element.backend = .circular → getAttributeValueFromNode element.bufferLength ≠ [])
      (element.backend = .circular && decide (getAttributeValueFromNode element.bufferLength = []))
      (if element.backend = .circular then
        requireParameter element element.bufferLength "Missing history parameter 'buffer_length'."
      else pure false) := by
  cases element.backend with
  | circular => exact (requireParameter_checks element element.bufferLength (by simp)).congr (by simp)
  | influxDB => exact (Checks.pure false).congr (by simp)

theorem enterSetup_checks (config : HistoryConfig) (element : SetupElement) {incomplete : Bool}
    (known : incomplete = true ↔ ¬ element.Complete) {influxClient : Bool}
    (client : influxClient = (config.influxClient || element.setsUpInflux)) :
    Checks (∀ confEntry ∈ config.history, element.historyName ≠ confEntry.name) (config.enter element)
      (if config.history.any fun confEntry => element.historyName = confEntry.name then do
        raiseError "Redefinition of history configuration." (notAdded element.historyName)
        return { config with influxClient }
      else if incomplete then return { config with influxClient }
      else return { history := config.history ++ [element.setup], influxClient } : Mapping HistoryConfig) := by
  subst client
  by_cases existing : (config.history.any fun confEntry => element.historyName = confEntry.name) = true
  · have same : config.enter element = { config with influxClient := config.influxClient || element.setsUpInflux } := by
      have there : (config.history.any fun confEntry => confEntry.name = element.historyName) = true := by
        simpa only [eq_comm] using existing
      have kept : insertNew (fun setup : HistorySetup => setup.name) config.history element.setup = config.history :=
        if_pos there
      unfold HistoryConfig.enter
      rw [kept, ite_self]
    have redefined := @Checks.raiseError "Redefinition of history configuration." (notAdded element.historyName)
      (by simp) (notAdded_filled _) (-1)
    rw [if_pos existing, same]
    refine Checks.congr (redefined.bind (Checks.pure _)) ?_
    simp only [false_and, false_iff]
    intro new
    obtain ⟨confEntry, member, equal⟩ := List.any_eq_true.mp existing
    exact new confEntry member (of_decide_eq_true equal)
  · have new : ∀ confEntry ∈ config.history, element.historyName ≠ confEntry.name := by simpa using existing
    have absent : ¬ (config.history.any fun confEntry => confEntry.name = element.historyName) = true := by
      simpa only [eq_comm] using existing
    have added : insertNew (fun setup : HistorySetup => setup.name) config.history element.setup =
        config.history ++ [element.setup] := if_neg absent
    rw [if_neg existing]
    unfold HistoryConfig.enter
    rw [added]
    by_cases complete : element.Complete
    · rw [if_pos complete, if_neg fun missing => known.mp missing complete]
      exact (Checks.pure _).congr (iff_of_true trivial new)
    · rw [if_neg complete, if_pos (known.mpr complete)]
      exact (Checks.pure _).congr (iff_of_true trivial new)

theorem readSetup_checks (config : HistoryConfig) (element : SetupElement) :
    Checks (config.Accepts element) (config.enter element) (readSetup config element) := by
  have known : (decide (element.historyName = []) || (element.backend = .influxDB && element.influxError.isSome) ||
        (element.backend = .circular && decide (getAttributeValueFromNode element.bufferLength = [])) ||
        decide (getAttributeValueFromNode element.entriesPerResponse = []) ||
        decide (getAttributeValueFromNode element.interval = [])) = true ↔ ¬ element.Complete := by
    simp only [Bool.or_eq_true, Bool.and_eq_true, decide_eq_true_eq, Option.isSome_iff_ne_none]
    constructor
    · rintro ((((unnamed | ⟨influx, failed⟩) | ⟨circular, missing⟩) | missing) | missing) complete
      · exact complete.named unnamed
      · exact failed (complete.influx influx)
      · exact complete.buffer circular missing
      · exact complete.entries missing
      · exact complete.interval missing
    · intro incomplete
      by_contra all
      simp only [not_or, not_and, not_not] at all
      obtain ⟨⟨⟨⟨named, influx⟩, buffer⟩, entries⟩, interval⟩ := all
      exact incomplete ⟨named, influx, buffer, entries, interval⟩
  have client : (config.influxClient || (element.backend = .influxDB &&
      !(element.backend = .influxDB && element.influxError.isSome))) = (config.influxClient || element.setsUpInflux) := by
    unfold SetupElement.setsUpInflux
    cases element.backend <;> cases element.influxError <;> rfl
  suffices checks : Checks (element.historyName ≠ [] ∧ (element.backend = .influxDB → element.influxError = none) ∧
      (element.backend = .circular → getAttributeValueFromNode element.bufferLength ≠ []) ∧
      getAttributeValueFromNode element.entriesPerResponse ≠ [] ∧ getAttributeValueFromNode element.interval ≠ [] ∧
      ∀ confEntry ∈ config.history, element.historyName ≠ confEntry.name) (config.enter element)
      (readSetup config element) by
    refine checks.congr ⟨fun ⟨named, influx, buffer, entries, interval, new⟩ => ?_, fun ⟨complete, new⟩ => ?_⟩
    · exact ⟨⟨named, influx, buffer, entries, interval⟩, new⟩
    · exact ⟨complete.named, complete.influx, complete.buffer, complete.entries, complete.interval, new⟩
  have entries := @requireParameter_checks element element.entriesPerResponse
    "Missing history parameter 'entries_per_response'." (by simp)
  have interval := @requireParameter_checks element element.interval "Missing history parameter 'interval'." (by simp)
  refine (requireName_checks element).bind ((setUpInflux_checks_used element).bind ?_)
  refine (requireBuffer_checks element).bind (entries.bind (interval.bind ?_))
  exact enterSetup_checks config element known client

/-- The elements are accepted one after the other. -/
def AcceptsAll : HistoryConfig → List SetupElement → Prop
  | _, [] => True
  | config, element :: elements => config.Accepts element ∧ AcceptsAll (config.enter element) elements

private theorem foldlM_readSetup_checks (config : HistoryConfig) (elements : List SetupElement) :
    Checks (AcceptsAll config elements) (elements.foldl HistoryConfig.enter config) (elements.foldlM readSetup config) := by
  induction elements generalizing config with
  | nil => exact .pure config
  | cons element elements ih =>
    rw [List.foldlM_cons, List.foldl_cons]
    exact (readSetup_checks config element).bind (ih _)

private theorem acceptsAll_iff {config : HistoryConfig} {elements : List SetupElement} :
    AcceptsAll config elements ↔ (∀ element ∈ elements, element.Complete) ∧
      (elements.map SetupElement.historyName).Nodup ∧
      ∀ element ∈ elements, ∀ confEntry ∈ config.history, element.historyName ≠ confEntry.name := by
  induction elements generalizing config with
  | nil => simp [AcceptsAll]
  | cons element elements ih =>
    rw [AcceptsAll, ih, HistoryConfig.Accepts, List.map_cons, List.nodup_cons]
    constructor
    · rintro ⟨⟨complete, new⟩, others, distinct, apart⟩
      have entered : (config.enter element).history = config.history ++ [element.setup] := by
        refine (if_pos complete).trans (if_neg fun found => ?_)
        obtain ⟨confEntry, member, same⟩ := List.any_eq_true.mp found
        exact new confEntry member (of_decide_eq_true same).symm
      rw [entered] at apart
      refine ⟨List.forall_mem_cons.mpr ⟨complete, others⟩, ⟨fun member => ?_, distinct⟩,
        List.forall_mem_cons.mpr ⟨new, fun other member confEntry there => ?_⟩⟩
      · obtain ⟨other, later, same⟩ := List.mem_map.mp member
        exact apart other later element.setup (by simp) same
      · exact apart other member confEntry (List.mem_append_left _ there)
    · rintro ⟨complete, ⟨fresh, distinct⟩, apart⟩
      obtain ⟨here, others⟩ := List.forall_mem_cons.mp complete
      obtain ⟨new, later⟩ := List.forall_mem_cons.mp apart
      refine ⟨⟨here, new⟩, others, distinct, fun other member confEntry there same => ?_⟩
      have known : confEntry ∈ config.history ∨ confEntry = element.setup := by
        unfold HistoryConfig.enter insertNew at there
        rw [if_pos here] at there
        split at there
        · exact .inl there
        · simpa using there
      rcases known with before | rfl
      · exact later other member confEntry before same
      · exact fresh (List.mem_map.mpr ⟨other, member, same⟩)

end Mapping

namespace HistoryConfig

private theorem history_foldl_enter (config : HistoryConfig) (elements : List SetupElement) :
    (elements.foldl enter config).history =
      ((elements.filter fun element => element.Complete).map SetupElement.setup).foldl (insertNew (·.name))
        config.history := by
  induction elements generalizing config with
  | nil => rfl
  | cons element elements ih =>
    rw [List.foldl_cons, ih]
    by_cases complete : element.Complete
    · rw [List.filter_cons_of_pos (by simpa using complete), List.map_cons, List.foldl_cons, enter, if_pos complete]
    · rw [List.filter_cons_of_neg (by simpa using complete), enter, if_neg complete]

private theorem influxClient_foldl_enter (config : HistoryConfig) (elements : List SetupElement) :
    (elements.foldl enter config).influxClient = (config.influxClient || elements.any SetupElement.setsUpInflux) := by
  induction elements generalizing config with
  | nil => simp
  | cons element elements ih => rw [List.foldl_cons, ih, List.any_cons, enter, Bool.or_assoc]

/-- The first complete setup of each name, and a client if one could be set up. -/
def ofElements (elements : List SetupElement) : HistoryConfig where
  history := firstByKey (·.name) ((elements.filter fun element => element.Complete).map SetupElement.setup)
  influxClient := elements.any SetupElement.setsUpInflux

private theorem foldl_enter (elements : List SetupElement) : elements.foldl enter {} = ofElements elements := by
  have history := history_foldl_enter {} elements
  have client := influxClient_foldl_enter {} elements
  rw [foldl_insertNew_nil] at history
  rw [Bool.false_or] at client
  unfold ofElements
  rw [← history, ← client]

/-- Nothing is left out when all elements are complete and their names differ. -/
theorem history_ofElements {elements : List SetupElement} (complete : ∀ element ∈ elements, element.Complete)
    (distinct : (elements.map SetupElement.historyName).Nodup) :
    (ofElements elements).history = elements.map SetupElement.setup := by
  have all : elements.filter (fun element => element.Complete) = elements := by
    apply List.filter_eq_self.mpr
    simpa using complete
  unfold ofElements
  rw [all]
  apply firstByKey_of_nodup
  rw [List.map_map]
  exact distinct

end HistoryConfig

namespace Mapping

theorem readHistorizing_checks (elements : List SetupElement) :
    Checks ((∀ element ∈ elements, element.Complete) ∧ (elements.map SetupElement.historyName).Nodup)
      (HistoryConfig.ofElements elements) (readHistorizing elements) := by
  rw [← HistoryConfig.foldl_enter]
  refine (foldlM_readSetup_checks {} elements).congr ?_
  rw [acceptsAll_iff]
  simp

/-- Where errors are reported, the first complete setup of each name is read, and there is no
report exactly when every setup is complete and no name is used again. Where errors are
thrown, this is what has to hold for the reading to come to its end, and all setups are there. -/
theorem history_setups_read (elements : List SetupElement) (adapter : UaAdapter) :
    (adapter.mappingExceptions = false →
      ∃ reports, outcome (readHistorizing elements) adapter =
          (.ok (HistoryConfig.ofElements elements), adapter.warned reports) ∧
        (reports = [] ↔
          (∀ element ∈ elements, element.Complete) ∧ (elements.map SetupElement.historyName).Nodup)) ∧
    (adapter.mappingExceptions = true →
      if (∀ element ∈ elements, element.Complete) ∧ (elements.map SetupElement.historyName).Nodup then
        outcome (readHistorizing elements) adapter =
          (.ok ⟨elements.map SetupElement.setup, elements.any SetupElement.setsUpInflux⟩, adapter)
      else ∃ message, (outcome (readHistorizing elements) adapter).1 = .error (.runtimeError message)) := by
  refine ⟨(readHistorizing_checks elements).tolerant adapter, fun strict => ?_⟩
  split
  next fine =>
    rw [(readHistorizing_checks elements).passed adapter strict fine, ← HistoryConfig.history_ofElements fine.1 fine.2]
    rfl
  next wrong => exact (readHistorizing_checks elements).stopped adapter strict wrong

end Mapping

end OpcUaAdapter
