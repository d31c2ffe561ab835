import OpcUaAdapter.Proofs.ClientCounters

/-! The client as the monitoring sees it. The monitoring never changes it, and although
stores are seen late, what has been seen once is not taken back. -/

namespace OpcUaAdapter

abbrev HealthMove := Machine.Move Monitored HealthAction HealthEvent

abbrev HealthRun (calendar : Calendar) (config : InfluxConfig) (moves : List HealthMove) (monitored : Monitored) :
    Prop :=
  (healthMachine calendar).Run (Monitored.initial config) moves monitored

/-- How far the stores of the worker can be behind its client. -/
structure Lag (config : InfluxConfig) (monitored : Monitored) : Prop where
  flag : monitored.fundamentalErrorOccurred = true → monitored.system.client.fundamentalErrorOccurred = true
  retries : monitored.retryAttempts ≤ monitored.system.client.retryAttempts
  failures : (config.maxAttempts - 1) * monitored.system.client.batchWriteFailures ≤ monitored.retryAttempts

private theorem Action.readFails_latches {calendar : Calendar} {system after : System} {action : Action} {event : Event}
    (fails : action.readFails = true) (moved : (writeMachine calendar).step action system = some (event, after)) :
    after.client.fundamentalErrorOccurred = true := by
  cases action with
  | read query exchange =>
    simp only [writeMachine, system.client.read_client, Option.some.injEq, Prod.mk.injEq] at moved
    rw [← moved.2]
    cases exchange with
    | noEncodeHandle => cases fails
    | request reply =>
      cases reply with
      | noHandle | answered => cases fails
      | failed reason =>
        simp only [readFails, Bool.not_eq_true'] at fails
        simp [fails, Exchange.unreachable]
  | call | enqueue | clearAsyncWriteError | stop | work => cases fails

/-- A step of a thread of the client, with what it takes. -/
theorem Monitored.clientStep_some {calendar : Calendar} {action : Action} {monitored after : Monitored}
    {event : HealthEvent} (moved : monitored.clientStep calendar action = some (event, after)) :
    ∃ inner system, (writeMachine calendar).step action monitored.system = some (inner, system) ∧
      (action.ofWorker = true → monitored.stored = true) ∧ event = .client inner ∧
      after = { monitored with
        system
        overflowing := monitored.overflowing || inner.overflows
        fundamentalErrorOccurred := monitored.fundamentalErrorOccurred || action.readFails } := by
  simp only [clientStep] at moved
  split at moved
  · cases moved
  next free =>
    obtain ⟨⟨inner, system⟩, stepped, same⟩ := Option.map_eq_some_iff.mp moved
    cases same
    refine ⟨inner, system, stepped, fun worker => ?_, rfl, rfl⟩
    simp only [worker, Bool.true_and, Bool.or_eq_true, Bool.not_eq_true', not_or] at free
    simpa using free.2

private theorem Monitored.stored_iff {monitored : Monitored} : monitored.stored = true ↔
    monitored.errorCode = monitored.system.client.errorCode ∧
      monitored.fundamentalErrorOccurred = monitored.system.client.fundamentalErrorOccurred ∧
        monitored.retryAttempts = monitored.system.client.retryAttempts := by
  simp [stored, and_assoc]

private theorem SystemStep.overflow_counts {system after : System} {action : Action} {event : Event}
    (step : SystemStep system action event after) (overflows : event.overflows = true) :
    after.client.queuedPointsDropped = system.client.queuedPointsDropped + 1 := by
  cases step with
  | overflowed => rfl
  | _ => cases overflows

/-- What a step does to the client as it is seen. -/
structure Watched (config : InfluxConfig) (before after : Monitored) : Prop where
  lag : Lag config after
  grows : CountersGrow before.seen after.seen

section Steps

variable {calendar : Calendar} {config : InfluxConfig} {monitored after : Monitored} {event : HealthEvent}

private theorem Monitored.clientStep_watched {action : Action} (lag : Lag config monitored)
    (proportions : Proportions config after.system)
    (moved : monitored.clientStep calendar action = some (event, after)) : Watched config monitored after := by
  obtain ⟨inner, system, stepped, stored, -, rfl⟩ := Monitored.clientStep_some moved
  have grows := writeMachine_grows stepped
  have step := writeMachine_step stepped
  refine ⟨⟨fun flag => ?_, ?_, ?_⟩, .of_totals ?_ ?_ ?_ ?_ ?_ le_rfl ?_⟩
  · rcases (Bool.or_eq_true _ _).mp flag with old | fails
    · exact grows.flag (lag.flag old)
    · exact Action.readFails_latches fails stepped
  · exact Nat.le_trans lag.retries (grows.counters .retryAttempts rfl)
  · rcases step.failures with same | ⟨worker, same⟩
    · rw [same]
      exact lag.failures
    · have whole := (Monitored.stored_iff.mp (stored worker)).2.2
      rw [whole, ← same]
      exact Nat.le_of_add_right_le proportions.retried
  · have counted : monitored.system.client.queuedPointsDropped ≤ system.client.queuedPointsDropped :=
      grows.counters .queuedPointsDropped rfl
    simp only [Monitored.seen]
    cases overflows : inner.overflows with
    | false =>
      rw [Bool.or_false]
      exact Nat.sub_le_sub_right counted _
    | true =>
      have more := step.overflow_counts overflows
      simp only [Bool.or_true, if_true]
      omega
  · exact grows.counters .pointsWritten rfl
  · exact grows.counters .pointsDropped rfl
  · exact grows.counters .batchesWritten rfl
  · exact grows.counters .batchWriteFailures rfl
  · exact fun flag => Bool.or_eq_true_iff.mpr (.inl flag)

private theorem Monitored.store_watched (lag : Lag config monitored) (proportions : Proportions config monitored.system) :
    Watched config monitored monitored.store := by
  have failures := Nat.le_of_add_right_le proportions.retried
  dsimp only [store]
  split
  · exact ⟨⟨lag.flag, lag.retries, lag.failures⟩, .of_totals le_rfl le_rfl le_rfl le_rfl le_rfl le_rfl id⟩
  · split
    · exact ⟨⟨id, lag.retries, lag.failures⟩, .of_totals le_rfl le_rfl le_rfl le_rfl le_rfl le_rfl lag.flag⟩
    · exact ⟨⟨lag.flag, le_rfl, failures⟩, .of_totals le_rfl le_rfl le_rfl le_rfl le_rfl lag.retries id⟩

end Steps

private theorem Monitored.store_system (monitored : Monitored) : monitored.store.system = monitored.system := by
  dsimp only [store]
  split
  · rfl
  · split <;> rfl

theorem Monitored.store_health (monitored : Monitored) : monitored.store.health = monitored.health := by
  dsimp only [store]
  split
  · rfl
  · split <;> rfl

/-- Everything a step of the machine can do. -/
inductive HealthStep (calendar : Calendar) (monitored : Monitored) :
    HealthAction → HealthEvent → Monitored → Prop where
  | client {action event after} (moved : monitored.clientStep calendar action = some (event, after)) :
      HealthStep calendar monitored (.client action) event after
  | counted : HealthStep calendar monitored .countOverflow .silent { monitored with overflowing := false }
  | stores : HealthStep calendar monitored .store .silent monitored.store
  | declined {refusal variableAdded event} (added : List Text) :
      HealthStep calendar monitored (.addHealthMonitoringNodes refusal variableAdded) event
        { monitored with health := { monitored.health with requested := true, added } }
  | adds {refusal variableAdded} (added : List Text) (fresh : monitored.health.requested = false) :
      HealthStep calendar monitored (.addHealthMonitoringNodes refusal variableAdded) .silent
        { monitored with
          health :=
            { monitored.health with
              requested := true
              added
              adding := true
              update := monitored.health.update.start } }
  | accesses (access : HealthAccess) (rest : List HealthAccess)
      (next : monitored.health.update.remaining = access :: rest) :
      HealthStep calendar monitored .access (monitored.health.access monitored.seen access rest).1
        { monitored with health := (monitored.health.access monitored.seen access rest).2 }
  | registers {refusal event} (adding : monitored.health.adding = true)
      (idle : monitored.health.update.remaining = []) :
      HealthStep calendar monitored (.addRepeatedCallback refusal) event
        { monitored with
          health := { monitored.health with adding := false, healthNodesAdded := refusal.isNone } }
  | repeats (registered : monitored.health.healthNodesAdded = true)
      (idle : monitored.health.update.remaining = []) :
      HealthStep calendar monitored .repeatedCallback .silent
        { monitored with health := { monitored.health with update := monitored.health.update.start } }
  | removes (idle : monitored.health.update.remaining = []) (whole : monitored.health.adding = false) :
      HealthStep calendar monitored .removeHealthNodesCallback .silent
        { monitored with health := { monitored.health with healthNodesAdded := false } }

theorem healthMachine_step {calendar : Calendar} {monitored after : Monitored} {action : HealthAction}
    {event : HealthEvent} (moved : (healthMachine calendar).step action monitored = some (event, after)) :
    HealthStep calendar monitored action event after := by
  cases action with
  | client action => exact .client moved
  | countOverflow =>
    simp only [healthMachine] at moved
    split at moved
    · cases moved; exact .counted
    · cases moved
  | store =>
    simp only [healthMachine] at moved
    split at moved
    · cases moved
    · cases moved; exact .stores
  | addHealthMonitoringNodes refusal variableAdded =>
    simp only [healthMachine, HealthMonitoring.addNodes] at moved
    split at moved
    · cases moved
    next fresh =>
      split at moved
      · cases moved; exact .declined _
      · cases refusal with
        | some name => cases moved; exact .declined _
        | none =>
          simp only at moved
          split at moved
          · cases moved; exact .adds _ (by simpa using fresh)
          · cases moved; exact .declined _
  | access =>
    simp only [healthMachine] at moved
    split at moved
    next => cases moved
    next access rest next =>
      split at moved
      · cases moved
      · cases moved; exact .accesses access rest next
  | addRepeatedCallback refusal =>
    simp only [healthMachine] at moved
    split at moved
    next ready =>
      simp only [Bool.and_eq_true, List.isEmpty_iff] at ready
      cases moved
      exact .registers ready.1 ready.2
    next => cases moved
  | repeatedCallback =>
    simp only [healthMachine] at moved
    split at moved
    next ready =>
      simp only [Bool.and_eq_true, List.isEmpty_iff] at ready
      cases moved
      exact .repeats ready.1 ready.2
    next => cases moved
  | removeHealthNodesCallback =>
    simp only [healthMachine] at moved
    split at moved
    next ready =>
      simp only [Bool.and_eq_true, Bool.not_eq_true', List.isEmpty_iff] at ready
      cases moved
      exact .removes ready.1 ready.2
    next => cases moved

/-- Holds in every reachable state of the machine. -/
structure Overseen (calendar : Calendar) (config : InfluxConfig) (monitored : Monitored) : Prop where
  reached : ∃ moves, WriteRun calendar config moves monitored.system
  lag : Lag config monitored

theorem Overseen.initial (calendar : Calendar) (config : InfluxConfig) :
    Overseen calendar config (Monitored.initial config) :=
  ⟨⟨[], .start⟩, ⟨fun set => Bool.noConfusion set, le_rfl, le_rfl⟩⟩

/-- The monitoring takes part in no step of the client, and a step of the client is one
that the client can make without it. -/
theorem HealthStep.overseen {calendar : Calendar} {config : InfluxConfig} {monitored after : Monitored}
    {action : HealthAction} {event : HealthEvent} (step : HealthStep calendar monitored action event after)
    (positive : 1 ≤ config.writeBatching.maxBatchPoints) (overseen : Overseen calendar config monitored) :
    Overseen calendar config after ∧ CountersGrow monitored.seen after.seen := by
  obtain ⟨⟨moves, reached⟩, lag⟩ := overseen
  cases step with
  | client moved =>
    obtain ⟨inner, system, stepped, -, -, same⟩ := Monitored.clientStep_some moved
    have next := reached.next stepped
    rw [show system = after.system by rw [same]] at next
    have watched := Monitored.clientStep_watched lag (WriteRun.proportions next positive) moved
    exact ⟨⟨⟨_, next⟩, watched.lag⟩, watched.grows⟩
  | counted =>
    refine ⟨⟨⟨moves, reached⟩, lag.flag, lag.retries, lag.failures⟩,
      .of_totals ?_ le_rfl le_rfl le_rfl le_rfl le_rfl id⟩
    exact Nat.sub_le_sub_left (Nat.zero_le _) _
  | stores =>
    have watched := Monitored.store_watched lag (reached.proportions positive)
    exact ⟨⟨⟨moves, by rw [Monitored.store_system]; exact reached⟩, watched.lag⟩, watched.grows⟩
  | declined | adds | accesses | registers | repeats | removes =>
    exact ⟨⟨⟨moves, reached⟩, lag.flag, lag.retries, lag.failures⟩, .refl _⟩

end OpcUaAdapter
