import OpcUaAdapter.HealthMonitoring
import OpcUaAdapter.Proofs.RetryDelays
import OpcUaAdapter.Proofs.StopTermination

/-! How the counters of a client move and how they are related, in every state between two
steps of its threads. The totals never shrink, and the worker counts a batch before its
points, a drop before its cause, and a retry before a failure. -/

namespace OpcUaAdapter

def HealthCounter.cumulative : HealthCounter → Bool
  | .queuedPoints | .errorCode => false
  | _ => true

/-- What a later state of a client cannot take back. -/
structure CountersGrow (before after : InfluxClient) : Prop where
  counters : ∀ counter : HealthCounter, counter.cumulative = true →
    before.getWriteStats.counter counter ≤ after.getWriteStats.counter counter
  flag : before.fundamentalErrorOccurred = true → after.fundamentalErrorOccurred = true

theorem CountersGrow.refl (client : InfluxClient) : CountersGrow client client := ⟨fun _ _ => Nat.le_refl _, id⟩

/-- The totals of a client one by one. -/
theorem CountersGrow.of_totals {before after : InfluxClient}
    (queued : before.queuedPointsDropped ≤ after.queuedPointsDropped)
    (written : before.pointsWritten ≤ after.pointsWritten) (dropped : before.pointsDropped ≤ after.pointsDropped)
    (batches : before.batchesWritten ≤ after.batchesWritten)
    (failures : before.batchWriteFailures ≤ after.batchWriteFailures)
    (retries : before.retryAttempts ≤ after.retryAttempts)
    (flag : before.fundamentalErrorOccurred = true → after.fundamentalErrorOccurred = true) :
    CountersGrow before after := by
  refine ⟨fun counter total => ?_, flag⟩
  cases counter with
  | queuedPoints | errorCode => cases total
  | queuedPointsDropped => exact queued
  | pointsWritten => exact written
  | pointsDropped => exact dropped
  | batchesWritten => exact batches
  | batchWriteFailures => exact failures
  | retryAttempts => exact retries

namespace InfluxClient
variable {client : InfluxClient} {attempt code retries : Nat} {payload writeError : Text} {exchange : Exchange}
  {fundamental : Bool}

theorem attemptOnce_members
    (sent : (client.attemptOnce payload attempt (some writeError) exchange).client =
      { client with errorCode := code, fundamentalErrorOccurred := fundamental, retryAttempts := retries }) :
    retries = client.retryAttempts + (if exchange.succeeds = false ∧ attempt < client.maxAttempts then 1 else 0) ∧
      (client.fundamentalErrorOccurred = true → fundamental = true) := by
  have counted := client.attemptOnce_retries payload attempt (some writeError) exchange
  have flag := (client.attemptOnce_attempted payload attempt (some writeError) exchange).flag
  rw [sent] at counted flag
  refine ⟨counted, fun set => ?_⟩
  rw [client.retried_flag, set, Bool.or_true] at flag
  exact flag

end InfluxClient

theorem writeMachine_grows {calendar : Calendar} {system after : System} {action : Action} {event : Event}
    (moved : (writeMachine calendar).step action system = some (event, after)) :
    CountersGrow system.client after.client := by
  cases writeMachine_step moved with
  | refused | entered | accepted | left | waits | collects | finishes | takes | drops | requeued | reported
  | repaired | cleared | stopped => exact .of_totals le_rfl le_rfl le_rfl le_rfl le_rfl le_rfl id
  | overflowed | forgotten =>
    refine .of_totals ?_ le_rfl ?_ le_rfl le_rfl le_rfl id
    all_goals simp
  | counted | discarded | failed =>
    refine .of_totals le_rfl ?_ ?_ le_rfl ?_ le_rfl id
    all_goals simp
  | @read query exchange fundamental =>
    simp only [writeMachine, system.client.read_client, Option.some.injEq, Prod.mk.injEq, System.mk.injEq,
      InfluxClient.mk.injEq, true_and, and_true] at moved
    refine .of_totals le_rfl le_rfl le_rfl le_rfl le_rfl le_rfl fun set => ?_
    rw [← moved, set, Bool.or_true]
  | acknowledged _ _ _ _ _ _ sent | retries _ _ _ _ _ _ _ sent =>
    obtain ⟨retried, flag⟩ := InfluxClient.attemptOnce_members sent
    refine .of_totals le_rfl le_rfl le_rfl ?_ le_rfl ?_ flag
    all_goals simp [retried]

/-- The points of the batch are counted as dropped, but not yet as dropped from the queue. -/
def Worker.halfDropped : Worker → Nat
  | .busy batch .dropped => batch.length
  | _ => 0

/-- The batch is counted as written, its points are not. -/
def Worker.halfWritten : Worker → Nat
  | .busy batch .written => batch.length
  | _ => 0

def Worker.retriesMade (attempts : Nat) : Worker → Nat
  | .busy _ (.sending _ attempt _) => min attempt attempts - 1
  | _ => 0

/-- How the counters are related in every reachable state. -/
structure Proportions (config : InfluxConfig) (system : System) : Prop where
  dropped : system.client.queuedPointsDropped + system.worker.halfDropped = system.client.pointsDropped
  written : system.client.pointsWritten + system.worker.halfWritten ≤
    config.writeBatching.maxBatchPoints * system.client.batchesWritten
  retried : (config.maxAttempts - 1) * system.client.batchWriteFailures +
    system.worker.retriesMade config.maxAttempts ≤ system.client.retryAttempts

theorem Proportions.initial (config : InfluxConfig) : Proportions config (System.initial config) := by
  refine ⟨?_, ?_, ?_⟩
  all_goals
    by_cases enabled : config.writeBatching.enabled = true
    all_goals simp [System.initial, enabled, Worker.halfDropped, Worker.halfWritten, Worker.retriesMade]

theorem SystemStep.proportions {config : InfluxConfig} {system after : System} {action : Action} {event : Event}
    (step : SystemStep system action event after) (capacity : Capacity config system)
    (kept : Proportions config system) : Proportions config after := by
  have bound : system.client.maxAttempts = config.maxAttempts := by
    rw [InfluxClient.maxAttempts, capacity.unchanged]
    rfl
  obtain ⟨dropped, written, retried⟩ := kept
  cases step with
  | refused | entered | accepted | cleared | read | stopped => exact ⟨dropped, written, retried⟩
  | overflowed => exact ⟨by dsimp only; omega, written, retried⟩
  | left here | waits here | collects here | repaired here | reported here | requeued here | drops here =>
    simp only [here, Worker.halfDropped, Worker.halfWritten, Worker.retriesMade] at dropped written retried
    exact ⟨dropped, written, retried⟩
  | finishes idle =>
    rcases idle with here | here
    all_goals
      simp only [here, Worker.halfDropped, Worker.halfWritten, Worker.retriesMade] at dropped written retried
      exact ⟨dropped, written, retried⟩
  | takes count size idle =>
    have before : system.worker.halfDropped = 0 ∧ system.worker.halfWritten = 0 ∧
        system.worker.retriesMade config.maxAttempts = 0 := by
      rcases idle with ⟨here, _⟩ | here
      all_goals simp [here, Worker.halfDropped, Worker.halfWritten, Worker.retriesMade]
    obtain ⟨noneDropped, noneWritten, noneMade⟩ := before
    rw [noneDropped] at dropped
    rw [noneWritten] at written
    rw [noneMade] at retried
    have first : min 1 config.maxAttempts - 1 = 0 := by omega
    exact ⟨dropped, written, by simpa only [Worker.retriesMade, first] using retried⟩
  | acknowledged here allowed _ _ _ _ sent =>
    obtain ⟨counted, _⟩ := InfluxClient.attemptOnce_members sent
    simp only [here, Worker.halfDropped, Worker.halfWritten, Worker.retriesMade] at dropped written retried
    have size := capacity.batch _ _ here
    refine ⟨dropped, ?_, ?_⟩
    · simp only [Worker.halfWritten, Nat.mul_add, Nat.mul_one]
      omega
    · simp only [Worker.retriesMade]
      omega
  | @retries exchange _ payload attempt writeError here allowed unsuccessful _ _ _ _ sent =>
    obtain ⟨counted, _⟩ := InfluxClient.attemptOnce_members sent
    have failed : exchange.succeeds = false :=
      (system.client.attemptOnce_attempted payload attempt (some writeError) exchange).ok.symm.trans unsuccessful
    simp only [here, Worker.halfDropped, Worker.halfWritten, Worker.retriesMade] at dropped written retried
    refine ⟨dropped, written, ?_⟩
    have wraps : (attempt + 1) % 2 ^ 64 ≤ attempt + 1 := Nat.mod_le _ _
    simp only [Worker.retriesMade, counted, failed, bound, true_and]
    split <;> omega
  | @failed _ _ _ attempt _ here exhausted =>
    simp only [here, Worker.halfDropped, Worker.halfWritten, Worker.retriesMade] at dropped written retried
    refine ⟨dropped, written, ?_⟩
    have all : min attempt config.maxAttempts = config.maxAttempts := Nat.min_eq_right (by omega)
    rw [all] at retried
    simpa only [Worker.retriesMade, Nat.mul_add, Nat.mul_one, Nat.add_zero] using retried
  | counted here =>
    simp only [here, Worker.halfDropped, Worker.halfWritten, Worker.retriesMade] at dropped written retried
    exact ⟨dropped, written, retried⟩
  | discarded here =>
    simp only [here, Worker.halfDropped, Worker.halfWritten, Worker.retriesMade] at dropped written retried
    exact ⟨by simpa [Worker.halfDropped] using dropped, written, retried⟩
  | forgotten here =>
    simp only [here, Worker.halfDropped, Worker.halfWritten, Worker.retriesMade] at dropped written retried
    exact ⟨by simpa [Worker.halfDropped] using dropped, written, retried⟩

theorem WriteRun.proportions {calendar : Calendar} {config : InfluxConfig} {moves : List WriteMove} {system : System}
    (run : WriteRun calendar config moves system) (positive : 1 ≤ config.writeBatching.maxBatchPoints) :
    Proportions config system := by
  have both : Capacity config system ∧ Proportions config system := by
    refine run.invariant (fun _ system => Capacity config system ∧ Proportions config system)
      ⟨Capacity.initial config, Proportions.initial config⟩ ?_
    intro _ _ _ _ _ kept moved
    have step := writeMachine_step moved
    exact ⟨step.capacity positive kept.1, step.proportions kept.1 kept.2⟩
  exact both.2

/-- A failure is counted in a step of its own, by the worker. -/
theorem SystemStep.failures {system after : System} {action : Action} {event : Event}
    (step : SystemStep system action event after) :
    after.client.batchWriteFailures = system.client.batchWriteFailures ∨
      action.ofWorker = true ∧ after.client.retryAttempts = system.client.retryAttempts := by
  cases step with
  | failed => exact .inr ⟨rfl, rfl⟩
  | _ => exact .inl rfl

end OpcUaAdapter
