import OpcUaAdapter.Proofs.WriteCapacity

/-! An active write error always has points behind it. In fail-fast mode no new point
can arrive while the error is active, so only a batch that is queued or in flight can
clear it again. -/

namespace OpcUaAdapter

def Worker.holdsBatch : Worker → Bool
  | .busy _ .dropping | .busy _ .dropped => false
  | .busy _ _ => true
  | _ => false

/-- Points whose success can still clear an error. -/
def System.hasPending (system : System) : Prop :=
  system.client.writeQueue ≠ [] ∨ system.worker.holdsBatch = true

structure ErrorBacked (system : System) : Prop where
  active : system.client.lastAsyncWriteError ≠ [] → system.client.stopWriteWorker = false → system.hasPending
  /-- A batch is given up because of points queued behind it. -/
  givenUp : system.worker.holdsBatch = false → (∃ batch phase, system.worker = .busy batch phase) →
    system.client.stopWriteWorker = false → system.client.writeQueue ≠ []

theorem ErrorBacked.initial (config : InfluxConfig) : ErrorBacked (System.initial config) := by
  refine ⟨fun active => absurd rfl active, ?_⟩
  intro _ ⟨batch, phase, busy⟩
  simp only [System.initial] at busy
  split at busy <;> cases busy

theorem SystemStep.errorBacked {config : InfluxConfig} {system after : System} {action : Action} {event : Event}
    (step : SystemStep system action event after) (capacity : Capacity config system)
    (kept : ErrorBacked system) : ErrorBacked after := by
  obtain ⟨active, givenUp⟩ := kept
  cases step with
  | refused | entered | overflowed | read => exact ⟨active, givenUp⟩
  | accepted => exact ⟨fun _ _ => .inl (by simp), fun _ _ _ => by simp⟩
  | cleared => exact ⟨fun error => absurd rfl error, givenUp⟩
  | stopped => exact ⟨fun _ running => Bool.noConfusion running, fun _ _ running => Bool.noConfusion running⟩
  | left here | waits here =>
    refine ⟨fun error running => ?_, by simp⟩
    rcases active error running with queued | held
    · exact .inl queued
    · simp [here, Worker.holdsBatch] at held
  | collects here running pending => exact ⟨fun _ _ => .inl pending, by simp⟩
  | finishes idle empty stopping => exact ⟨fun _ running => by simp [stopping] at running, by simp⟩
  | takes | acknowledged | retries | failed | counted | reported =>
    exact ⟨fun _ _ => .inr rfl, fun free => by cases free⟩
  | repaired => exact ⟨fun error => absurd rfl error, by simp⟩
  | requeued here =>
    refine ⟨fun _ _ => .inl ?_, by simp⟩
    have some := capacity.nonempty _ _ here
    simp [some]
  | drops here hopeless =>
    have behind : system.client.stopWriteWorker = false → system.client.writeQueue ≠ [] := by
      intro running empty
      have size := capacity.batch _ _ here
      rcases hopeless with stopping | tooMany
      · simp [stopping] at running
      · rw [capacity.unchanged, empty, List.length_nil] at tooMany
        omega
    exact ⟨fun _ running => .inl (behind running), fun _ _ => behind⟩
  | discarded here =>
    have behind := givenUp (by simp [here, Worker.holdsBatch]) ⟨_, _, here⟩
    exact ⟨fun _ running => .inl (behind running), fun _ _ => behind⟩
  | forgotten here =>
    have behind := givenUp (by simp [here, Worker.holdsBatch]) ⟨_, _, here⟩
    exact ⟨fun _ running => .inl (behind running), by simp⟩

theorem WriteRun.errorBacked {calendar : Calendar} {config : InfluxConfig} {moves : List WriteMove} {system : System}
    (run : WriteRun calendar config moves system) (positive : 1 ≤ config.writeBatching.maxBatchPoints) :
    ErrorBacked system := by
  have both : Capacity config system ∧ ErrorBacked system := by
    refine run.invariant (fun _ system => Capacity config system ∧ ErrorBacked system)
      ⟨Capacity.initial config, ErrorBacked.initial config⟩ ?_
    intro _ _ _ _ _ kept moved
    have step := writeMachine_step moved
    exact ⟨step.capacity positive kept.1, step.errorBacked kept.1 kept.2⟩
  exact both.2

/-- Until stop is requested, an active write error means that points are queued or a
batch is in flight; in particular a call is refused only while that is so. -/
theorem active_error_has_pending {calendar : Calendar} {config : InfluxConfig} {moves : List WriteMove}
    {system : System} (run : WriteRun calendar config moves system)
    (positive : 1 ≤ config.writeBatching.maxBatchPoints) (running : system.client.stopWriteWorker = false) :
    (system.client.lastAsyncWriteError ≠ [] → system.hasPending) ∧
      (system.client.refusesWrites = true → system.hasPending) := by
  have backed := run.errorBacked positive
  refine ⟨fun error => backed.active error running, fun refuses => backed.active ?_ running⟩
  simp only [InfluxClient.refusesWrites, InfluxClient.hasAsyncWriteError, Bool.and_eq_true,
    Bool.not_eq_true', List.isEmpty_eq_false_iff] at refuses
  exact refuses.2

theorem active_error_has_pending_after_requeue :
    ∃ moves system, WriteRun demoCalendar demoConfig moves system ∧ system.client.stopWriteWorker = false ∧
      system.client.lastAsyncWriteError ≠ [] ∧ system.hasPending := by
  have computed : ((writeMachine demoCalendar).exec (demoWrite "a" ++ demoTake ++ demoFail demoBusy)
      (System.initial demoConfig)).map
      (fun run => (run.2.client.stopWriteWorker, run.2.client.lastAsyncWriteError.isEmpty)) =
    some (false, false) := by decide
  obtain ⟨moves, system, run, flags⟩ := Machine.exec_reaches computed
  obtain ⟨running, error⟩ := Prod.mk.inj flags
  have active : system.client.lastAsyncWriteError ≠ [] := by simpa using error
  exact ⟨moves, system, run, running, active, (active_error_has_pending run (by decide) running).1 active⟩

end OpcUaAdapter
