import Mathlib.Algebra.Order.Floor.Div
import OpcUaAdapter.Proofs.BatchAttempts
import OpcUaAdapter.Proofs.WriteCapacity

/-! After a stop request the worker comes to an end. A batch is never put back any more,
so each batch it takes makes the queue shorter. Only a loop of attempts whose bound is
the largest `size_t` does not end. -/

namespace OpcUaAdapter

/-- No further call of `writePoint` is made or gets to the queue lock. -/
def Action.quiet : Action → Prop
  | .call _ | .enqueue _ => False
  | .read _ _ | .clearAsyncWriteError | .stop | .work _ => True

def Action.works : Action → Bool
  | .work _ => true
  | _ => false

def Event.takes (event : Event) : Bool := event.takenBatch.isSome

def workSteps (moves : List WriteMove) : Nat := moves.countP fun move => move.action.works

/-- The steps of the worker up to the loop condition, where it needs at most two more to leave. -/
def Worker.stepsLeft (attempts : Nat) : Worker → Nat
  | .exited => 0
  | .waiting | .collecting => 1
  | .looping => 2
  | .busy _ .clearing | .busy _ .dropped => 3
  | .busy _ .written | .busy _ .dropping => 4
  | .busy _ .deciding => 5
  | .busy _ (.failed _) => 6
  | .busy _ (.sending _ attempt _) => 7 + (attempts + 1 - attempt)

/-- The bound of the loop of attempts, as `size_t`. -/
def InfluxConfig.maxAttempts (config : InfluxConfig) : Nat := (config.writeBatching.maxRetries + 1) % 2 ^ 64

namespace System

def batchesLeft (config : InfluxConfig) (system : System) : Nat :=
  system.client.writeQueue.length ⌈/⌉ config.writeBatching.maxBatchPoints

/-- The steps the worker has left when nothing is added to the queue. -/
def stepsLeft (config : InfluxConfig) (system : System) : Nat :=
  system.batchesLeft config * (config.maxAttempts + 7) + system.worker.stepsLeft config.maxAttempts

/-- The worker of a client with this configuration has been asked to stop. -/
structure Stopping (config : InfluxConfig) (system : System) : Prop where
  unchanged : system.client.config = config
  requested : system.client.stopWriteWorker = true

theorem Stopping.maxAttempts {config : InfluxConfig} {system : System} (stopping : system.Stopping config) :
    system.client.maxAttempts = config.maxAttempts := by
  rw [InfluxClient.maxAttempts, stopping.unchanged]
  rfl

end System

private theorem ceilDiv_take {length size : Nat} (positive : 1 ≤ size) (pending : 0 < length) :
    (length - min length size) ⌈/⌉ size + 1 = length ⌈/⌉ size := by
  rw [Nat.ceilDiv_eq_add_pred_div, Nat.ceilDiv_eq_add_pred_div]
  rcases Nat.le_total length size with short | long
  · have rest : length - min length size = 0 := by omega
    have whole : length + size - 1 = (length - 1) + size := by omega
    rw [rest, whole, Nat.add_div_right _ positive, Nat.div_eq_of_lt (by omega : length - 1 < size),
      Nat.div_eq_of_lt (by omega)]
  · have rest : length - min length size + size - 1 = length - 1 := by omega
    have whole : length + size - 1 = (length - 1) + size := by omega
    rw [rest, whole, Nat.add_div_right _ positive]

/-- What one step leaves to do once stop has been requested and nothing is added. -/
structure Shortens (config : InfluxConfig) (system : System) (action : Action) (event : Event) (after : System) :
    Prop where
  stopping : after.Stopping config
  kept : ∀ batch, event ≠ .requeued batch
  queue : event.takes = false → after.client.writeQueue = system.client.writeQueue
  batches : after.batchesLeft config + (if event.takes then 1 else 0) ≤ system.batchesLeft config
  steps : config.maxAttempts < 2 ^ 64 - 1 →
    after.stepsLeft config + (if action.works then 1 else 0) ≤ system.stepsLeft config

/-- A step that leaves the queue alone and takes the worker one step further. -/
theorem Shortens.of_worker {config : InfluxConfig} {system after : System} {action : Action} {event : Event}
    (stopping : after.Stopping config) (kept : ∀ batch, event ≠ .requeued batch) (same : event.takes = false)
    (queue : after.client.writeQueue = system.client.writeQueue)
    (steps : config.maxAttempts < 2 ^ 64 - 1 → after.worker.stepsLeft config.maxAttempts +
      (if action.works then 1 else 0) ≤ system.worker.stepsLeft config.maxAttempts) :
    Shortens config system action event after := by
  have batches : after.batchesLeft config = system.batchesLeft config := by
    rw [System.batchesLeft, System.batchesLeft, queue]
  refine ⟨stopping, kept, fun _ => queue, by simp [same, batches], fun finite => ?_⟩
  have := steps finite
  rw [System.stepsLeft, System.stepsLeft, batches]
  omega

private theorem SystemStep.shortens {config : InfluxConfig} {system after : System} {action : Action} {event : Event}
    (step : SystemStep system action event after) (quiet : action.quiet)
    (positive : 1 ≤ config.writeBatching.maxBatchPoints) (collecting : system.worker = .collecting → system.client.writeQueue ≠ [])
    (stopping : system.Stopping config) : Shortens config system action event after := by
  have attempts := stopping.maxAttempts
  obtain ⟨unchanged, requested⟩ := stopping
  cases step with
  | refused | entered | accepted | overflowed => cases quiet
  | read | cleared => exact .of_worker ⟨unchanged, requested⟩ (by simp) rfl rfl (by simp [Action.works])
  | stopped => exact .of_worker ⟨unchanged, rfl⟩ (by simp) rfl rfl (by simp [Action.works])
  | collects _ running => exact absurd (requested.symm.trans running) (by simp)
  | requeued _ running => exact absurd (requested.symm.trans running) (by simp)
  | left here | waits here | counted here | repaired here | reported here | drops here | discarded here | forgotten here =>
    exact .of_worker ⟨unchanged, requested⟩ (by simp) rfl rfl (by simp [Action.works, here, Worker.stepsLeft])
  | finishes idle =>
    refine .of_worker ⟨unchanged, requested⟩ (by simp) rfl rfl fun _ => ?_
    rcases idle with here | here <;> simp [Action.works, here, Worker.stepsLeft]
  | acknowledged here allowed =>
    refine .of_worker ⟨unchanged, requested⟩ (by simp) rfl rfl fun _ => ?_
    simp [Action.works, here, Worker.stepsLeft]
    omega
  | retries here allowed =>
    refine .of_worker ⟨unchanged, requested⟩ (by simp) rfl rfl fun finite => ?_
    simp [Action.works, here, Worker.stepsLeft]
    omega
  | failed here exhausted =>
    refine .of_worker ⟨unchanged, requested⟩ (by simp) rfl rfl fun _ => ?_
    simp [Action.works, here, Worker.stepsLeft]
  | takes count size idle =>
    have pending : system.client.writeQueue ≠ [] := by
      rcases idle with ⟨_, pending⟩ | here
      · exact pending
      · exact collecting here
    have batches : (system.client.writeQueue.drop count).length ⌈/⌉ config.writeBatching.maxBatchPoints + 1 =
        system.batchesLeft config := by
      rw [List.length_drop, size, unchanged]
      exact ceilDiv_take positive (List.length_pos_iff.mpr pending)
    have worker : system.worker.stepsLeft config.maxAttempts = 1 := by
      rcases idle with ⟨here, _⟩ | here <;> simp [here, Worker.stepsLeft]
    refine ⟨⟨unchanged, requested⟩, by simp, (fun same => by cases same), Nat.le_of_eq batches, fun _ => ?_⟩
    rw [System.stepsLeft, System.stepsLeft, worker, ← batches, Nat.add_mul]
    simp only [System.batchesLeft, Action.works, Worker.stepsLeft, reduceIte]
    omega

/-- The worker has been asked to stop, in a state that a run reaches. -/
structure Closing (config : InfluxConfig) (system : System) : Prop where
  capacity : Capacity config system
  stopping : system.Stopping config

theorem Closing.step {calendar : Calendar} {config : InfluxConfig} {before after : System} {action : Action}
    {event : Event} (positive : 1 ≤ config.writeBatching.maxBatchPoints) (closing : Closing config before)
    (quiet : action.quiet) (moved : (writeMachine calendar).step action before = some (event, after)) :
    Closing config after ∧ Shortens config before action event after := by
  have step := writeMachine_step moved
  have shortens := step.shortens quiet positive closing.capacity.collecting closing.stopping
  exact ⟨⟨step.capacity positive closing.capacity, shortens.stopping⟩, shortens⟩

/-- As long as it has not left the loop, the worker is never blocked. -/
theorem Closing.works {calendar : Calendar} {config : InfluxConfig} {system : System} (closing : Closing config system)
    (inside : system.worker ≠ .exited) (exchange : Exchange) :
    ((writeMachine calendar).step (.work exchange) system).isSome := by
  have requested := closing.stopping.requested
  simp only [writeMachine, System.work]
  cases worker : system.worker with
  | looping | collecting | busy => rfl
  | waiting => simp [requested]
  | exited => exact absurd worker inside

section Run

variable {calendar : Calendar} {config : InfluxConfig} {moves : List WriteMove} {system last : System}

theorem Closing.run (closing : Closing config system) (positive : 1 ≤ config.writeBatching.maxBatchPoints)
    (rest : (writeMachine calendar).Run system moves last) (quiet : ∀ move ∈ moves, move.action.quiet) :
    Closing config last ∧ (∀ move ∈ moves, ∀ batch, move.event ≠ .requeued batch) ∧
      (takenBatches moves = [] → last.client.writeQueue = system.client.writeQueue) := by
  refine rest.invariant (fun moves last => (∀ move ∈ moves, move.action.quiet) → Closing config last ∧
    (∀ move ∈ moves, ∀ batch, move.event ≠ .requeued batch) ∧
      (takenBatches moves = [] → last.client.writeQueue = system.client.writeQueue))
    (fun _ => ⟨closing, by simp, fun _ => rfl⟩) ?_ quiet
  intro moves before action event after ih moved quiet
  obtain ⟨held, kept, queue⟩ := ih fun move member => quiet move (List.mem_append_left _ member)
  obtain ⟨still, shortens⟩ := held.step positive (quiet ⟨before, action, event⟩ (by simp)) moved
  refine ⟨still, fun move member => ?_, fun none => ?_⟩
  · rcases List.mem_append.mp member with old | new
    · exact kept move old
    · cases List.mem_singleton.mp new
      exact shortens.kept
  · rw [takenBatches_append] at none
    obtain ⟨before, now⟩ := List.append_eq_nil_iff.mp none
    rw [shortens.queue (by simpa [Event.takes] using now), queue before]

theorem Closing.batches (closing : Closing config system) (positive : 1 ≤ config.writeBatching.maxBatchPoints)
    (rest : (writeMachine calendar).Run system moves last) (quiet : ∀ move ∈ moves, move.action.quiet) :
    (takenBatches moves).length ≤ system.batchesLeft config := by
  have bounded := (rest.spends (fun move => move.event.takes) (System.batchesLeft config) Action.quiet (Closing config)
    closing quiet fun before action event after held allowed moved =>
      have ⟨still, shortens⟩ := held.step positive allowed moved
      ⟨still, shortens.batches⟩).2
  rw [takenBatches, List.length_filterMap_eq_countP]
  exact Nat.le_of_add_left_le bounded

theorem Closing.steps (closing : Closing config system) (positive : 1 ≤ config.writeBatching.maxBatchPoints)
    (finite : config.maxAttempts < 2 ^ 64 - 1)
    (rest : (writeMachine calendar).Run system moves last) (quiet : ∀ move ∈ moves, move.action.quiet) :
    workSteps moves ≤ system.stepsLeft config := by
  have bounded := (rest.spends (fun move => move.action.works) (System.stepsLeft config) Action.quiet (Closing config)
    closing quiet fun before action event after held allowed moved =>
      have ⟨still, shortens⟩ := held.step positive allowed moved
      ⟨still, shortens.steps finite⟩).2
  exact Nat.le_of_add_left_le bounded

end Run

/-- Whatever the sends meet, the worker leaves its loop after a stop request: its steps
are bounded and it is never blocked. Until then it takes no more batches than the queue
makes, and puts none back. -/
def EndsAfterStop (calendar : Calendar) (config : InfluxConfig) : Prop :=
  ∀ earlier system, WriteRun calendar config earlier system → system.client.stopWriteWorker = true →
    ∃ bound, ∀ moves last, (writeMachine calendar).Run system moves last → (∀ move ∈ moves, move.action.quiet) →
      workSteps moves ≤ bound ∧
      (last.worker ≠ .exited → ∀ exchange, ((writeMachine calendar).step (.work exchange) last).isSome) ∧
      (takenBatches moves).length ≤ system.client.writeQueue.length ⌈/⌉ config.writeBatching.maxBatchPoints ∧
      (takenBatches moves = [] → last.client.writeQueue = system.client.writeQueue) ∧
      ∀ move ∈ moves, ∀ batch, move.event ≠ .requeued batch

section Endless

variable {calendar : Calendar} {batch callers : List PendingWritePoint}

theorem sending_endless {client : InfluxClient} (endless : client.maxAttempts = 2 ^ 64 - 1) (count : Nat)
    {payload : Text} {attempt : Nat} (represented : attempt < 2 ^ 64) (writeError : Text) :
    ∃ moves last, (writeMachine calendar).Run ⟨client, .busy batch (.sending payload attempt writeError), callers⟩ moves last ∧
      (∀ move ∈ moves, move.action.quiet) ∧ workSteps moves = count := by
  induction count generalizing client attempt writeError with
  | zero => exact ⟨[], _, .start, by simp, rfl⟩
  | succ count ih =>
    obtain ⟨text, filled⟩ := Option.isSome_iff_exists.mp
      (client.attemptOnce_attempted payload attempt (some writeError) .noEncodeHandle).reported
    have moved := InfluxClient.sending_fails calendar batch callers
      (by omega : attempt ≤ client.maxAttempts) (rfl : Exchange.succeeds .noEncodeHandle = false) filled
    have same : (client.attemptOnce payload attempt (some writeError) .noEncodeHandle).client.maxAttempts = 2 ^ 64 - 1 := by
      obtain ⟨code, fundamental, retries, sent⟩ := client.attemptOnce_client payload attempt (some writeError) .noEncodeHandle
      rw [sent]
      exact endless
    obtain ⟨moves, last, run, quiet, steps⟩ := ih same (Nat.mod_lt (attempt + 1) (by decide)) text
    refine ⟨_, last, (Machine.Run.single moved).trans run, ?_, ?_⟩
    · intro move member
      rcases List.mem_append.mp member with first | later
      · cases List.mem_singleton.mp first
        trivial
      · exact quiet move later
    · simp only [workSteps] at steps ⊢
      rw [List.countP_append, steps, Nat.add_comm]
      rfl

theorem stopped_with_batch {config : InfluxConfig} (enabled : config.writeBatching.enabled = true)
    (positive : 1 ≤ config.writeBatching.maxBatchPoints) (room : 1 ≤ config.writeBatching.maxQueuePoints) :
    ∃ earlier client payload, WriteRun calendar config earlier ⟨client, .busy [demoPoint "a"] (.sending payload 1 []), []⟩ ∧
      client.config = config ∧ client.stopWriteWorker = true := by
  have start : (System.initial config).worker = .looping := by simp [System.initial, enabled]
  let client : InfluxClient := { config }
  let queued : InfluxClient := { client with writeQueue := [demoPoint "a"] }
  have called : (writeMachine calendar).step (.call (demoPoint "a")) (System.initial config) =
      some (.silent, ⟨client, .looping, [demoPoint "a"]⟩) := by
    simp [writeMachine, System.initial, enabled, InfluxClient.refusesWrites, InfluxClient.hasAsyncWriteError, client]
  have accepted : (writeMachine calendar).step (.enqueue 0) ⟨client, .looping, [demoPoint "a"]⟩ =
      some (.accepted (demoPoint "a"), ⟨queued, .looping, []⟩) := by
    simp [writeMachine, InfluxClient.enqueue, client, queued, Nat.not_le.mpr room]
  have waits : (writeMachine calendar).step (.work .noEncodeHandle) ⟨queued, .looping, []⟩ =
      some (.silent, ⟨queued, .waiting, []⟩) := rfl
  have stopped : (writeMachine calendar).step .stop ⟨queued, .waiting, []⟩ =
      some (.silent, ⟨{ queued with stopWriteWorker := true }, .waiting, []⟩) := by
    simp [writeMachine, queued, client, enabled]
  have one : min 1 config.writeBatching.maxBatchPoints = 1 := by omega
  have taken : (writeMachine calendar).step (.work .noEncodeHandle)
      ⟨{ queued with stopWriteWorker := true }, .waiting, []⟩ =
      some (.taken [demoPoint "a"],
        ⟨{ client with stopWriteWorker := true }, .busy [demoPoint "a"] (.sending (batchPayload config [demoPoint "a"]) 1 []), []⟩) := by
    simp [writeMachine, System.work, System.takeBatch, queued, client, one, moveFront]
  exact ⟨_, _, _, ((((Machine.Run.start.next called).next accepted).next waits).next stopped).next taken, rfl, rfl⟩

private theorem not_endsAfterStop {config : InfluxConfig} (enabled : config.writeBatching.enabled = true)
    (positive : 1 ≤ config.writeBatching.maxBatchPoints) (room : 1 ≤ config.writeBatching.maxQueuePoints)
    (endless : (config.writeBatching.maxRetries + 1) % 2 ^ 64 = 2 ^ 64 - 1) : ¬ EndsAfterStop calendar config := by
  intro ends
  obtain ⟨earlier, client, payload, run, same, requested⟩ := @stopped_with_batch calendar config enabled positive room
  obtain ⟨bound, bounded⟩ := ends earlier _ run requested
  have attempts : client.maxAttempts = 2 ^ 64 - 1 := by rw [InfluxClient.maxAttempts, same, endless]
  obtain ⟨moves, last, rest, quiet, steps⟩ := sending_endless attempts (bound + 1) (show 1 < 2 ^ 64 by decide) []
  have := (bounded moves last rest quiet).1
  omega

end Endless

theorem ends_after_stop_iff {calendar : Calendar} {config : InfluxConfig} (enabled : config.writeBatching.enabled = true)
    (positive : 1 ≤ config.writeBatching.maxBatchPoints) (room : 1 ≤ config.writeBatching.maxQueuePoints) :
    EndsAfterStop calendar config ↔ (config.writeBatching.maxRetries + 1) % 2 ^ 64 ≠ 2 ^ 64 - 1 := by
  constructor
  · exact fun ends endless => not_endsAfterStop enabled positive room endless ends
  · intro finite earlier system run requested
    have capacity := run.capacity positive
    have closing : Closing config system := ⟨capacity, capacity.unchanged, requested⟩
    have limit : config.maxAttempts < 2 ^ 64 - 1 := by
      have := Nat.mod_lt (config.writeBatching.maxRetries + 1) (by decide : 0 < 2 ^ 64)
      change (config.writeBatching.maxRetries + 1) % 2 ^ 64 < _
      omega
    refine ⟨system.stepsLeft config, fun moves last rest quiet => ?_⟩
    obtain ⟨still, kept, queue⟩ := closing.run positive rest quiet
    exact ⟨closing.steps positive limit rest quiet, fun inside => still.works inside,
      closing.batches positive rest quiet, queue, kept⟩

theorem demo_ends_after_stop : EndsAfterStop demoCalendar demoConfig :=
  (ends_after_stop_iff (by decide) (by decide) (by decide)).mpr (by decide)

/-- With 2^64 - 2 retries the attempt counter never passes the bound. -/
theorem largest_retries_never_end : ¬ ∀ calendar config, config.writeBatching.enabled = true →
    1 ≤ config.writeBatching.maxBatchPoints → 1 ≤ config.writeBatching.maxQueuePoints →
    EndsAfterStop calendar config := by
  intro ends
  let config : InfluxConfig := { writeBatching := { maxRetries := 2 ^ 64 - 2 } }
  exact not_endsAfterStop rfl (by decide) (by decide) (by decide)
    (ends demoCalendar config rfl (by decide) (by decide))

end OpcUaAdapter
