import Mathlib.Algebra.BigOperators.Ring.List
import OpcUaAdapter.Proofs.AsyncError
import OpcUaAdapter.Proofs.StopTermination
import OpcUaAdapter.Proofs.WriteOrder

/-! What the worker gets done while the server answers. Each point that enters the queue
pays for the steps until its batch is written, so the worker can only come to rest with
an empty queue, and an error of the past is cleared by then. -/

namespace OpcUaAdapter

/-- Nothing is stopped, and the server can be reached and takes what the worker sends. -/
def Action.delivers : Action → Prop
  | .call _ | .enqueue _ | .clearAsyncWriteError => True
  | .read query exchange => query.invalidRange = true ∨ exchange.unreachable = false
  | .stop => False
  | .work exchange => exchange.succeeds = true

instance : DecidablePred Action.delivers
  | .call _ | .enqueue _ | .clearAsyncWriteError => isTrue trivial
  | .read query exchange => inferInstanceAs (Decidable (query.invalidRange = true ∨ exchange.unreachable = false))
  | .stop => isFalse not_false
  | .work exchange => inferInstanceAs (Decidable (exchange.succeeds = true))

namespace Worker

/-- The batch has used up its attempts and is not put back or counted as dropped yet. -/
def failing (attempts : Nat) : Worker → Bool
  | .busy _ (.sending _ attempt _) => attempts < attempt
  | .busy _ (.failed _) | .busy _ .deciding | .busy _ .dropping => true
  | _ => false

/-- The steps to the wait for more points, when a queued point counts six and an attempt succeeds. -/
def drainSteps (attempts : Nat) : Worker → Nat
  | .exited | .collecting => 0
  | .waiting => 1
  | .looping => 2
  | .busy _ .clearing | .busy _ .dropped => 3
  | .busy _ .written | .busy _ .dropping => 4
  | .busy batch .deciding => 5 + 6 * batch.length
  | .busy batch (.failed _) => 6 + 6 * batch.length
  | .busy batch (.sending _ attempt _) => if attempts < attempt then 7 + 6 * batch.length else 5

end Worker

namespace System

def drainSteps (config : InfluxConfig) (system : System) : Nat :=
  6 * system.client.writeQueue.length + system.worker.drainSteps config.maxAttempts

def Rests (system : System) : Prop := system.worker = .waiting ∧ system.client.writeQueue = []

/-- Neither the destructor nor an error has ended the worker. -/
structure Draining (config : InfluxConfig) (system : System) : Prop where
  capacity : Capacity config system
  running : system.client.stopWriteWorker = false
  sound : system.client.fundamentalErrorOccurred = false
  inside : system.worker ≠ .exited

theorem Draining.maxAttempts {config : InfluxConfig} {system : System} (draining : system.Draining config) :
    system.client.maxAttempts = config.maxAttempts := by
  rw [InfluxClient.maxAttempts, draining.capacity.unchanged]
  rfl

theorem Draining.blocked_iff {calendar : Calendar} {config : InfluxConfig} {system : System}
    (draining : system.Draining config) (exchange : Exchange) :
    (writeMachine calendar).step (.work exchange) system = none ↔ system.Rests := by
  have running := draining.running
  simp only [writeMachine, System.work, Rests]
  cases worker : system.worker with
  | looping | collecting | busy => simp
  | waiting =>
    by_cases empty : system.client.writeQueue = []
    · simp [running, empty]
    · by_cases few : system.client.writeQueue.length < system.client.config.writeBatching.maxBatchPoints
      · simp [running, empty, few]
      · simp [running, empty, few]
  | exited => exact absurd worker draining.inside

end System

theorem InfluxClient.attemptOnce_sound {client after : InfluxClient} {payload : Text} {attempt : Nat} {writeError : Text}
    {exchange : Exchange} (success : exchange.succeeds = true) (sound : client.fundamentalErrorOccurred = false)
    (sent : (client.attemptOnce payload attempt (some writeError) exchange).client = after) :
    after.fundamentalErrorOccurred = false := by
  have flag := (client.attemptOnce_attempted payload attempt (some writeError) exchange).flag
  rw [sent, client.retried_flag, Exchange.succeeds_not_latches success, sound] at flag
  exact flag

/-- What one step of a machine whose server answers leaves to do. -/
structure Drains (config : InfluxConfig) (system : System) (action : Action) (event : Event) (after : System) :
    Prop where
  running : after.client.stopWriteWorker = false
  sound : after.client.fundamentalErrorOccurred = false
  inside : after.worker ≠ .exited
  steps : after.drainSteps config + (if action.works then 1 else 0) ≤
    system.drainSteps config + 6 * event.acceptedPoints.length
  failing : after.worker.failing config.maxAttempts = true → system.worker.failing config.maxAttempts = true
  kept : ∀ point, (point, Fate.discarded) ∈ event.settledPoints → system.worker.failing config.maxAttempts = true

/-- A step that leaves the queue alone and discards nothing. -/
theorem Drains.of_worker {config : InfluxConfig} {system after : System} {action : Action} {event : Event}
    (draining : system.Draining config) (running : after.client.stopWriteWorker = system.client.stopWriteWorker)
    (sound : after.client.fundamentalErrorOccurred = false) (inside : after.worker ≠ .exited)
    (queue : after.client.writeQueue = system.client.writeQueue)
    (steps : after.worker.drainSteps config.maxAttempts + (if action.works then 1 else 0) ≤
      system.worker.drainSteps config.maxAttempts)
    (failing : after.worker.failing config.maxAttempts = true → system.worker.failing config.maxAttempts = true)
    (kept : ∀ point, (point, Fate.discarded) ∉ event.settledPoints) :
    Drains config system action event after := by
  refine ⟨running.trans draining.running, sound, inside, ?_, failing, fun point member => absurd member (kept point)⟩
  rw [System.drainSteps, System.drainSteps, queue]
  omega

private theorem SystemStep.drains {calendar : Calendar} {config : InfluxConfig} {system after : System} {action : Action}
    {event : Event} (step : SystemStep system action event after) (delivers : action.delivers)
    (moved : (writeMachine calendar).step action system = some (event, after))
    (positive : 1 ≤ config.writeBatching.maxBatchPoints) (attempts : 1 ≤ config.maxAttempts)
    (draining : system.Draining config) : Drains config system action event after := by
  have bound := draining.maxAttempts
  obtain ⟨capacity, running, sound, inside⟩ := id draining
  cases step with
  | refused | entered =>
    exact .of_worker draining rfl sound inside rfl (by simp [Action.works]) id (by simp [Event.settledPoints])
  | accepted =>
    refine ⟨running, sound, inside, ?_, id, by simp [Event.settledPoints]⟩
    simp only [System.drainSteps, Action.works, Event.acceptedPoints, List.length_append, List.length_cons,
      List.length_nil, Bool.false_eq_true, if_false]
    omega
  | overflowed | cleared =>
    exact .of_worker draining rfl sound inside rfl (by simp [Action.works]) id (by simp [Event.settledPoints])
  | @read query exchange fundamental =>
    have flag : fundamental = false := by
      simp only [writeMachine, system.client.read_client, Option.some.injEq, Prod.mk.injEq, System.mk.injEq,
        InfluxClient.mk.injEq, sound, Bool.or_false, true_and, and_true] at moved
      rw [← moved]
      rcases delivers with invalid | reachable
      · simp [invalid]
      · simp [reachable]
    exact .of_worker draining rfl flag inside rfl (by simp [Action.works]) id (by simp [Event.settledPoints])
  | stopped => cases delivers
  | left here broken => exact absurd (sound.symm.trans broken) (by simp)
  | waits here | collects here | counted here | repaired here | forgotten here =>
    exact .of_worker draining rfl sound (by simp) rfl (by simp [Action.works, here, Worker.drainSteps])
      (by simp [Worker.failing]) (by simp [Event.settledPoints])
  | reported here | drops here =>
    refine .of_worker draining rfl sound (by simp) rfl ?_ (by simp [here, Worker.failing]) (by simp [Event.settledPoints])
    simp only [Action.works, here, Worker.drainSteps, if_true]
    omega
  | finishes _ _ stopping => exact absurd (running.symm.trans stopping) (by simp)
  | takes count size idle =>
    have pending : 0 < system.client.writeQueue.length := by
      rcases idle with ⟨_, pending⟩ | here
      · exact List.length_pos_iff.mpr pending
      · exact List.length_pos_iff.mpr (capacity.collecting here)
    have taken : 1 ≤ count := by rw [size, capacity.unchanged]; exact le_min pending positive
    have fresh : ¬ config.maxAttempts < 1 := by omega
    refine ⟨running, sound, by simp, ?_, by simp [Worker.failing, fresh], by simp [Event.settledPoints]⟩
    simp only [System.drainSteps, Action.works, Event.acceptedPoints, Worker.drainSteps, if_neg fresh, if_true,
      List.length_drop, List.length_nil]
    omega
  | @acknowledged _ _ _ attempt _ here allowed _ _ _ _ sent =>
    have flag := InfluxClient.attemptOnce_sound delivers sound sent
    have early : ¬ config.maxAttempts < attempt := bound ▸ Nat.not_lt.mpr allowed
    refine .of_worker draining rfl flag (by simp) rfl ?_ (by simp [Worker.failing]) (by simp [Event.settledPoints])
    simp only [Action.works, here, Worker.drainSteps, if_neg early, if_true]
    omega
  | @retries exchange _ payload attempt writeError _ _ unsuccessful =>
    have ok := (system.client.attemptOnce_attempted payload attempt (some writeError) exchange).ok
    exact absurd (ok.symm.trans unsuccessful) (by simp [show exchange.succeeds = true from delivers])
  | @failed _ _ _ attempt _ here exhausted =>
    have spent : config.maxAttempts < attempt := bound ▸ exhausted
    refine .of_worker draining rfl sound (by simp) rfl ?_ ?_ (by simp [Event.settledPoints])
    · simp only [Action.works, here, Worker.drainSteps, if_pos spent, if_true]
      omega
    · simp [here, Worker.failing, spent]
  | requeued here =>
    refine ⟨running, sound, by simp, ?_, by simp [Worker.failing], by simp [Event.settledPoints]⟩
    simp only [System.drainSteps, Action.works, Event.acceptedPoints, Worker.drainSteps, here, if_true,
      List.length_append, List.length_nil]
    omega
  | discarded here =>
    refine ⟨running, sound, by simp, ?_, by simp [Worker.failing], fun _ _ => by simp [here, Worker.failing]⟩
    simp [System.drainSteps, Action.works, Event.acceptedPoints, Worker.drainSteps, here]

theorem System.Draining.step {calendar : Calendar} {config : InfluxConfig} {before after : System} {action : Action}
    {event : Event} (positive : 1 ≤ config.writeBatching.maxBatchPoints) (attempts : 1 ≤ config.maxAttempts)
    (draining : before.Draining config) (delivers : action.delivers)
    (moved : (writeMachine calendar).step action before = some (event, after)) :
    after.Draining config ∧ Drains config before action event after := by
  have step := writeMachine_step moved
  have drains := step.drains delivers moved positive attempts draining
  exact ⟨⟨step.capacity positive draining.capacity, drains.running, drains.sound, drains.inside⟩, drains⟩

theorem SystemStep.work_accepts {system after : System} {exchange : Exchange} {event : Event}
    (step : SystemStep system (.work exchange) event after) : event.acceptedPoints = [] := by
  cases step <;> rfl

section Run

variable {calendar : Calendar} {config : InfluxConfig} {moves : List WriteMove} {system last : System}

private theorem acceptedPoints_length (moves : List WriteMove) :
    (moves.map fun move => 6 * move.event.acceptedPoints.length).sum = 6 * (acceptedPoints moves).length := by
  rw [acceptedPoints, List.length_flatMap, List.sum_map_mul_left]

theorem System.Draining.run (draining : system.Draining config) (positive : 1 ≤ config.writeBatching.maxBatchPoints)
    (attempts : 1 ≤ config.maxAttempts) (rest : (writeMachine calendar).Run system moves last)
    (healthy : ∀ move ∈ moves, move.action.delivers) :
    last.Draining config ∧
      last.drainSteps config + workSteps moves ≤ system.drainSteps config + 6 * (acceptedPoints moves).length := by
  rw [← acceptedPoints_length]
  exact rest.spendsGrants (fun move => move.action.works) (fun move => 6 * move.event.acceptedPoints.length)
    (System.drainSteps config) Action.delivers (System.Draining config) draining healthy
    fun before action event after held allowed moved =>
      have ⟨still, drains⟩ := held.step positive attempts allowed moved
      ⟨still, drains.steps⟩

/-- Only the batch that had used up its attempts at the start can be discarded. -/
theorem System.Draining.keeps (draining : system.Draining config)
    (positive : 1 ≤ config.writeBatching.maxBatchPoints)
    (attempts : 1 ≤ config.maxAttempts) (rest : (writeMachine calendar).Run system moves last)
    (healthy : ∀ move ∈ moves, move.action.delivers) (fresh : system.worker.failing config.maxAttempts = false)
    (point : PendingWritePoint) : (point, Fate.discarded) ∉ settledPoints moves := by
  refine (rest.invariant (fun moves last => (∀ move ∈ moves, move.action.delivers) → last.Draining config ∧
    last.worker.failing config.maxAttempts = false ∧ (point, Fate.discarded) ∉ settledPoints moves)
    (fun _ => ⟨draining, fresh, by simp [settledPoints]⟩) ?_ healthy).2.2
  intro moves before action event after ih moved healthy
  obtain ⟨held, clean, none⟩ := ih fun move member => healthy move (List.mem_append_left _ member)
  obtain ⟨still, drains⟩ := held.step positive attempts (healthy ⟨before, action, event⟩ (by simp)) moved
  refine ⟨still, Bool.eq_false_iff.mpr fun failing => ?_, fun member => ?_⟩
  · simpa [clean] using drains.failing failing
  · rw [settledPoints_append] at member
    rcases List.mem_append.mp member with earlier | now
    · exact none earlier
    · simpa [clean] using drains.kept point now

theorem System.Draining.acknowledges (draining : system.Draining config)
    (positive : 1 ≤ config.writeBatching.maxBatchPoints)
    (attempts : 1 ≤ config.maxAttempts) (rest : (writeMachine calendar).Run system moves last)
    (healthy : ∀ move ∈ moves, move.action.delivers) (fresh : system.worker.failing config.maxAttempts = false) :
    acknowledgedPoints moves = (settledPoints moves).map Prod.fst := by
  have kept := draining.keeps positive attempts rest healthy fresh
  apply congrArg (List.map Prod.fst)
  apply List.filter_eq_self.mpr
  intro ⟨point, fate⟩ member
  cases fate with
  | delivered => rfl
  | discarded => exact absurd member (kept point)

theorem WriteRun.settles {earlier : List WriteMove} (reached : WriteRun calendar config earlier system)
    (rest : (writeMachine calendar).Run system moves last) :
    (settledPoints moves).map Prod.fst ++ last.worker.inFlight ++ last.client.writeQueue =
      system.worker.inFlight ++ system.client.writeQueue ++ acceptedPoints moves := by
  have before := WriteRun.conserved reached
  have after := WriteRun.conserved (Machine.Run.trans reached rest)
  simp only [acceptedPoints, settledPoints, List.flatMap_append, List.map_append, List.append_assoc] at before after ⊢
  rw [before, List.append_assoc] at after
  have rest := List.append_cancel_left after
  rw [List.append_assoc] at rest
  exact rest.symm

/-- The worker alone gets to rest, whatever it was doing. -/
theorem System.Draining.rests (calendar : Calendar) (draining : system.Draining config)
    (positive : 1 ≤ config.writeBatching.maxBatchPoints) (attempts : 1 ≤ config.maxAttempts) {exchange : Exchange}
    (success : exchange.succeeds = true) : ∃ moves last, (writeMachine calendar).Run system moves last ∧
      (∀ move ∈ moves, move.action = .work exchange) ∧ last.Rests := by
  generalize budget : system.drainSteps config = steps
  induction steps using Nat.strong_induction_on generalizing system with
  | _ steps ih =>
    by_cases resting : system.Rests
    · exact ⟨[], system, .start, by simp, resting⟩
    · have free : (writeMachine calendar).step (.work exchange) system ≠ none :=
        mt (draining.blocked_iff exchange).mp resting
      obtain ⟨⟨event, after⟩, moved⟩ := Option.ne_none_iff_exists'.mp free
      obtain ⟨still, drains⟩ := draining.step positive attempts (show Action.delivers (.work exchange) from success) moved
      have nothing : event.acceptedPoints = [] := (writeMachine_step moved).work_accepts
      have fewer : after.drainSteps config < steps := by
        have := drains.steps
        simp only [Action.works, nothing, List.length_nil, if_true] at this
        omega
      obtain ⟨moves, last, run, same, rests⟩ := ih _ fewer still rfl
      refine ⟨_, last, (Machine.Run.single moved).trans run, ?_, rests⟩
      intro move member
      rcases List.mem_append.mp member with first | later
      · cases List.mem_singleton.mp first
        rfl
      · exact same move later

end Run

/-- While the server answers and nothing is stopped, the steps of the worker are bounded
by what is queued and accepted, it is blocked only at rest, and it gets there. At rest
every point has been settled in its order, all of them are written unless a batch had
used up its attempts before, and no error of the past turns new points away. -/
theorem write_worker_drains {calendar : Calendar} {config : InfluxConfig} {earlier moves : List WriteMove}
    {system last : System} (reached : WriteRun calendar config earlier system)
    (rest : (writeMachine calendar).Run system moves last) (healthy : ∀ move ∈ moves, move.action.delivers)
    (positive : 1 ≤ config.writeBatching.maxBatchPoints) (attempts : 1 ≤ config.maxAttempts)
    (running : system.client.stopWriteWorker = false) (sound : system.client.fundamentalErrorOccurred = false)
    (inside : system.worker ≠ .exited) :
    workSteps moves ≤ system.drainSteps config + 6 * (acceptedPoints moves).length ∧
      (∀ exchange, (writeMachine calendar).step (.work exchange) last = none ↔ last.Rests) ∧
      (∀ exchange, exchange.succeeds = true → ∃ later final, (writeMachine calendar).Run last later final ∧
        (∀ move ∈ later, move.action = .work exchange) ∧ final.Rests) ∧
      (last.Rests →
        (settledPoints moves).map Prod.fst =
            system.worker.inFlight ++ system.client.writeQueue ++ acceptedPoints moves ∧
          (system.worker.failing config.maxAttempts = false → acknowledgedPoints moves =
            system.worker.inFlight ++ system.client.writeQueue ++ acceptedPoints moves) ∧
          last.client.hasAsyncWriteError = false ∧ last.client.refusesWrites = false) := by
  have draining : system.Draining config := ⟨reached.capacity positive, running, sound, inside⟩
  obtain ⟨held, bounded⟩ := draining.run positive attempts rest healthy
  refine ⟨Nat.le_of_add_left_le bounded, held.blocked_iff,
    fun _ success => held.rests calendar positive attempts success, fun ⟨waiting, empty⟩ => ?_⟩
  have settled := WriteRun.settles reached rest
  rw [waiting, empty, show Worker.waiting.inFlight = [] from rfl, List.append_nil, List.append_nil] at settled
  have clear : last.client.lastAsyncWriteError = [] := by
    by_contra error
    have backed := WriteRun.errorBacked (Machine.Run.trans reached rest) positive
    rcases backed.active error held.running with queued | busy
    · exact queued empty
    · simp [waiting, Worker.holdsBatch] at busy
  refine ⟨settled, fun fresh => ?_, by simp [InfluxClient.hasAsyncWriteError, clear],
    by simp [InfluxClient.refusesWrites, InfluxClient.hasAsyncWriteError, clear]⟩
  rw [← settled, draining.acknowledges positive attempts rest healthy fresh]

/-- A batch was refused and put back. The server then takes it with the point that has come since. -/
theorem write_worker_drains_after_failure : ∃ earlier moves system last,
    WriteRun demoCalendar demoConfig earlier system ∧ (writeMachine demoCalendar).Run system moves last ∧
      system.client.hasAsyncWriteError = true ∧ last.Rests ∧ last.client.refusesWrites = false ∧
      acknowledgedPoints moves = [demoPoint "a", demoPoint "b"] := by
  let client : InfluxClient :=
    { config := demoConfig
      writeQueue := [demoPoint "a"]
      batchWriteFailures := 1
      errorCode := 503
      lastAsyncWriteError := "Write failed with HTTP 503: unavailable" }
  let failed : System := ⟨client, .looping, []⟩
  have first : ((writeMachine demoCalendar).exec (demoWrite "a" ++ demoTake ++ demoFail demoBusy)
      (System.initial demoConfig)).map (fun run => run.2) = some failed := by decide
  have second : ((writeMachine demoCalendar).exec (demoWrite "b" ++ List.replicate 7 (.work demoDelivered)) failed).map
      (fun run => (run.1.all fun move => move.action.delivers, run.2.worker, run.2.client.writeQueue,
        acknowledgedPoints run.1)) = some (true, .waiting, [], [demoPoint "a", demoPoint "b"]) := by decide
  obtain ⟨earlier, system, reached, same⟩ := Machine.exec_reaches first
  obtain ⟨moves, last, rest, seen⟩ := Machine.exec_reaches second
  simp only [Prod.mk.injEq, List.all_eq_true, decide_eq_true_eq] at seen
  obtain ⟨healthy, waiting, empty, written⟩ := seen
  obtain rfl : system = failed := same
  have drained := write_worker_drains reached rest healthy (by decide) (by decide) rfl rfl (by decide)
  exact ⟨earlier, moves, failed, last, reached, rest, rfl, ⟨waiting, empty⟩, (drained.2.2.2 ⟨waiting, empty⟩).2.2.2, written⟩

end OpcUaAdapter
