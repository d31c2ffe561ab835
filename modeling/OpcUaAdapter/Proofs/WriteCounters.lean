import OpcUaAdapter.Proofs.WriteHistory

/-! The write statistics are a balance. Every call of `writePoint` that reached the
queue lock is found in exactly one term, whatever the worker and the server do. -/

namespace OpcUaAdapter

structure Balanced (moves : List WriteMove) (system : System) : Prop where
  calls : moves.countP admitsCall =
    system.callers.length + ((acceptedPoints moves).length + (overflowedPoints moves).length)
  points : (acceptedPoints moves).length + (overflowedPoints moves).length =
    system.client.writeQueue.length + system.worker.uncounted.length +
      system.client.pointsWritten + system.client.pointsDropped
  batches : system.client.batchesWritten = moves.countP fun move => move.event.acknowledges
  failures : system.client.batchWriteFailures = moves.countP fun move => move.event.fails

theorem Balanced.initial (config : InfluxConfig) : Balanced [] (System.initial config) := by
  refine ⟨rfl, ?_, rfl, rfl⟩
  simp only [System.initial]
  split <;> rfl

private theorem SystemStep.calls {system after : System} {action : Action} {event : Event}
    (step : SystemStep system action event after) :
    system.callers.length + (if admitsCall ⟨system, action, event⟩ then 1 else 0) =
      after.callers.length + (event.acceptedPoints.length + event.overflowedPoints.length) := by
  cases step with
  | accepted found | overflowed found =>
    obtain ⟨inside, _⟩ := List.getElem?_eq_some_iff.mp found
    have left := List.length_eraseIdx_of_lt inside
    simp only [admitsCall, Event.acceptedPoints, Event.overflowedPoints, List.length_singleton, List.length_nil,
      Bool.false_eq_true, ite_false]
    omega
  | entered => simp [admitsCall, Event.acceptedPoints, Event.overflowedPoints]
  | refused | read | cleared | stopped | left | waits | collects | finishes | takes | acknowledged | retries
  | failed | counted | repaired | reported | requeued | drops | discarded | forgotten =>
    simp [admitsCall, Event.acceptedPoints, Event.overflowedPoints]

private theorem SystemStep.points {system after : System} {action : Action} {event : Event}
    (step : SystemStep system action event after) :
    system.client.writeQueue.length + system.worker.uncounted.length + system.client.pointsWritten +
        system.client.pointsDropped + event.acceptedPoints.length + event.overflowedPoints.length =
      after.client.writeQueue.length + after.worker.uncounted.length + after.client.pointsWritten +
        after.client.pointsDropped := by
  cases step with
  | refused | entered | read | cleared | stopped =>
    simp [Event.acceptedPoints, Event.overflowedPoints]
  | accepted | overflowed =>
    simp only [Event.acceptedPoints, Event.overflowedPoints, List.length_append, List.length_cons, List.length_nil]
    omega
  | left here | waits here | collects here | retries here | failed here | repaired here | reported here
  | drops here | forgotten here | acknowledged here =>
    simp [here, Event.acceptedPoints, Event.overflowedPoints, Worker.uncounted, Phase.uncounted]
  | finishes idle =>
    rcases idle with here | here
    all_goals simp [here, Event.acceptedPoints, Event.overflowedPoints, Worker.uncounted]
  | takes count size idle =>
    have free : system.worker.uncounted = [] := by
      rcases idle with ⟨waiting, _⟩ | collecting
      · simp [waiting, Worker.uncounted]
      · simp [collecting, Worker.uncounted]
    rw [free]
    simp only [Worker.uncounted, Phase.uncounted, Event.acceptedPoints, Event.overflowedPoints,
      ite_true, List.length_nil, List.length_take, List.length_drop]
    omega
  | counted here | discarded here =>
    simp only [here, Event.acceptedPoints, Event.overflowedPoints, Worker.uncounted, Phase.uncounted,
      ite_true, Bool.false_eq_true, ite_false, List.length_nil]
    omega
  | requeued here =>
    simp only [here, Event.acceptedPoints, Event.overflowedPoints, Worker.uncounted, Phase.uncounted,
      ite_true, List.length_append, List.length_nil]
    omega

private theorem SystemStep.batches {system after : System} {action : Action} {event : Event}
    (step : SystemStep system action event after) :
    after.client.batchesWritten = system.client.batchesWritten + (if event.acknowledges then 1 else 0) ∧
      after.client.batchWriteFailures = system.client.batchWriteFailures + (if event.fails then 1 else 0) := by
  cases step <;> exact ⟨rfl, rfl⟩

theorem SystemStep.balanced {system after : System} {action : Action} {event : Event}
    (step : SystemStep system action event after) {moves : List WriteMove} (kept : Balanced moves system) :
    Balanced (moves ++ [⟨system, action, event⟩]) after := by
  obtain ⟨written, failed⟩ := step.batches
  refine ⟨?_, ?_, ?_, ?_⟩
  · have before := kept.calls
    have change := step.calls
    simp only [List.countP_append, List.countP_singleton, acceptedPoints_append, overflowedPoints_append,
      List.length_append]
    omega
  · have before := kept.points
    have change := step.points
    simp only [acceptedPoints_append, overflowedPoints_append, List.length_append]
    omega
  · simp [written, kept.batches, List.countP_append, List.countP_singleton]
  · simp [failed, kept.failures, List.countP_append, List.countP_singleton]

theorem WriteRun.balanced {calendar : Calendar} {config : InfluxConfig} {moves : List WriteMove} {system : System}
    (run : WriteRun calendar config moves system) : Balanced moves system :=
  run.invariant Balanced (Balanced.initial config)
    (fun _ _ _ _ _ kept moved => (writeMachine_step moved).balanced kept)

theorem SystemStep.requeue_counts {system after : System} {action : Action} {batch : List PendingWritePoint}
    (step : SystemStep system action (.requeued batch) after) :
    after.client.pointsWritten = system.client.pointsWritten ∧
      after.client.pointsDropped = system.client.pointsDropped := by
  cases step
  exact ⟨rfl, rfl⟩

/-- The balance of the statistics in every reachable state. A call that fail-fast does not
reject is still before the queue lock or has returned, and the points of the calls that
returned are queued, in a batch that is not counted yet, written or dropped. -/
theorem write_stats_balance {calendar : Calendar} {config : InfluxConfig} {moves : List WriteMove} {system : System}
    (run : WriteRun calendar config moves system) :
    moves.countP admitsCall =
        system.callers.length + ((acceptedPoints moves).length + (overflowedPoints moves).length) ∧
      (acceptedPoints moves).length + (overflowedPoints moves).length =
        system.client.getWriteStats.queuedPoints + system.worker.uncounted.length +
          system.client.getWriteStats.pointsWritten + system.client.getWriteStats.pointsDropped ∧
      system.client.getWriteStats.batchesWritten = (moves.countP fun move => move.event.acknowledges) ∧
      system.client.getWriteStats.batchWriteFailures = (moves.countP fun move => move.event.fails) ∧
      ∀ action batch after, (writeMachine calendar).step action system = some (.requeued batch, after) →
        after.client.getWriteStats.pointsWritten = system.client.getWriteStats.pointsWritten ∧
          after.client.getWriteStats.pointsDropped = system.client.getWriteStats.pointsDropped := by
  have balanced := run.balanced
  refine ⟨balanced.calls, balanced.points, balanced.batches, balanced.failures, ?_⟩
  intro action batch after moved
  exact (writeMachine_step moved).requeue_counts

theorem write_stats_balance_after_requeue :
    ∃ moves system, WriteRun demoCalendar demoConfig moves system ∧
      system.client.getWriteStats.batchWriteFailures = 1 ∧ system.client.getWriteStats.pointsWritten = 1 ∧
      (acceptedPoints moves).length + (overflowedPoints moves).length =
        system.client.getWriteStats.queuedPoints + system.worker.uncounted.length +
          system.client.getWriteStats.pointsWritten + system.client.getWriteStats.pointsDropped := by
  have computed : ((writeMachine demoCalendar).exec
      (demoWrite "a" ++ demoTake ++ demoFail demoBusy ++ demoTake ++ demoSucceed ++ demoWrite "b")
      (System.initial demoConfig)).map
      (fun run => (run.2.client.getWriteStats.batchWriteFailures, run.2.client.getWriteStats.pointsWritten)) =
    some (1, 1) := by decide
  obtain ⟨moves, system, run, counters⟩ := Machine.exec_reaches computed
  obtain ⟨failures, written⟩ := Prod.mk.inj counters
  exact ⟨moves, system, run, failures, written, (write_stats_balance run).2.1⟩

end OpcUaAdapter
