import OpcUaAdapter.Proofs.WriteCounters

/-! What is left behind when the worker leaves its loop. The exit on stop waits for an
empty queue; the exit on a fundamental error does not, although the failed batch has
just been put back. -/

namespace OpcUaAdapter

/-- Once the worker has left the loop, every call that got to the queue lock has been
counted: an accepted point as written or dropped, a rejected one as dropped. -/
def Accounted (moves : List WriteMove) (system : System) : Prop :=
  system.worker = .exited →
    (acceptedPoints moves).length + (overflowedPoints moves).length =
      system.client.getWriteStats.pointsWritten + system.client.getWriteStats.pointsDropped

/-- The steps that leave points in the queue of a worker that is gone: the loop ends on
a fundamental error with points queued, or a point is queued after the loop has ended. -/
def System.strands (system : System) : Action → Prop
  | .work _ =>
    system.worker = .looping ∧ system.client.fundamentalErrorOccurred = true ∧ system.client.writeQueue ≠ []
  | .enqueue _ =>
    system.worker = .exited ∧ system.client.writeQueue.length < system.client.config.writeBatching.maxQueuePoints
  | _ => False

private theorem Balanced.accounted_iff {moves : List WriteMove} {system : System} (balanced : Balanced moves system)
    (exited : system.worker = .exited) : Accounted moves system ↔ system.client.writeQueue = [] := by
  have points := balanced.points
  simp only [exited, Worker.uncounted, List.length_nil] at points
  constructor
  · intro accounted
    have counted := accounted exited
    simp only [InfluxClient.getWriteStats] at counted
    apply List.eq_nil_of_length_eq_zero
    omega
  · intro empty _
    simp only [empty, List.length_nil] at points
    simp only [InfluxClient.getWriteStats]
    omega

private theorem SystemStep.leaves_empty {system after : System} {action : Action} {event : Event}
    (step : SystemStep system action event after) (careful : ¬ system.strands action)
    (kept : system.worker = .exited → system.client.writeQueue = []) (exited : after.worker = .exited) :
    after.client.writeQueue = [] := by
  cases step with
  | refused | entered | overflowed | read | cleared | stopped => exact kept exited
  | accepted found room => exact absurd ⟨exited, room⟩ careful
  | left here broken =>
    by_contra queued
    exact careful ⟨here, broken, queued⟩
  | finishes idle empty stopping => exact empty
  | waits | collects | takes | acknowledged | retries | failed | counted | repaired | reported | requeued
  | drops | discarded | forgotten => cases exited

private theorem WriteRun.exits_empty {calendar : Calendar} {config : InfluxConfig} {moves : List WriteMove} {system : System}
    (run : WriteRun calendar config moves system) (careful : ∀ move ∈ moves, ¬ move.before.strands move.action) :
    system.worker = .exited → system.client.writeQueue = [] := by
  refine run.invariant (fun moves system => (∀ move ∈ moves, ¬ move.before.strands move.action) →
    system.worker = .exited → system.client.writeQueue = []) (fun _ _ => rfl) ?_ careful
  intro moves before action event after ih moved careful
  exact (writeMachine_step moved).leaves_empty (careful ⟨before, action, event⟩ (by simp))
    (ih fun move member => careful move (by simp [member]))

private theorem SystemStep.stranded {system after : System} {action : Action} {event : Event}
    (step : SystemStep system action event after) (strands : system.strands action) :
    after.worker = .exited ∧ after.client.writeQueue ≠ [] := by
  cases step with
  | refused | entered | read | cleared | stopped => exact absurd strands id
  | accepted => exact ⟨strands.1, by simp⟩
  | overflowed _ full => exact absurd strands.2 (by omega)
  | left here => exact ⟨rfl, strands.2.2⟩
  | waits here sound => exact absurd strands.2.1 (by simp [sound])
  | collects here | acknowledged here | retries here | failed here | counted here | repaired here
  | reported here | requeued here | drops here | discarded here | forgotten here =>
    exact absurd strands.1 (by simp [here])
  | finishes idle => rcases idle with here | here <;> exact absurd strands.1 (by simp [here])
  | takes _ _ idle => rcases idle with ⟨here, _⟩ | here <;> exact absurd strands.1 (by simp [here])

/-- A run accounts for every accepted point in each state it passes exactly when none of
its steps strands points. -/
theorem exit_accounts_iff {calendar : Calendar} {config : InfluxConfig} {moves : List WriteMove} {system : System}
    (run : WriteRun calendar config moves system) :
    (∀ earlier state, earlier <+: moves → WriteRun calendar config earlier state → Accounted earlier state) ↔
      ∀ move ∈ moves, ¬ move.before.strands move.action := by
  constructor
  · intro accounted move member strands
    obtain ⟨earlier, after, inside, reached, possible⟩ := run.split member
    have further : WriteRun calendar config (earlier ++ [move]) after := reached.next possible
    obtain ⟨exited, queued⟩ := (writeMachine_step possible).stranded strands
    exact queued ((further.balanced.accounted_iff exited).mp (accounted _ _ inside further))
  · intro careful earlier state inside reached exited
    have empty := reached.exits_empty (fun move member => careful move (inside.subset member)) exited
    exact (reached.balanced.accounted_iff exited).mpr empty exited

theorem exit_accounts_iff_after_stop :
    ∃ moves system, WriteRun demoCalendar demoConfig moves system ∧ system.worker = .exited ∧
      ((∀ earlier state, earlier <+: moves → WriteRun demoCalendar demoConfig earlier state →
          Accounted earlier state) ↔ ∀ move ∈ moves, ¬ move.before.strands move.action) := by
  have computed : ((writeMachine demoCalendar).exec
      (demoWrite "a" ++ demoTake ++ demoSucceed ++ [.stop, .work .noEncodeHandle, .work .noEncodeHandle])
      (System.initial demoConfig)).map (fun run => run.2.worker) = some .exited := by decide
  obtain ⟨moves, system, run, exited⟩ := Machine.exec_reaches computed
  exact ⟨moves, system, run, exited, exit_accounts_iff run⟩

/-- With the server unreachable, the worker puts the batch back and leaves the loop. -/
theorem exit_strands_requeued_batch :
    ¬ ∀ calendar config moves system, config.writeBatching.enabled = true →
      WriteRun calendar config moves system → Accounted moves system := by
  have computed : ((writeMachine demoCalendar).exec
      (demoWrite "a" ++ demoTake ++ demoFail demoOffline ++ [.work demoOffline])
      (System.initial demoConfig)).map
      (fun run => (run.2.worker, acceptedPoints run.1, run.2.client.pointsWritten, run.2.client.pointsDropped)) =
    some (.exited, [demoPoint "a"], 0, 0) := by decide
  obtain ⟨moves, system, run, facts⟩ := Machine.exec_reaches computed
  obtain ⟨exited, accepted, written, dropped⟩ := by simpa only [Prod.mk.injEq] using facts
  intro accounted
  have counted := accounted _ _ _ _ rfl run exited
  simp [accepted, InfluxClient.getWriteStats, written, dropped] at counted

end OpcUaAdapter
