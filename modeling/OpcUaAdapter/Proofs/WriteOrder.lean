import OpcUaAdapter.Proofs.WriteHistory

/-! The write machine refines the abstract write-behind queue. Producers, requeues at
the front and a stop at any moment are all steps of the queue or invisible to it, so
no accepted point is lost, doubled or overtaken. -/

namespace OpcUaAdapter

theorem SystemStep.refines {system after : System} {action : Action} {event : Event}
    (step : SystemStep system action event after) (moves : List WriteMove) :
    Relation.ReflTransGen Conveyor.Step (belt moves system) (belt (moves ++ [⟨system, action, event⟩]) after) := by
  have unchanged {other : Conveyor PendingWritePoint} (same : belt moves system = other) :
      Relation.ReflTransGen Conveyor.Step (belt moves system) other := same ▸ .refl
  cases step with
  | @accepted index point found room =>
    have accept := Conveyor.Step.accept (belt moves system) point
    exact .single (by simpa [belt, Event.acceptedPoints, Event.settledPoints] using accept)
  | takes count size idle wanted =>
    have free : system.worker.inFlight = [] := by
      rcases idle with ⟨waiting, _⟩ | collecting
      · simp [waiting, Worker.inFlight]
      · simp [collecting, Worker.inFlight]
    have take := Conveyor.Step.take (belt moves system) count free
    apply Relation.ReflTransGen.single
    simpa [belt, Event.acceptedPoints, Event.settledPoints, Worker.inFlight, Phase.unsettled] using take
  | @acknowledged exchange batch payload attempt writeError sending =>
    have settle := Conveyor.Step.settle (belt moves system) .delivered
    apply Relation.ReflTransGen.single
    simpa [belt, sending, Event.acceptedPoints, Event.settledPoints, Worker.inFlight, Phase.unsettled] using settle
  | @discarded exchange batch dropping =>
    have settle := Conveyor.Step.settle (belt moves system) .discarded
    apply Relation.ReflTransGen.single
    simpa [belt, dropping, Event.acceptedPoints, Event.settledPoints, Worker.inFlight, Phase.unsettled] using settle
  | @requeued exchange batch deciding =>
    have back := Conveyor.Step.putBack (belt moves system)
    apply Relation.ReflTransGen.single
    simpa [belt, deciding, Event.acceptedPoints, Event.settledPoints, Worker.inFlight, Phase.unsettled] using back
  | refused | entered | overflowed | read | cleared | stopped =>
    exact unchanged (by simp [belt, Event.acceptedPoints, Event.settledPoints])
  | left here | waits here | collects here | retries here | failed here | counted here | repaired here
  | reported here | drops here | forgotten here =>
    exact unchanged (by
      simp [belt, here, Event.acceptedPoints, Event.settledPoints, Worker.inFlight, Phase.unsettled])
  | finishes idle =>
    rcases idle with here | here
    all_goals
      exact unchanged (by simp [belt, here, Event.acceptedPoints, Event.settledPoints, Worker.inFlight])

private theorem WriteRun.refines {calendar : Calendar} {config : InfluxConfig} {moves : List WriteMove} {system : System}
    (run : WriteRun calendar config moves system) : (belt moves system).Reachable := by
  refine run.invariant (fun moves system => (belt moves system).Reachable) ?_ ?_
  · have start : belt [] (System.initial config) = Conveyor.empty := by
      simp only [belt, System.initial, Conveyor.empty]
      split <;> rfl
    rw [start]
  · intro moves before action event after reached moved
    exact reached.trans ((writeMachine_step moved).refines moves)

theorem WriteRun.conserved {calendar : Calendar} {config : InfluxConfig} {moves : List WriteMove} {system : System}
    (run : WriteRun calendar config moves system) :
    acceptedPoints moves =
      (settledPoints moves).map Prod.fst ++ system.worker.inFlight ++ system.client.writeQueue :=
  run.refines.conserved

/-- Every accepted point has exactly one place, and the acknowledged points, the batch
in flight and the queue are the accepted points in their order without the discarded ones. -/
theorem accepted_points_placed {calendar : Calendar} {config : InfluxConfig} {moves : List WriteMove}
    {system : System} (run : WriteRun calendar config moves system) :
    ∃ places, Conveyor.Placement places (acceptedPoints moves) (acknowledgedPoints moves)
      system.worker.inFlight system.client.writeQueue (discardedPoints moves) :=
  ⟨_, run.refines.conserved.placement⟩

theorem accepted_points_placed_after_requeue :
    ∃ moves system, WriteRun demoCalendar demoConfig moves system ∧
      acceptedPoints moves = [demoPoint "a", demoPoint "b", demoPoint "c"] ∧
      acknowledgedPoints moves = [demoPoint "a", demoPoint "b"] ∧
      ∃ places, Conveyor.Placement places (acceptedPoints moves) (acknowledgedPoints moves)
        system.worker.inFlight system.client.writeQueue (discardedPoints moves) := by
  have computed : ((writeMachine demoCalendar).exec
      (demoWrite "a" ++ demoTake ++ demoWrite "b" ++ demoFail demoBusy ++ demoTake ++ demoWrite "c" ++
        [.work demoDelivered]) (System.initial demoConfig)).map
      (fun run => (acceptedPoints run.1, acknowledgedPoints run.1)) =
    some ([demoPoint "a", demoPoint "b", demoPoint "c"], [demoPoint "a", demoPoint "b"]) := by decide
  obtain ⟨moves, system, run, points⟩ := Machine.exec_reaches computed
  obtain ⟨accepted, acknowledged⟩ := Prod.mk.inj points
  exact ⟨moves, system, run, accepted, acknowledged, accepted_points_placed run⟩

end OpcUaAdapter
