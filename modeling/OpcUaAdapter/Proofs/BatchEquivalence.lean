import Mathlib.Data.List.Perm.Basic
import OpcUaAdapter.Proofs.BatchAttempts
import OpcUaAdapter.Proofs.BatchPayload
import OpcUaAdapter.Proofs.WriteCapacity
import OpcUaAdapter.Proofs.WriteOrder

/-! Batched and direct writes deliver the same text. The batches a worker sends without
a failure cut the accepted points into consecutive parts, none of them empty. -/

namespace OpcUaAdapter

def Event.acknowledgedBatch : Event → List (List PendingWritePoint)
  | .acknowledged batch _ => [batch]
  | _ => []

def acknowledgedBatches (moves : List WriteMove) : List (List PendingWritePoint) :=
  moves.flatMap fun move => move.event.acknowledgedBatch

def Event.acknowledgedPosts : Event → List Text
  | .acknowledged _ posted => posted
  | _ => []

/-- The bodies of the sends that the server has taken, in their order. -/
def acknowledgedPayloads (moves : List WriteMove) : List Text :=
  moves.flatMap fun move => move.event.acknowledgedPosts

def Action.calledPoint : Action → List PendingWritePoint
  | .call point => [point]
  | _ => []

/-- The points `writePoint` was called with, in the order of the calls. -/
def calledPoints (moves : List WriteMove) : List PendingWritePoint :=
  moves.flatMap fun move => move.action.calledPoint

@[simp] theorem acknowledgedBatches_append (moves : List WriteMove) (move : WriteMove) :
    acknowledgedBatches (moves ++ [move]) = acknowledgedBatches moves ++ move.event.acknowledgedBatch := by
  simp [acknowledgedBatches]

@[simp] theorem acknowledgedPayloads_append (moves : List WriteMove) (move : WriteMove) :
    acknowledgedPayloads (moves ++ [move]) = acknowledgedPayloads moves ++ move.event.acknowledgedPosts := by
  simp [acknowledgedPayloads]

@[simp] theorem calledPoints_append (moves : List WriteMove) (move : WriteMove) :
    calledPoints (moves ++ [move]) = calledPoints moves ++ move.action.calledPoint := by
  simp [calledPoints]

/-- The worker sends the text of its batch, and the texts of the acknowledged batches were sent. -/
structure CarriesText (config : InfluxConfig) (moves : List WriteMove) (system : System) : Prop where
  unchanged : system.client.config = config
  sending : ∀ batch payload attempt writeError, system.worker = .busy batch (.sending payload attempt writeError) →
    payload = batchPayload config batch
  sent : acknowledgedPayloads moves = (acknowledgedBatches moves).map (batchPayload config)

private theorem SystemStep.carriesText {config : InfluxConfig} {system after : System} {action : Action} {event : Event}
    (step : SystemStep system action event after) {moves : List WriteMove} (kept : CarriesText config moves system) :
    CarriesText config (moves ++ [⟨system, action, event⟩]) after := by
  obtain ⟨unchanged, sending, sent⟩ := kept
  cases step with
  | takes =>
    refine ⟨unchanged, ?_, by simpa [Event.acknowledgedPosts, Event.acknowledgedBatch] using sent⟩
    rintro batch payload attempt writeError ⟨⟩
    exact congrArg (batchPayload · _) unchanged
  | retries here =>
    refine ⟨unchanged, ?_, by simpa [Event.acknowledgedPosts, Event.acknowledgedBatch] using sent⟩
    rintro batch payload attempt writeError ⟨⟩
    exact sending _ _ _ _ here
  | acknowledged here =>
    refine ⟨unchanged, by rintro batch payload attempt writeError ⟨⟩, ?_⟩
    simp [Event.acknowledgedPosts, Event.acknowledgedBatch, sent, sending _ _ _ _ here]
  | refused | entered | accepted | overflowed | read | cleared | stopped =>
    exact ⟨unchanged, sending, by simpa [Event.acknowledgedPosts, Event.acknowledgedBatch] using sent⟩
  | left | waits | collects | finishes | failed | counted | repaired | reported | requeued | drops | discarded | forgotten =>
    refine ⟨unchanged, by rintro batch payload attempt writeError ⟨⟩, ?_⟩
    simpa [Event.acknowledgedPosts, Event.acknowledgedBatch] using sent

private theorem WriteRun.carriesText {calendar : Calendar} {config : InfluxConfig} {moves : List WriteMove} {system : System}
    (run : WriteRun calendar config moves system) : CarriesText config moves system := by
  refine run.invariant (CarriesText config) ⟨rfl, ?_, rfl⟩ fun moves before action event after kept moved =>
    (writeMachine_step moved).carriesText kept
  intro batch payload attempt writeError busy
  unfold System.initial at busy
  dsimp only at busy
  split at busy <;> cases busy

/-- The worker has no batch, or one that no send has failed for. -/
def Worker.sound : Worker → Bool
  | .busy _ (.sending _ _ _) | .busy _ .written | .busy _ .clearing => true
  | .busy _ _ => false
  | _ => true

/-- What holds as long as no batch fails and no point overflows. -/
structure Undisturbed (moves : List WriteMove) (system : System) : Prop where
  worker : system.worker.sound = true
  error : system.client.lastAsyncWriteError = []
  settled : (settledPoints moves).map Prod.fst = (acknowledgedBatches moves).flatten
  nonempty : ∀ batch ∈ acknowledgedBatches moves, batch ≠ []
  called : (calledPoints moves).Perm (acceptedPoints moves ++ system.callers)

private theorem SystemStep.undisturbed {config : InfluxConfig} {system after : System} {action : Action} {event : Event}
    (step : SystemStep system action event after) (capacity : Capacity config system) {moves : List WriteMove}
    (kept : Undisturbed moves system) (succeeds : event.fails = false) (room : event.overflowedPoints = []) :
    Undisturbed (moves ++ [⟨system, action, event⟩]) after := by
  obtain ⟨worker, error, settled, nonempty, called⟩ := kept
  have unsound {phase : Phase} {batch : List PendingWritePoint} (here : system.worker = .busy batch phase)
      (broken : (Worker.busy batch phase).sound = false) : False := by
    rw [here, broken] at worker
    cases worker
  cases step with
  | refused refuses => simp [InfluxClient.refusesWrites, InfluxClient.hasAsyncWriteError, error] at refuses
  | @entered point admits =>
    refine ⟨worker, error, ?_, ?_, ?_⟩
    · simpa [Event.settledPoints, Event.acknowledgedBatch] using settled
    · simpa [Event.acknowledgedBatch] using nonempty
    · simpa [Event.acceptedPoints, Action.calledPoint] using called.append_right [point]
  | @accepted index point found room =>
    refine ⟨worker, error, ?_, ?_, ?_⟩
    · simpa [Event.settledPoints, Event.acknowledgedBatch] using settled
    · simpa [Event.acknowledgedBatch] using nonempty
    · obtain ⟨inside, rfl⟩ := List.getElem?_eq_some_iff.mp found
      have moved := (List.getElem_cons_eraseIdx_perm inside).symm.append_left (acceptedPoints moves)
      simpa [Event.acceptedPoints, Action.calledPoint] using called.trans moved
  | overflowed => cases room
  | @acknowledged exchange batch payload attempt writeError here =>
    refine ⟨rfl, error, ?_, ?_, ?_⟩
    · simpa [Event.settledPoints, Event.acknowledgedBatch, Function.comp_def] using settled
    · intro other member
      simp only [acknowledgedBatches_append, Event.acknowledgedBatch, List.mem_append, List.mem_singleton] at member
      rcases member with old | rfl
      · exact nonempty other old
      · exact capacity.nonempty _ _ here
    · simpa [Event.acceptedPoints, Action.calledPoint] using called
  | failed => cases succeeds
  | reported here | requeued here | drops here | discarded here | forgotten here => exact (unsound here rfl).elim
  | read | cleared | stopped =>
    refine ⟨worker, by first | exact error | rfl, ?_, ?_, ?_⟩
    · simpa [Event.settledPoints, Event.acknowledgedBatch] using settled
    · simpa [Event.acknowledgedBatch] using nonempty
    · simpa [Event.acceptedPoints, Action.calledPoint] using called
  | left | waits | collects | finishes | takes | retries | counted | repaired =>
    refine ⟨rfl, by first | exact error | rfl, ?_, ?_, ?_⟩
    · simpa [Event.settledPoints, Event.acknowledgedBatch] using settled
    · simpa [Event.acknowledgedBatch] using nonempty
    · simpa [Event.acceptedPoints, Action.calledPoint] using called

private theorem WriteRun.undisturbed {calendar : Calendar} {config : InfluxConfig} {moves : List WriteMove} {system : System}
    (run : WriteRun calendar config moves system) (positive : 1 ≤ config.writeBatching.maxBatchPoints)
    (succeeds : ∀ move ∈ moves, move.event.fails = false) (room : overflowedPoints moves = []) :
    Undisturbed moves system := by
  have both : Capacity config system ∧
      ((∀ move ∈ moves, move.event.fails = false) → overflowedPoints moves = [] → Undisturbed moves system) := by
    refine run.invariant (fun moves system => Capacity config system ∧
      ((∀ move ∈ moves, move.event.fails = false) → overflowedPoints moves = [] → Undisturbed moves system)) ?_ ?_
    · refine ⟨Capacity.initial config, fun _ _ => ⟨?_, rfl, rfl, by simp [acknowledgedBatches], ?_⟩⟩
      · unfold System.initial
        dsimp only
        split <;> rfl
      · simp [calledPoints, acceptedPoints, System.initial]
    · intro moves before action event after kept moved
      have step := writeMachine_step moved
      refine ⟨step.capacity positive kept.1, fun succeeds room => ?_⟩
      rw [overflowedPoints_append, List.append_eq_nil_iff] at room
      have before := kept.2 (fun move member => succeeds move (List.mem_append_left _ member)) room.1
      exact step.undisturbed kept.1 before (succeeds _ List.mem_concat_self) room.2
  exact both.2 succeeds room

/-- The body of the request that was answered with success. -/
def Sent.delivered (sent : Sent) : List Text := if sent.ok then sent.posted.getLast?.toList else []

namespace InfluxClient

/-- The unbatched branch for one point after another: the results of the calls. -/
def writeAllDirect (client : InfluxClient) : List (PendingWritePoint × List Exchange) → Option (List Sent)
  | [] => some []
  | (point, exchanges) :: rest =>
    match client.writePoint point (some []) exchanges with
    | none => none
    | some sent => (sent.client.writeAllDirect rest).map fun later => sent :: later

theorem writePoint_direct {client : InfluxClient} {point : PendingWritePoint} {error : Option Text}
    {exchanges : List Exchange} {sent : Sent} (direct : client.config.writeBatching.enabled = false)
    (written : client.writePoint point error exchanges = some sent) (ok : sent.ok = true) :
    sent.client.config = client.config ∧ sent.delivered = [point.line client.config] := by
  simp only [writePoint, direct, Bool.not_false, ite_true, writeDirect] at written
  obtain ⟨result, attempted, same⟩ := Option.map_eq_some_iff.mp written
  subst same
  obtain ⟨earlier, posted⟩ := attemptFrom_posted attempted ok
  refine ⟨?_, ?_⟩
  · rw [if_pos ok]
    exact attemptFrom_config attempted ok
  · rw [Sent.delivered, if_pos ok, ← posted, List.getLast?_concat]
    rfl

private theorem writeAllDirect_delivered {client : InfluxClient} {writes : List (PendingWritePoint × List Exchange)}
    {results : List Sent} (direct : client.config.writeBatching.enabled = false)
    (written : client.writeAllDirect writes = some results) (succeeds : ∀ sent ∈ results, sent.ok = true) :
    results.flatMap Sent.delivered = (writes.map Prod.fst).map (PendingWritePoint.line client.config) := by
  induction writes generalizing client results with
  | nil => cases written; rfl
  | cons write rest ih =>
    obtain ⟨point, exchanges⟩ := write
    simp only [writeAllDirect] at written
    split at written
    next => cases written
    next sent here =>
      obtain ⟨later, remaining, same⟩ := Option.map_eq_some_iff.mp written
      subst same
      have ok := succeeds _ List.mem_cons_self
      obtain ⟨kept, delivered⟩ := writePoint_direct direct here ok
      have others := ih (kept ▸ direct) remaining fun result member => succeeds result (List.mem_cons_of_mem _ member)
      rw [List.flatMap_cons, delivered, others, kept]
      rfl

end InfluxClient

def InfluxConfig.unbatched (config : InfluxConfig) : InfluxConfig :=
  { config with writeBatching := { config.writeBatching with enabled := false } }

/-- Once the queue is drained, what a worker that met no failure has sent, joined by newlines,
is what direct writes of the same points send. Nothing that was passed to `writePoint` is
missing from it. -/
theorem batched_text_eq_direct {calendar : Calendar} {config : InfluxConfig} {moves : List WriteMove}
    {system : System} (run : WriteRun calendar config moves system)
    (positive : 1 ≤ config.writeBatching.maxBatchPoints) (succeeds : ∀ move ∈ moves, move.event.fails = false)
    (room : overflowedPoints moves = []) (entered : system.callers = []) (drained : system.client.writeQueue = [])
    (idle : system.worker.inFlight = []) {exchanges : List (List Exchange)} {results : List Sent}
    (each : exchanges.length = (acceptedPoints moves).length)
    (written : InfluxClient.writeAllDirect { config := config.unbatched } ((acceptedPoints moves).zip exchanges) =
      some results)
    (delivered : ∀ sent ∈ results, sent.ok = true) :
    ['\n'].intercalate (acknowledgedPayloads moves) = ['\n'].intercalate (results.flatMap Sent.delivered) ∧
      (calledPoints moves).Perm (acceptedPoints moves) := by
  have undisturbed := run.undisturbed positive succeeds room
  have all : acceptedPoints moves = (acknowledgedBatches moves).flatten := by
    rw [run.conserved, idle, drained, undisturbed.settled]
    simp
  have direct := InfluxClient.writeAllDirect_delivered rfl written delivered
  rw [List.map_fst_zip (Nat.le_of_eq each.symm)] at direct
  refine ⟨?_, ?_⟩
  · have groups : ∀ group ∈ (acknowledgedBatches moves).map (List.map (PendingWritePoint.line config)), group ≠ [] := by
      intro group member
      obtain ⟨batch, acknowledged, rfl⟩ := List.mem_map.mp member
      simpa using undisturbed.nonempty batch acknowledged
    have payloads : acknowledgedPayloads moves =
        ((acknowledgedBatches moves).map (List.map (PendingWritePoint.line config))).map
          (List.intercalate ['\n']) := by
      rw [run.carriesText.sent, List.map_map]
      exact List.map_congr_left fun batch _ => batchPayload_eq config batch
    have same : PendingWritePoint.line config.unbatched = PendingWritePoint.line config := rfl
    rw [payloads, Delimited.intercalate_flatten _ groups, direct, all, ← List.map_flatten, same]
  · simpa [entered] using undisturbed.called

theorem batched_text_of_two_batches :
    ∃ moves system, WriteRun demoCalendar demoConfig moves system ∧
      acknowledgedBatches moves = [[demoPoint "a", demoPoint "b"], [demoPoint "c"]] ∧
      ['\n'].intercalate (acknowledgedPayloads moves) =
        ['\n'].intercalate
          [(demoPoint "a").line demoConfig, (demoPoint "b").line demoConfig, (demoPoint "c").line demoConfig] := by
  have computed : ((writeMachine demoCalendar).exec
      (demoWrite "a" ++ demoWrite "b" ++ demoTake ++ demoSucceed ++ demoWrite "c" ++ demoTake ++ demoSucceed)
      (System.initial demoConfig)).map
      (fun run => (acknowledgedBatches run.1, acceptedPoints run.1,
        (run.1.all fun move => !move.event.fails) && (overflowedPoints run.1).isEmpty && run.2.callers.isEmpty &&
          run.2.client.writeQueue.isEmpty && run.2.worker.inFlight.isEmpty)) =
    some ([[demoPoint "a", demoPoint "b"], [demoPoint "c"]], [demoPoint "a", demoPoint "b", demoPoint "c"], true) := by
    decide
  obtain ⟨moves, system, run, facts⟩ := Machine.exec_reaches computed
  simp only [Prod.mk.injEq, Bool.and_eq_true, List.isEmpty_iff] at facts
  obtain ⟨batches, accepted, ⟨⟨⟨sound, room⟩, entered⟩, drained⟩, idle⟩ := facts
  have succeeds : ∀ move ∈ moves, move.event.fails = false := by simpa using sound
  have direct : (InfluxClient.writeAllDirect { config := demoConfig.unbatched }
      ((acceptedPoints moves).zip (List.replicate 3 [demoDelivered]))).map
      (fun results => (results.flatMap Sent.delivered, results.all (·.ok))) =
    some ([(demoPoint "a").line demoConfig, (demoPoint "b").line demoConfig, (demoPoint "c").line demoConfig], true) := by
    rw [accepted]
    decide
  obtain ⟨results, written, sent⟩ := Option.map_eq_some_iff.mp direct
  obtain ⟨delivered, all⟩ := Prod.mk.inj sent
  refine ⟨moves, system, run, batches, ?_⟩
  have same := (batched_text_eq_direct run (by decide) succeeds room entered drained idle (by rw [accepted]; rfl) written
    (List.all_eq_true.mp all)).1
  rw [delivered] at same
  exact same

end OpcUaAdapter
