import OpcUaAdapter.Proofs.Sending

/-! Everything a step of the write machine can do, with its guard and its effect. Each
invariant of the machine is proved by cases on this relation, not on the code of the loop. -/

namespace OpcUaAdapter

private theorem moveFront_eq (count : Nat) (queue : List PendingWritePoint) :
    moveFront count queue = (queue.take count, queue.drop count) := by
  induction count generalizing queue with
  | zero => cases queue <;> simp [moveFront]
  | succ count ih =>
    cases queue with
    | nil => simp [moveFront]
    | cons point queue => simp [moveFront, ih]

private theorem pushFront_eq (batch queue : List PendingWritePoint) : pushFront batch queue = batch ++ queue := by
  induction batch generalizing queue with
  | nil => rfl
  | cons point batch ih =>
    simp only [pushFront, List.reverse_cons, List.foldl_append, List.foldl_cons, List.foldl_nil] at ih ⊢
    rw [ih, List.cons_append]

inductive SystemStep (system : System) : Action → Event → System → Prop where
  | refused {point} (refuses : system.client.refusesWrites = true) :
      SystemStep system (.call point) (.refused point) system
  | entered {point} (admits : system.client.refusesWrites = false) :
      SystemStep system (.call point) .silent { system with callers := system.callers ++ [point] }
  | accepted {index point} (found : system.callers[index]? = some point)
      (room : system.client.writeQueue.length < system.client.config.writeBatching.maxQueuePoints) :
      SystemStep system (.enqueue index) (.accepted point)
        { system with
          client := { system.client with writeQueue := system.client.writeQueue ++ [point] }
          callers := system.callers.eraseIdx index }
  | overflowed {index point} (found : system.callers[index]? = some point)
      (full : system.client.config.writeBatching.maxQueuePoints ≤ system.client.writeQueue.length) :
      SystemStep system (.enqueue index) (.overflowed point)
        { system with
          client :=
            { system.client with
              pointsDropped := system.client.pointsDropped + 1
              queuedPointsDropped := system.client.queuedPointsDropped + 1 }
          callers := system.callers.eraseIdx index }
  | read {query exchange} (fundamental : Bool) :
      SystemStep system (.read query exchange) .silent
        { system with client := { system.client with fundamentalErrorOccurred := fundamental } }
  | cleared :
      SystemStep system .clearAsyncWriteError .silent
        { system with client := { system.client with lastAsyncWriteError := [] } }
  | stopped :
      SystemStep system .stop .silent { system with client := { system.client with stopWriteWorker := true } }
  | left {exchange} (looping : system.worker = .looping)
      (broken : system.client.fundamentalErrorOccurred = true) :
      SystemStep system (.work exchange) .silent { system with worker := .exited }
  | waits {exchange} (looping : system.worker = .looping)
      (sound : system.client.fundamentalErrorOccurred = false) :
      SystemStep system (.work exchange) .silent { system with worker := .waiting }
  | collects {exchange} (waiting : system.worker = .waiting) (running : system.client.stopWriteWorker = false)
      (pending : system.client.writeQueue ≠ []) :
      SystemStep system (.work exchange) .silent { system with worker := .collecting }
  | finishes {exchange} (idle : system.worker = .waiting ∨ system.worker = .collecting)
      (empty : system.client.writeQueue = []) (stopping : system.client.stopWriteWorker = true) :
      SystemStep system (.work exchange) .silent { system with worker := .exited }
  | takes {exchange} (count : Nat)
      (size : count = min system.client.writeQueue.length system.client.config.writeBatching.maxBatchPoints)
      (idle : system.worker = .waiting ∧ system.client.writeQueue ≠ [] ∨ system.worker = .collecting)
      (wanted : system.client.writeQueue = [] → system.client.stopWriteWorker = false) :
      SystemStep system (.work exchange) (.taken (system.client.writeQueue.take count))
        { system with
          client := { system.client with writeQueue := system.client.writeQueue.drop count }
          worker := .busy (system.client.writeQueue.take count)
            (.sending (batchPayload system.client.config (system.client.writeQueue.take count)) 1 []) }
  | acknowledged {exchange batch payload attempt writeError}
      (sending : system.worker = .busy batch (.sending payload attempt writeError))
      (allowed : attempt ≤ system.client.maxAttempts)
      (succeeded : (system.client.attemptOnce payload attempt (some writeError) exchange).ok = true)
      (code : Nat) (fundamental : Bool) (retries : Nat)
      (sent : (system.client.attemptOnce payload attempt (some writeError) exchange).client =
        { system.client with errorCode := code, fundamentalErrorOccurred := fundamental, retryAttempts := retries }) :
      SystemStep system (.work exchange) (.acknowledged batch [payload])
        { system with
          client :=
            { system.client with
              errorCode := code
              fundamentalErrorOccurred := fundamental
              retryAttempts := retries
              batchesWritten := system.client.batchesWritten + 1 }
          worker := .busy batch .written }
  | retries {exchange batch payload attempt writeError}
      (sending : system.worker = .busy batch (.sending payload attempt writeError))
      (allowed : attempt ≤ system.client.maxAttempts)
      (unsuccessful : (system.client.attemptOnce payload attempt (some writeError) exchange).ok = false)
      (error : Text) (code : Nat) (fundamental : Bool) (retries : Nat)
      (sent : (system.client.attemptOnce payload attempt (some writeError) exchange).client =
        { system.client with errorCode := code, fundamentalErrorOccurred := fundamental, retryAttempts := retries }) :
      SystemStep system (.work exchange) .silent
        { system with
          client :=
            { system.client with
              errorCode := code
              fundamentalErrorOccurred := fundamental
              retryAttempts := retries }
          worker := .busy batch (.sending payload ((attempt + 1) % 2 ^ 64) error) }
  | failed {exchange batch payload attempt writeError} (sending : system.worker = .busy batch (.sending payload attempt writeError))
      (exhausted : system.client.maxAttempts < attempt) :
      SystemStep system (.work exchange) (.failed batch)
        { system with
          client := { system.client with batchWriteFailures := system.client.batchWriteFailures + 1 }
          worker := .busy batch (.failed writeError) }
  | counted {exchange batch} (written : system.worker = .busy batch .written) :
      SystemStep system (.work exchange) .silent
        { system with
          client := { system.client with pointsWritten := system.client.pointsWritten + batch.length }
          worker := .busy batch .clearing }
  | repaired {exchange batch} (clearing : system.worker = .busy batch .clearing) :
      SystemStep system (.work exchange) .silent
        { system with client := { system.client with lastAsyncWriteError := [] }, worker := .looping }
  | reported {exchange batch writeError} (failed : system.worker = .busy batch (.failed writeError)) (error : Text)
      (active : error ≠ []) :
      SystemStep system (.work exchange) .silent
        { system with client := { system.client with lastAsyncWriteError := error }, worker := .busy batch .deciding }
  | requeued {exchange batch} (deciding : system.worker = .busy batch .deciding)
      (running : system.client.stopWriteWorker = false)
      (room : system.client.writeQueue.length + batch.length ≤ system.client.config.writeBatching.maxQueuePoints) :
      SystemStep system (.work exchange) (.requeued batch)
        { system with
          client := { system.client with writeQueue := batch ++ system.client.writeQueue }
          worker := .looping }
  | drops {exchange batch} (deciding : system.worker = .busy batch .deciding)
      (hopeless : system.client.stopWriteWorker = true ∨
        system.client.config.writeBatching.maxQueuePoints < system.client.writeQueue.length + batch.length) :
      SystemStep system (.work exchange) .silent { system with worker := .busy batch .dropping }
  | discarded {exchange batch} (dropping : system.worker = .busy batch .dropping) :
      SystemStep system (.work exchange) (.discarded batch)
        { system with
          client := { system.client with pointsDropped := system.client.pointsDropped + batch.length }
          worker := .busy batch .dropped }
  | forgotten {exchange batch} (dropped : system.worker = .busy batch .dropped) :
      SystemStep system (.work exchange) .silent
        { system with
          client := { system.client with queuedPointsDropped := system.client.queuedPointsDropped + batch.length }
          worker := .looping }

private theorem takeBatch_step {system after : System} {exchange : Exchange} {event : Event}
    (idle : system.worker = .waiting ∧ (system.client.stopWriteWorker = true ∨ system.client.writeQueue ≠ []) ∨
      system.worker = .collecting)
    (took : system.takeBatch = (event, after)) : SystemStep system (.work exchange) event after := by
  unfold System.takeBatch at took
  simp only [moveFront_eq] at took
  split at took
  next leave =>
    simp only [Bool.and_eq_true, List.isEmpty_iff] at leave
    cases took
    refine .finishes ?_ leave.1 leave.2
    rcases idle with ⟨waiting, _⟩ | collecting
    · exact .inl waiting
    · exact .inr collecting
  next stay =>
    simp only [Bool.and_eq_true, List.isEmpty_iff, not_and, Bool.not_eq_true] at stay
    cases took
    refine .takes _ rfl ?_ stay
    rcases idle with ⟨waiting, stopping | pending⟩ | collecting
    · exact .inl ⟨waiting, fun empty => by simp [stay empty] at stopping⟩
    · exact .inl ⟨waiting, pending⟩
    · exact .inr collecting

private theorem process_step {system after : System} {batch : List PendingWritePoint} {phase : Phase}
    {exchange : Exchange} {event : Event} (busy : system.worker = .busy batch phase)
    (processed : system.process batch exchange phase = (event, after)) :
    SystemStep system (.work exchange) event after := by
  cases phase with
  | sending payload attempt writeError =>
    simp only [System.process] at processed
    split at processed
    next allowed =>
      obtain ⟨code, fundamental, retries, same⟩ :=
        system.client.attemptOnce_client payload attempt (some writeError) exchange
      rw [same] at processed
      split at processed
      next succeeded =>
        have attempted := system.client.attemptOnce_attempted payload attempt (some writeError) exchange
        rw [attempted.posted (attempted.ok.symm.trans succeeded)] at processed
        cases processed
        exact .acknowledged busy allowed succeeded _ _ _ same
      next unsuccessful =>
        cases processed
        exact .retries busy allowed (by simpa using unsuccessful) _ _ _ _ same
    next exhausted => cases processed; exact .failed busy (by omega)
  | written => cases processed; exact .counted busy
  | clearing => cases processed; exact .repaired busy
  | failed writeError =>
    cases processed
    refine .reported busy _ ?_
    split
    · decide
    next stated => simpa using stated
  | deciding =>
    simp only [System.process, pushFront_eq] at processed
    split at processed
    next requeue =>
      simp only [Bool.and_eq_true, Bool.not_eq_true', decide_eq_true_eq] at requeue
      cases processed
      exact .requeued busy requeue.1 requeue.2
    next drop =>
      cases processed
      refine .drops busy ?_
      cases stopping : system.client.stopWriteWorker with
      | true => exact .inl rfl
      | false =>
        simp only [stopping, Bool.not_false, Bool.true_and, decide_eq_true_eq] at drop
        exact .inr (by omega)
  | dropping => cases processed; exact .discarded busy
  | dropped => cases processed; exact .forgotten busy

private theorem work_step {system after : System} {exchange : Exchange} {event : Event}
    (worked : system.work exchange = some (event, after)) : SystemStep system (.work exchange) event after := by
  unfold System.work at worked
  cases worker : system.worker with
  | looping =>
    simp only [worker] at worked
    cases worked
    split
    next broken => exact .left worker broken
    next sound => exact .waits worker (by simpa using sound)
  | waiting =>
    simp only [worker] at worked
    split at worked
    next woken =>
      simp only [Bool.or_eq_true, Bool.not_eq_true', List.isEmpty_eq_false_iff] at woken
      split at worked
      next partly =>
        simp only [Bool.and_eq_true, Bool.not_eq_true'] at partly
        cases worked
        refine .collects worker partly.1 ?_
        simpa [partly.1] using woken
      next => exact takeBatch_step (.inl ⟨worker, woken⟩) (Option.some.inj worked)
    next => cases worked
  | collecting =>
    simp only [worker] at worked
    exact takeBatch_step (.inr worker) (Option.some.inj worked)
  | busy batch phase =>
    simp only [worker] at worked
    exact process_step worker (Option.some.inj worked)
  | exited => simp only [worker] at worked; cases worked

theorem writeMachine_step {calendar : Calendar} {action : Action} {system after : System} {event : Event}
    (moved : (writeMachine calendar).step action system = some (event, after)) :
    SystemStep system action event after := by
  cases action with
  | call point =>
    simp only [writeMachine] at moved
    split at moved
    · split at moved
      next refuses => cases moved; exact .refused refuses
      next admits => cases moved; exact .entered (by simpa using admits)
    · cases moved
  | enqueue index =>
    simp only [writeMachine] at moved
    split at moved
    next => cases moved
    next point found =>
      simp only [InfluxClient.enqueue] at moved
      split at moved
      next full => cases moved; exact .overflowed found full
      next room => cases moved; exact .accepted found (by omega)
  | read query exchange =>
    simp only [writeMachine] at moved
    rw [system.client.read_client] at moved
    cases moved
    exact .read _
  | clearAsyncWriteError => cases moved; exact .cleared
  | stop =>
    simp only [writeMachine] at moved
    split at moved
    · cases moved; exact .stopped
    · cases moved
  | work exchange => exact work_step moved

end OpcUaAdapter
