import OpcUaAdapter.InfluxClient
import OpcUaAdapter.Library.Machine

/-! The threads around an `InfluxClient` with write batching: the worker in
`writeWorkerLoop`, any number of `writePoint` callers, history readers and the
destructor. A step is one critical section, one access to an atomic member, or one send or
read with what is stored and counted when it is answered. The steps of the threads come in
any order. -/

namespace OpcUaAdapter

/-- Where the worker is in the loop body while it holds a batch. -/
inductive Phase where
  | sending (payload : Text) (attempt : Nat) (writeError : Text)
  /-- `attemptSendBatch` returned true and the batch is counted, its points are not. -/
  | written
  /-- The points are counted as written, the error is still to be cleared. -/
  | clearing
  /-- `attemptSendBatch` returned false and the failure is counted. -/
  | failed (writeError : Text)
  /-- The error is set, the requeue decision is still to be made. -/
  | deciding
  | dropping
  /-- The points are counted as dropped, but not yet as dropped from the queue. -/
  | dropped
deriving DecidableEq

inductive Worker where
  /-- At the loop condition. -/
  | looping
  /-- In the first wait, for a point or for stop. -/
  | waiting
  /-- In the second wait, for a full batch, stop or the flush interval. -/
  | collecting
  | busy (batch : List PendingWritePoint) (phase : Phase)
  | exited
deriving DecidableEq

/-- A client with its worker thread and the `writePoint` calls that have passed the
fail-fast test and not yet taken the queue lock. -/
structure System where
  client : InfluxClient
  worker : Worker
  callers : List PendingWritePoint := []
deriving DecidableEq

inductive Action where
  | call (point : PendingWritePoint)
  | enqueue (index : Nat)
  | read (query : HistoryRead) (exchange : Exchange)
  | clearAsyncWriteError
  | stop
  /-- One step of the worker thread. The exchange is what a send made in it meets. -/
  | work (exchange : Exchange)

inductive Event where
  | silent
  | refused (point : PendingWritePoint)
  | accepted (point : PendingWritePoint)
  | overflowed (point : PendingWritePoint)
  | taken (batch : List PendingWritePoint)
  /-- The server has taken a send for the batch, which handed over these bodies. -/
  | acknowledged (batch : List PendingWritePoint) (posted : List Text)
  | failed (batch : List PendingWritePoint)
  | requeued (batch : List PendingWritePoint)
  | discarded (batch : List PendingWritePoint)
deriving DecidableEq

def moveFront : Nat → List PendingWritePoint → List PendingWritePoint × List PendingWritePoint
  | count + 1, point :: queue => (point :: (moveFront count queue).1, (moveFront count queue).2)
  | _, queue => ([], queue)

/-- The loop that pushes a failed batch to the front of the queue, last point first. -/
def pushFront (batch queue : List PendingWritePoint) : List PendingWritePoint :=
  batch.reverse.foldl (fun queue point => point :: queue) queue

namespace System

def initial (config : InfluxConfig) : System :=
  { client := { config }, worker := if config.writeBatching.enabled then .looping else .exited }

/-- The end of the locked section: leave the loop or take a batch. -/
def takeBatch (system : System) : Event × System :=
  let client := system.client
  if client.writeQueue.isEmpty && client.stopWriteWorker then (.silent, { system with worker := .exited })
  else
    let batchSize := min client.writeQueue.length client.config.writeBatching.maxBatchPoints
    let (batch, queue) := moveFront batchSize client.writeQueue
    (.taken batch,
      { system with
        client := { client with writeQueue := queue }
        worker := .busy batch (.sending (batchPayload client.config batch) 1 []) })

def process (system : System) (batch : List PendingWritePoint) (exchange : Exchange) : Phase → Event × System
  | .sending payload attempt writeError =>
    let client := system.client
    if attempt ≤ client.maxAttempts then
      let sent := client.attemptOnce payload attempt (some writeError) exchange
      if sent.ok then
        (.acknowledged batch sent.posted,
          { system with
            client := { sent.client with batchesWritten := sent.client.batchesWritten + 1 }
            worker := .busy batch .written })
      else
        (.silent,
          { system with
            client := sent.client
            worker := .busy batch (.sending payload ((attempt + 1) % 2 ^ 64) (sent.error.getD [])) })
    else
      (.failed batch,
        { system with
          client := { client with batchWriteFailures := client.batchWriteFailures + 1 }
          worker := .busy batch (.failed writeError) })
  | .written =>
    (.silent,
      { system with
        client := { system.client with pointsWritten := system.client.pointsWritten + batch.length }
        worker := .busy batch .clearing })
  | .clearing =>
    (.silent, { system with client := system.client.clearAsyncWriteError, worker := .looping })
  | .failed writeError =>
    (.silent,
      { system with
        client := system.client.setLastAsyncWriteError
          (if writeError.isEmpty then "Async write failed" else writeError)
        worker := .busy batch .deciding })
  | .deciding =>
    let client := system.client
    if !client.stopWriteWorker &&
        client.writeQueue.length + batch.length ≤ client.config.writeBatching.maxQueuePoints then
      (.requeued batch,
        { system with client := { client with writeQueue := pushFront batch client.writeQueue }, worker := .looping })
    else (.silent, { system with worker := .busy batch .dropping })
  | .dropping =>
    (.discarded batch,
      { system with
        client := { system.client with pointsDropped := system.client.pointsDropped + batch.length }
        worker := .busy batch .dropped })
  | .dropped =>
    (.silent,
      { system with
        client :=
          { system.client with queuedPointsDropped := system.client.queuedPointsDropped + batch.length }
        worker := .looping })

/-- `writeWorkerLoop`, one step at a time. `none` when the worker is blocked or gone. -/
def work (exchange : Exchange) (system : System) : Option (Event × System) :=
  match system.worker with
  | .looping =>
    some (.silent, { system with worker := if system.client.fundamentalErrorOccurred then .exited else .waiting })
  | .waiting =>
    let client := system.client
    if client.stopWriteWorker || !client.writeQueue.isEmpty then
      if !client.stopWriteWorker && client.writeQueue.length < client.config.writeBatching.maxBatchPoints then
        some (.silent, { system with worker := .collecting })
      else some system.takeBatch
    else none
  | .collecting => some system.takeBatch
  | .busy batch phase => some (system.process batch exchange phase)
  | .exited => none

end System

/-- The machine of all threads. A history read needs a calendar for the records it
returns; the client after it does not depend on that. -/
def writeMachine (calendar : Calendar) : Machine System Action Event where
  step
    | .call point, system =>
      if system.client.config.writeBatching.enabled then
        if system.client.refusesWrites then some (.refused point, system)
        else some (.silent, { system with callers := system.callers ++ [point] })
      else none
    | .enqueue index, system =>
      match system.callers[index]? with
      | none => none
      | some point =>
        let sent := system.client.enqueue point none
        some (if sent.ok then .accepted point else .overflowed point,
          { system with client := sent.client, callers := system.callers.eraseIdx index })
    | .read query exchange, system =>
      some (.silent, { system with client := (system.client.read calendar query none exchange).client })
    | .clearAsyncWriteError, system =>
      some (.silent, { system with client := system.client.clearAsyncWriteError })
    | .stop, system =>
      if system.client.config.writeBatching.enabled then
        some (.silent, { system with client := { system.client with stopWriteWorker := true } })
      else none
    | .work exchange, system => system.work exchange

end OpcUaAdapter
