import Mathlib.Logic.Function.Basic
import OpcUaAdapter.WriteWorker

/-! The `InfluxHealth` object of the server and the repeated callback that writes its
variables. The callback reads one member of the client at a time while the threads of the
client run on, so what it shows is no snapshot. Two steps of the write machine store to
several atomic members, and here each of their stores is a step of its own. -/

namespace OpcUaAdapter

/-- The variables of type `UInt64`, in the order in which they are read and written. -/
inductive HealthCounter where
  | queuedPoints
  | queuedPointsDropped
  | pointsWritten
  | pointsDropped
  | batchesWritten
  | batchWriteFailures
  | retryAttempts
  | errorCode
deriving DecidableEq

def healthCounters : List HealthCounter :=
  [.queuedPoints, .queuedPointsDropped, .pointsWritten, .pointsDropped, .batchesWritten, .batchWriteFailures,
    .retryAttempts, .errorCode]

def InfluxWriteStats.counter (stats : InfluxWriteStats) : HealthCounter → Nat
  | .queuedPoints => stats.queuedPoints
  | .queuedPointsDropped => stats.queuedPointsDropped
  | .pointsWritten => stats.pointsWritten
  | .pointsDropped => stats.pointsDropped
  | .batchesWritten => stats.batchesWritten
  | .batchWriteFailures => stats.batchWriteFailures
  | .retryAttempts => stats.retryAttempts
  | .errorCode => stats.errorCode

structure HealthVariable where
  nodeId : Text
  browseName : Text
  description : Text

/-- In the order in which `addHealthMonitoringNodes` adds them below the object. -/
def healthVariables : List HealthVariable :=
  [⟨"InfluxHealth.QueuedPoints", "QueuedPoints", "Current number of queued write points"⟩,
    ⟨"InfluxHealth.QueuedPointsDropped", "QueuedPointsDropped", "Total points dropped due to queue pressure"⟩,
    ⟨"InfluxHealth.PointsWritten", "PointsWritten", "Total points successfully written to InfluxDB"⟩,
    ⟨"InfluxHealth.PointsDropped", "PointsDropped", "Total points dropped after write failures"⟩,
    ⟨"InfluxHealth.BatchesWritten", "BatchesWritten", "Total batches successfully written"⟩,
    ⟨"InfluxHealth.BatchWriteFailures", "BatchWriteFailures", "Total failed batch write attempts"⟩,
    ⟨"InfluxHealth.RetryAttempts", "RetryAttempts", "Total retry attempts after write failures"⟩,
    ⟨"InfluxHealth.AsyncErrorActive", "AsyncErrorActive", "Indicates whether an async write error is active"⟩,
    ⟨"InfluxHealth.LastAsyncError", "LastAsyncError", "Last asynchronous write error text"⟩,
    ⟨"InfluxHealth.ErrorCode", "ErrorCode", "Last HTTP error code from InfluxDB write operation"⟩,
    ⟨"InfluxHealth.FundamentalError", "FundamentalError", "Indicates whether a fundamental error has occurred"⟩]

/-- One access of `updateInfluxHealth` to the client or to a node. -/
inductive HealthAccess where
  /-- In `getWriteStats`. -/
  | load (counter : HealthCounter)
  | loadFundamentalError
  | writeUInt64Node (counter : HealthCounter)
  | hasFundamentalError
  | writeFundamentalError
  | hasAsyncWriteError
  | writeAsyncErrorActive
  | getLastAsyncWriteError
  | writeAsyncError
  /-- The test of the flag in the statistics at the end. -/
  | finish
deriving DecidableEq

def updateInfluxHealth : List HealthAccess :=
  healthCounters.map .load ++ .loadFundamentalError :: healthCounters.map .writeUInt64Node ++
    [.hasFundamentalError, .writeFundamentalError, .hasAsyncWriteError, .writeAsyncErrorActive,
      .getLastAsyncWriteError, .writeAsyncError, .finish]

/-- The values of the variables of the object, as they are after their creation. -/
structure HealthNodes where
  counters : HealthCounter → Nat := fun _ => 0
  asyncErrorActive : Bool := false
  lastAsyncError : Text := []
  fundamentalError : Bool := false

structure HealthLocals where
  stats : HealthCounter → Nat := fun _ => 0
  fundamentalErrorOccurred : Bool := false
  fundamentalError : Bool := false
  hasError : Bool := false
  error : Text := []

/-- The nodes and a call of `updateInfluxHealth`, with what it has still to do. -/
structure HealthUpdate where
  nodes : HealthNodes := {}
  locals : HealthLocals := {}
  remaining : List HealthAccess := []

structure HealthMonitoring where
  update : HealthUpdate := {}
  added : List Text := []
  requested : Bool := false
  /-- The call in progress is the one of `addHealthMonitoringNodes`. -/
  adding : Bool := false
  /-- The server holds the repeated callback. -/
  healthNodesAdded : Bool := false

/-- The client with its threads and the monitoring. The last members are what the atomics
of a failed attempt hold, whose stores the worker makes one after the other. -/
structure Monitored where
  system : System
  health : HealthMonitoring := {}
  /-- A call of `writePoint` holds the queue lock and has counted its point as dropped, but not from the queue. -/
  overflowing : Bool := false
  errorCode : Nat := 0
  fundamentalErrorOccurred : Bool := false
  retryAttempts : Nat := 0

inductive HealthAction where
  | client (action : Action)
  /-- The second counter of a rejected point, and the release of the queue lock. -/
  | countOverflow
  /-- The next store of a failed attempt. -/
  | store
  /-- With the name of the status code the server refuses the object with, and the variables it adds. -/
  | addHealthMonitoringNodes (refusal : Option Text) (variableAdded : Text → Bool)
  | access
  | addRepeatedCallback (refusal : Option Text)
  | repeatedCallback
  | removeHealthNodesCallback

inductive HealthEvent where
  | client (event : Event)
  | silent
  | logged (message : Text)

def healthMessage (errorCode : Nat) : Text :=
  if errorCode = 401 then
    "Influx write failed: Authentication error. Not trying to write further points. Your need to check your " ++
      "InfluxDB token and restart the application."
  else if errorCode = 404 then
    "Influx write failed: InfluxDB not found error returned. Check bucket and organization name. Not trying " ++
      "to write further points. Fix the issue andrestart the application."
  else if errorCode = 400 then
    "Influx write failed: InfluxDB bad request error returned. Check your InfluxDB organisation. Not trying " ++
      "to write further points. Fix the issue and restart the application."
  else
    "Influx write failed: Fundamental error occurred. Check influx server address and port. Not trying to " ++
      "write further points. Fix the issue and restart the application."

def Event.overflows : Event → Bool
  | .overflowed _ => true
  | _ => false

def Action.ofWorker : Action → Bool
  | .work _ => true
  | _ => false

/-- The request of a history read fails. -/
def Action.readFails : Action → Bool
  | .read query (.request (.failed _)) => !query.invalidRange
  | _ => false

def System.locks (system : System) : Action → Bool
  | .enqueue _ | .stop => true
  | .work _ =>
    match system.worker with
    | .waiting | .collecting | .busy _ .deciding => true
    | _ => false
  | _ => false

namespace HealthUpdate
variable (update : HealthUpdate)

def start : HealthUpdate := { update with locals := {}, remaining := updateInfluxHealth }

/-- What an access reads and writes, with the client as other threads see it. -/
def run (client : InfluxClient) : HealthAccess → HealthUpdate
  | .load counter =>
    let value := client.getWriteStats.counter counter
    { update with locals.stats := Function.update update.locals.stats counter value }
  | .loadFundamentalError =>
    { update with locals.fundamentalErrorOccurred := client.getWriteStats.fundamentalErrorOccurred }
  | .writeUInt64Node counter =>
    { update with
      nodes.counters := Function.update update.nodes.counters counter (update.locals.stats counter) }
  | .hasFundamentalError => { update with locals.fundamentalError := client.hasFundamentalError }
  | .writeFundamentalError => { update with nodes.fundamentalError := update.locals.fundamentalError }
  | .hasAsyncWriteError => { update with locals.hasError := client.hasAsyncWriteError }
  | .writeAsyncErrorActive => { update with nodes.asyncErrorActive := update.locals.hasError }
  | .getLastAsyncWriteError =>
    { update with locals.error := if update.locals.hasError then client.lastAsyncWriteError else [] }
  | .writeAsyncError => { update with nodes.lastAsyncError := update.locals.error }
  | .finish => update

end HealthUpdate

namespace HealthMonitoring
variable (health : HealthMonitoring)

/-- The first part of `addHealthMonitoringNodes`, up to its own call of `updateInfluxHealth`. -/
def addNodes (enabled : Bool) (refusal : Option Text) (variableAdded : Text → Bool) :
    HealthEvent × HealthMonitoring :=
  let health := { health with requested := true }
  if !enabled then (.silent, health)
  else
    match refusal with
    | some name => (.logged ("Failed to add InfluxHealth object: " ++ name), health)
    | none =>
      let nodeIds := healthVariables.map HealthVariable.nodeId
      let health := { health with added := "InfluxHealth" :: nodeIds.takeWhile variableAdded }
      if nodeIds.all variableAdded then (.silent, { health with adding := true, update := health.update.start })
      else (.logged "Failed to add Influx health variable nodes", health)

/-- One access. The last one removes the callback when there is a fundamental error. -/
def access (client : InfluxClient) (access : HealthAccess) (rest : List HealthAccess) :
    HealthEvent × HealthMonitoring :=
  let update := { health.update with remaining := rest }.run client access
  if access = .finish && update.locals.fundamentalErrorOccurred then
    (.logged (healthMessage (update.locals.stats .errorCode)), { health with update, healthNodesAdded := false })
  else (.silent, { health with update })

end HealthMonitoring

namespace Monitored

def initial (config : InfluxConfig) : Monitored := { system := System.initial config }

/-- The client as the other threads see it between two stores. -/
def seen (monitored : Monitored) : InfluxClient :=
  { monitored.system.client with
    queuedPointsDropped := monitored.system.client.queuedPointsDropped - if monitored.overflowing then 1 else 0
    errorCode := monitored.errorCode
    fundamentalErrorOccurred := monitored.fundamentalErrorOccurred
    retryAttempts := monitored.retryAttempts }

/-- The worker has made all stores of its last attempt. -/
def stored (monitored : Monitored) : Bool :=
  monitored.errorCode = monitored.system.client.errorCode &&
    monitored.fundamentalErrorOccurred = monitored.system.client.fundamentalErrorOccurred &&
      monitored.retryAttempts = monitored.system.client.retryAttempts

def store (monitored : Monitored) : Monitored :=
  let client := monitored.system.client
  if monitored.errorCode ≠ client.errorCode then { monitored with errorCode := client.errorCode }
  else if monitored.fundamentalErrorOccurred ≠ client.fundamentalErrorOccurred then
    { monitored with fundamentalErrorOccurred := client.fundamentalErrorOccurred }
  else { monitored with retryAttempts := client.retryAttempts }

/-- A step of the threads around the client, with what it stores at once. -/
def clientStep (calendar : Calendar) (action : Action) (monitored : Monitored) : Option (HealthEvent × Monitored) :=
  if monitored.overflowing && monitored.system.locks action || action.ofWorker && !monitored.stored then none
  else
    ((writeMachine calendar).step action monitored.system).map fun (event, after) =>
      (.client event,
        { monitored with
          system := after
          overflowing := monitored.overflowing || event.overflows
          fundamentalErrorOccurred := monitored.fundamentalErrorOccurred || action.readFails })

end Monitored

/-- The machine of the threads of the client and of the thread that runs the server. -/
def healthMachine (calendar : Calendar) : Machine Monitored HealthAction HealthEvent where
  step
    | .client action, monitored => monitored.clientStep calendar action
    | .countOverflow, monitored =>
      if monitored.overflowing then some (.silent, { monitored with overflowing := false }) else none
    | .store, monitored => if monitored.stored then none else some (.silent, monitored.store)
    | .addHealthMonitoringNodes refusal variableAdded, monitored =>
      if monitored.health.requested then none
      else
        let (event, health) := monitored.health.addNodes monitored.system.client.config.writeBatching.enabled
          refusal variableAdded
        some (event, { monitored with health })
    | .access, monitored =>
      match monitored.health.update.remaining with
      | [] => none
      | access :: rest =>
        if monitored.overflowing && access = .load .queuedPoints then none
        else
          let (event, health) := monitored.health.access monitored.seen access rest
          some (event, { monitored with health })
    | .addRepeatedCallback refusal, monitored =>
      if monitored.health.adding && monitored.health.update.remaining.isEmpty then
        some (match refusal with
          | none => .silent
          | some name => .logged ("Failed to add health callback: " ++ name),
          { monitored with
            health := { monitored.health with adding := false, healthNodesAdded := refusal.isNone } })
      else none
    | .repeatedCallback, monitored =>
      if monitored.health.healthNodesAdded && monitored.health.update.remaining.isEmpty then
        some (.silent,
          { monitored with health := { monitored.health with update := monitored.health.update.start } })
      else none
    | .removeHealthNodesCallback, monitored =>
      if monitored.health.update.remaining.isEmpty && !monitored.health.adding then
        some (.silent, { monitored with health := { monitored.health with healthNodesAdded := false } })
      else none

end OpcUaAdapter
