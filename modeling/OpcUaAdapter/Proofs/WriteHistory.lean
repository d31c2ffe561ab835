import OpcUaAdapter.Library.Conveyor
import OpcUaAdapter.Proofs.WriteSteps

/-! The points a run has accepted, acknowledged and discarded so far, read off its
moves, and the points the worker still holds. -/

namespace OpcUaAdapter

abbrev WriteMove := Machine.Move System Action Event

abbrev WriteRun (calendar : Calendar) (config : InfluxConfig) (moves : List WriteMove) (system : System) : Prop :=
  (writeMachine calendar).Run (System.initial config) moves system

namespace Event

def acceptedPoints : Event → List PendingWritePoint
  | .accepted point => [point]
  | _ => []

def overflowedPoints : Event → List PendingWritePoint
  | .overflowed point => [point]
  | _ => []

def settledPoints : Event → List (PendingWritePoint × Fate)
  | .acknowledged batch _ => batch.map (·, .delivered)
  | .discarded batch => batch.map (·, .discarded)
  | _ => []

def acknowledges : Event → Bool
  | .acknowledged _ _ => true
  | _ => false

def fails : Event → Bool
  | .failed _ => true
  | _ => false

end Event

/-- The move is a call of `writePoint` that fail-fast does not reject. -/
def admitsCall (move : WriteMove) : Bool :=
  match move.action, move.event with
  | .call _, .refused _ => false
  | .call _, _ => true
  | _, _ => false

/-- The points for which `writePoint` returned true, in the order in which they entered the queue. -/
def acceptedPoints (moves : List WriteMove) : List PendingWritePoint :=
  moves.flatMap fun move => move.event.acceptedPoints

def overflowedPoints (moves : List WriteMove) : List PendingWritePoint :=
  moves.flatMap fun move => move.event.overflowedPoints

def settledPoints (moves : List WriteMove) : List (PendingWritePoint × Fate) :=
  moves.flatMap fun move => move.event.settledPoints

def settledAs (fate : Fate) (moves : List WriteMove) : List PendingWritePoint :=
  ((settledPoints moves).filter fun item => item.2 = fate).map Prod.fst

abbrev acknowledgedPoints (moves : List WriteMove) : List PendingWritePoint := settledAs .delivered moves

abbrev discardedPoints (moves : List WriteMove) : List PendingWritePoint := settledAs .discarded moves

section Append
variable (moves : List WriteMove) (move : WriteMove)

@[simp] theorem acceptedPoints_append :
    acceptedPoints (moves ++ [move]) = acceptedPoints moves ++ move.event.acceptedPoints := by
  simp [acceptedPoints]

@[simp] theorem overflowedPoints_append :
    overflowedPoints (moves ++ [move]) = overflowedPoints moves ++ move.event.overflowedPoints := by
  simp [overflowedPoints]

@[simp] theorem settledPoints_append :
    settledPoints (moves ++ [move]) = settledPoints moves ++ move.event.settledPoints := by
  simp [settledPoints]

end Append

/-- The batch is still neither acknowledged nor discarded. -/
def Phase.unsettled : Phase → Bool
  | .sending _ _ _ | .failed _ | .deciding | .dropping => true
  | .written | .clearing | .dropped => false

/-- The points of the batch are not in the counters of written and dropped points yet. -/
def Phase.uncounted : Phase → Bool
  | .sending _ _ _ | .failed _ | .deciding | .dropping | .written => true
  | .clearing | .dropped => false

namespace Worker

/-- The batch in flight: taken from the queue, not acknowledged, put back or discarded. -/
def inFlight : Worker → List PendingWritePoint
  | .busy batch phase => if phase.unsettled then batch else []
  | _ => []

def uncounted : Worker → List PendingWritePoint
  | .busy batch phase => if phase.uncounted then batch else []
  | _ => []

end Worker

/-- The history and the state of a run as an abstract write-behind queue. -/
def belt (moves : List WriteMove) (system : System) : Conveyor PendingWritePoint :=
  { accepted := acceptedPoints moves
    settled := settledPoints moves
    inFlight := system.worker.inFlight
    queued := system.client.writeQueue }

section Demo

/-! The pieces of small concrete runs: a client that never retries. -/

def demoCalendar : Calendar := ⟨fun _ => [], fun _ => none⟩

def demoConfig : InfluxConfig := { measurement := "m", precision := "ns", writeBatching := { maxRetries := 0 } }

def demoPoint (name : Text) : PendingWritePoint := ⟨name, ⟨"1", false⟩, [], none⟩

def demoOffline : Exchange := .request (.failed "Couldn't connect to server")

def demoBusy : Exchange := .request (.answered 503 "unavailable")

def demoDelivered : Exchange := .request (.answered 204 [])

def demoWrite (name : Text) : List Action := [.call (demoPoint name), .enqueue 0]

def demoTake : List Action := [.work .noEncodeHandle, .work .noEncodeHandle, .work .noEncodeHandle]

/-- The only attempt fails, the failure is counted and reported, and the batch is put back or given up. -/
def demoFail (exchange : Exchange) : List Action :=
  [.work exchange, .work .noEncodeHandle, .work .noEncodeHandle, .work .noEncodeHandle]

def demoSucceed : List Action := [.work demoDelivered, .work .noEncodeHandle, .work .noEncodeHandle]

end Demo

end OpcUaAdapter
