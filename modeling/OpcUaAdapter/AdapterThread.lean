import OpcUaAdapter.Library.Machine

/-! The thread that serves the address space: `start` and `stop` of the adapter on the
side of the caller, `workerThread` on the other, and the atomic flag both write. -/

namespace OpcUaAdapter

/-- How far `workerThread` has got. -/
inductive WorkerThread where
  /-- At the test for a mapped server. -/
  | entered
  /-- From the historizing nodes to the return of `UA_Server_run_startup`. -/
  | startup
  /-- At the loop condition. -/
  | testing
  | iterating
  /-- From the end of the loop to the return of `UA_Server_run_shutdown`. -/
  | shutdown
  | returned
deriving DecidableEq

/-- How far a call of `stop` has got. -/
inductive StopCall where
  | idle
  /-- The thread is joinable, the flag is still to be cleared. -/
  | clearing
  | joining
deriving DecidableEq

/-- The adapter and its worker. No thread in `adapterThread` is one that is not joinable. -/
structure AdapterThread where
  mappedServer : Bool
  running : Bool := false
  adapterThread : Option WorkerThread := none
  workerFinished : Bool := false
  stopCall : StopCall := .idle
deriving DecidableEq

inductive ThreadAction where
  | stop
  | clear
  | join
  | work
deriving DecidableEq

inductive ThreadEvent where
  | silent
  /-- `stop` has set the flag to false. -/
  | cleared
  /-- What the worker has read at its loop condition. -/
  | tested (running : Bool)
  | joined
deriving DecidableEq

namespace AdapterThread

def isRunning (adapter : AdapterThread) : Bool := adapter.adapterThread.isSome

def start (adapter : AdapterThread) : AdapterThread :=
  if adapter.isRunning then adapter else { adapter with adapterThread := some .entered }

def workerThread (adapter : AdapterThread) : WorkerThread → Option (ThreadEvent × AdapterThread)
  | .entered =>
    some (.silent, { adapter with adapterThread := some (if adapter.mappedServer then .startup else .returned) })
  | .startup => some (.silent, { adapter with running := true, adapterThread := some .testing })
  | .testing =>
    some (.tested adapter.running,
      { adapter with adapterThread := some (if adapter.running then .iterating else .shutdown) })
  | .iterating => some (.silent, { adapter with adapterThread := some .testing })
  | .shutdown => some (.silent, { adapter with adapterThread := some .returned })
  | .returned => none

def step (action : ThreadAction) (adapter : AdapterThread) : Option (ThreadEvent × AdapterThread) :=
  match action, adapter.stopCall, adapter.adapterThread with
  | .stop, .idle, thread =>
    some (.silent, { adapter with stopCall := if thread.isSome then .clearing else .idle })
  | .clear, .clearing, _ => some (.cleared, { adapter with running := false, stopCall := .joining })
  | .join, .joining, some .returned =>
    some (.joined, { adapter with adapterThread := none, workerFinished := true, stopCall := .idle })
  | .work, _, some worker => adapter.workerThread worker
  | _, _, _ => none

end AdapterThread

def adapterMachine : Machine AdapterThread ThreadAction ThreadEvent := ⟨AdapterThread.step⟩

abbrev ThreadMove := Machine.Move AdapterThread ThreadAction ThreadEvent

/-- An interleaving of `stop` and the worker after one `start`. -/
abbrev AdapterRun (mappedServer : Bool) (moves : List ThreadMove) (adapter : AdapterThread) : Prop :=
  adapterMachine.Run (AdapterThread.start { mappedServer }) moves adapter

end OpcUaAdapter
