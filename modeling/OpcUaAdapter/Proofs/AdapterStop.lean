import OpcUaAdapter.AdapterThread

/-! Whether `stop` ends the worker. The worker sets the flag once its start-up is over,
so a `stop` that clears the flag earlier is forgotten and waits forever. -/

namespace OpcUaAdapter

/-- Everything a step of the adapter can do, with its guard and its effect. -/
inductive ThreadStep (adapter : AdapterThread) : ThreadAction → ThreadEvent → AdapterThread → Prop where
  | passes (idle : adapter.stopCall = .idle) (none : adapter.adapterThread = none) :
      ThreadStep adapter .stop .silent { adapter with stopCall := .idle }
  | calls (idle : adapter.stopCall = .idle) {worker} (thread : adapter.adapterThread = some worker) :
      ThreadStep adapter .stop .silent { adapter with stopCall := .clearing }
  | clears (clearing : adapter.stopCall = .clearing) :
      ThreadStep adapter .clear .cleared { adapter with running := false, stopCall := .joining }
  | joins (joining : adapter.stopCall = .joining) (returned : adapter.adapterThread = some .returned) :
      ThreadStep adapter .join .joined
        { adapter with adapterThread := none, workerFinished := true, stopCall := .idle }
  | declines (entered : adapter.adapterThread = some .entered) (unmapped : adapter.mappedServer = false) :
      ThreadStep adapter .work .silent { adapter with adapterThread := some .returned }
  | starts (entered : adapter.adapterThread = some .entered) (mapped : adapter.mappedServer = true) :
      ThreadStep adapter .work .silent { adapter with adapterThread := some .startup }
  | sets (startup : adapter.adapterThread = some .startup) :
      ThreadStep adapter .work .silent { adapter with running := true, adapterThread := some .testing }
  | goesOn (testing : adapter.adapterThread = some .testing) (set : adapter.running = true) :
      ThreadStep adapter .work (.tested true) { adapter with adapterThread := some .iterating }
  | leaves (testing : adapter.adapterThread = some .testing) (cleared : adapter.running = false) :
      ThreadStep adapter .work (.tested false) { adapter with adapterThread := some .shutdown }
  | iterates (iterating : adapter.adapterThread = some .iterating) :
      ThreadStep adapter .work .silent { adapter with adapterThread := some .testing }
  | returns (shutdown : adapter.adapterThread = some .shutdown) :
      ThreadStep adapter .work .silent { adapter with adapterThread := some .returned }

private theorem workerThread_step {adapter after : AdapterThread} {worker : WorkerThread} {event : ThreadEvent}
    (thread : adapter.adapterThread = some worker) (moved : adapter.workerThread worker = some (event, after)) :
    ThreadStep adapter .work event after := by
  obtain ⟨mapped, running, _, _, _⟩ := adapter
  cases thread
  cases worker with
  | entered =>
    cases mapped with
    | false => cases moved; exact .declines rfl rfl
    | true => cases moved; exact .starts rfl rfl
  | startup => cases moved; exact .sets rfl
  | testing =>
    cases running with
    | false => cases moved; exact .leaves rfl rfl
    | true => cases moved; exact .goesOn rfl rfl
  | iterating => cases moved; exact .iterates rfl
  | shutdown => cases moved; exact .returns rfl
  | returned => cases moved

private theorem adapterMachine_step {adapter after : AdapterThread} {action : ThreadAction} {event : ThreadEvent}
    (moved : adapterMachine.step action adapter = some (event, after)) : ThreadStep adapter action event after := by
  change adapter.step action = _ at moved
  unfold AdapterThread.step at moved
  obtain ⟨_, _, thread, _, call⟩ := adapter
  split at moved
  next idle =>
    cases idle
    cases thread with
    | none => cases moved; exact .passes rfl rfl
    | some worker => cases moved; exact .calls rfl rfl
  next clearing => cases clearing; cases moved; exact .clears rfl
  next joining returned => cases joining; cases returned; cases moved; exact .joins rfl rfl
  next thread => exact workerThread_step thread moved
  next => cases moved

def isWork (move : ThreadMove) : Bool := move.action = .work

/-- From here on the worker reads false at its loop condition, and it returns after a
few steps of its own. -/
structure WorkerEnds (adapter : AdapterThread) : Prop where
  tests : ∀ later last, adapterMachine.Run adapter later last → ∀ move ∈ later, move.event ≠ .tested true
  returns : ∀ later last, adapterMachine.Run adapter later last → (later.filter isWork).length ≤ 3

/-- `stop` is about to clear the flag of a worker that has not yet set it. -/
def AdapterThread.clearsEarly (adapter : AdapterThread) (action : ThreadAction) : Prop :=
  action = .clear ∧ adapter.mappedServer = true ∧
    (adapter.adapterThread = some .entered ∨ adapter.adapterThread = some .startup)

/-- The flag is cleared and the worker can no longer set it. -/
structure Stopped (adapter : AdapterThread) : Prop where
  cleared : adapter.running = false
  past : adapter.adapterThread ≠ some .startup
  unmapped : adapter.adapterThread = some .entered → adapter.mappedServer = false

/-- The steps a worker still takes when it reads false. -/
def remainingSteps : Option WorkerThread → Nat
  | some .iterating => 3
  | some .testing => 2
  | some .shutdown | some .entered => 1
  | _ => 0

private theorem remainingSteps_le (thread : Option WorkerThread) : remainingSteps thread ≤ 3 := by
  rcases thread with _ | _ | _ | _ | _ | _ | _ <;> decide

theorem ThreadStep.stopped {adapter after : AdapterThread} {action : ThreadAction} {event : ThreadEvent}
    (step : ThreadStep adapter action event after) (stopped : Stopped adapter) :
    Stopped after ∧ event ≠ .tested true ∧
      (if action = .work then 1 else 0) + remainingSteps after.adapterThread ≤ remainingSteps adapter.adapterThread := by
  obtain ⟨cleared, past, unmapped⟩ := stopped
  cases step with
  | passes | calls | clears => exact ⟨⟨by trivial, past, unmapped⟩, by decide, by simp⟩
  | joins => exact ⟨⟨cleared, by simp, by simp⟩, by decide, by simp [remainingSteps]⟩
  | declines entered => exact ⟨⟨cleared, by simp, by simp⟩, by decide, by simp [entered, remainingSteps]⟩
  | starts entered mapped => rw [unmapped entered] at mapped; cases mapped
  | sets startup => exact absurd startup past
  | goesOn _ set => rw [cleared] at set; cases set
  | leaves testing => exact ⟨⟨cleared, by simp, by simp⟩, by decide, by simp [testing, remainingSteps]⟩
  | iterates iterating => exact ⟨⟨cleared, by simp, by simp⟩, by decide, by simp [iterating, remainingSteps]⟩
  | returns shutdown => exact ⟨⟨cleared, by simp, by simp⟩, by decide, by simp [shutdown, remainingSteps]⟩

theorem Stopped.ends {adapter : AdapterThread} (stopped : Stopped adapter) : WorkerEnds adapter := by
  have kept : ∀ later last, adapterMachine.Run adapter later last → Stopped last ∧
      (∀ move ∈ later, move.event ≠ .tested true) ∧
      (later.filter isWork).length + remainingSteps last.adapterThread ≤ remainingSteps adapter.adapterThread := by
    intro later last run
    refine run.invariant (fun later last => Stopped last ∧ (∀ move ∈ later, move.event ≠ .tested true) ∧
      (later.filter isWork).length + remainingSteps last.adapterThread ≤ remainingSteps adapter.adapterThread)
      ⟨stopped, by simp, by simp⟩ ?_
    rintro moves before action event after ⟨stopped, tests, counted⟩ moved
    obtain ⟨still, quiet, fewer⟩ := (adapterMachine_step moved).stopped stopped
    refine ⟨still, ?_, ?_⟩
    · intro move member
      rcases List.mem_append.mp member with old | new
      · exact tests move old
      · cases List.mem_singleton.mp new
        exact quiet
    · rw [List.filter_append, List.length_append]
      by_cases work : action = .work
      · simp only [work, if_true] at fewer
        simp only [List.filter_singleton, isWork, work, decide_true, cond_true, List.length_singleton]
        omega
      · simp only [work, if_false] at fewer
        simp only [List.filter_singleton, isWork, work, decide_false, cond_false, List.length_nil]
        omega
  refine ⟨fun later last run => (kept later last run).2.1, fun later last run => ?_⟩
  have := (kept later last run).2.2
  have := remainingSteps_le adapter.adapterThread
  omega

/-- `stop` waits for a worker that has set the flag after it, or is going to. -/
structure Overtaken (adapter : AdapterThread) : Prop where
  mapped : adapter.mappedServer = true
  waiting : adapter.stopCall = .joining
  worker : adapter.adapterThread = some .entered ∨ adapter.adapterThread = some .startup ∨
    adapter.running = true ∧ (adapter.adapterThread = some .testing ∨ adapter.adapterThread = some .iterating)

private theorem ThreadStep.overtaken {adapter after : AdapterThread} {action : ThreadAction} {event : ThreadEvent}
    (step : ThreadStep adapter action event after) (overtaken : Overtaken adapter) : Overtaken after := by
  obtain ⟨mapped, waiting, worker⟩ := overtaken
  cases step with
  | passes idle | calls idle => rw [idle] at waiting; cases waiting
  | clears clearing => rw [clearing] at waiting; cases waiting
  | joins _ thread | returns thread => simp [thread] at worker
  | declines _ unmapped => rw [mapped] at unmapped; cases unmapped
  | starts => exact ⟨mapped, waiting, .inr (.inl rfl)⟩
  | sets => exact ⟨mapped, waiting, .inr (.inr ⟨rfl, .inl rfl⟩)⟩
  | goesOn _ set => exact ⟨mapped, waiting, .inr (.inr ⟨set, .inr rfl⟩)⟩
  | leaves testing cleared => simp [testing, cleared] at worker
  | iterates iterating =>
    have set : adapter.running = true := by simpa [iterating] using worker
    exact ⟨mapped, waiting, .inr (.inr ⟨set, .inl rfl⟩)⟩

/-- The worker that was stopped too early never returns, and `stop` waits for it. -/
theorem Overtaken.waits {adapter last : AdapterThread} (overtaken : Overtaken adapter) {later : List ThreadMove}
    (run : adapterMachine.Run adapter later last) :
    last.stopCall = .joining ∧ last.adapterThread ≠ some .shutdown ∧ last.adapterThread ≠ some .returned := by
  have kept : Overtaken last := run.invariant (fun _ last => Overtaken last) overtaken
    fun _ _ _ _ _ ih moved => (adapterMachine_step moved).overtaken ih
  refine ⟨kept.waiting, ?_, ?_⟩
  · intro shutdown
    simpa [shutdown] using kept.worker
  · intro returned
    simpa [returned] using kept.worker

private theorem Overtaken.tests {adapter : AdapterThread} (overtaken : Overtaken adapter) : ¬ WorkerEnds adapter := by
  intro ends
  have goesOn {actions : List ThreadAction}
      (seen : (adapterMachine.exec actions adapter).map (fun made => made.1.any (·.event = .tested true)) = some true) :
      False := by
    obtain ⟨later, last, run, found⟩ := Machine.exec_reaches seen
    obtain ⟨move, member, event⟩ := List.any_eq_true.mp found
    exact ends.tests later last run move member (of_decide_eq_true event)
  obtain ⟨mapped, running, thread, _, _⟩ := adapter
  obtain ⟨mapped, waiting, worker⟩ := overtaken
  cases mapped
  cases waiting
  rcases worker with entered | startup | ⟨set, testing | iterating⟩
  · cases entered
    exact @goesOn [.work, .work, .work] rfl
  · cases startup
    exact @goesOn [.work, .work] rfl
  · cases set
    cases testing
    exact @goesOn [.work] rfl
  · cases set
    cases iterating
    exact @goesOn [.work, .work] rfl

theorem AdapterRun.startup_mapped {mappedServer : Bool} {moves : List ThreadMove} {adapter : AdapterThread}
    (run : AdapterRun mappedServer moves adapter) :
    adapter.adapterThread = some .startup → adapter.mappedServer = true := by
  refine run.invariant (fun _ adapter => adapter.adapterThread = some .startup → adapter.mappedServer = true)
    (fun startup => by cases startup) ?_
  intro _ before _ _ _ ih moved
  cases adapterMachine_step moved with
  | passes | calls | clears => exact ih
  | starts _ mapped => exact fun _ => mapped
  | joins | declines | sets | goesOn | leaves | iterates | returns => intro startup; cases startup

/-- In a run after one start, the worker ends after each `stop` exactly when no `stop`
clears the flag before the worker has set it. -/
theorem stop_ends_worker_iff {mappedServer : Bool} {moves : List ThreadMove} {adapter : AdapterThread}
    (run : AdapterRun mappedServer moves adapter) :
    (∀ move ∈ moves, ∀ after, adapterMachine.step move.action move.before = some (.cleared, after) → WorkerEnds after) ↔
      ∀ move ∈ moves, ¬ move.before.clearsEarly move.action := by
  constructor
  · rintro ends move member ⟨clear, mapped, early⟩
    obtain ⟨_, after, _, _, possible⟩ := run.split member
    obtain ⟨before, action, event⟩ := move
    cases clear
    cases adapterMachine_step possible with
    | clears clearing =>
      refine Overtaken.tests ?_ (ends _ member _ possible)
      exact ⟨mapped, rfl, early.imp_right .inl⟩
  · intro careful move member after moved
    obtain ⟨earlier, _, _, reached, _⟩ := run.split member
    have late := careful move member
    have startup := AdapterRun.startup_mapped reached
    obtain ⟨before, action, event⟩ := move
    cases adapterMachine_step moved with
    | clears clearing =>
      refine Stopped.ends ⟨rfl, fun thread => late ⟨rfl, startup thread, .inr thread⟩, fun thread => ?_⟩
      exact Bool.eq_false_iff.mpr fun mapped => late ⟨rfl, mapped, .inl thread⟩

/-- A `stop` while the worker iterates is answered. -/
theorem stop_ends_iterating_worker : ∃ moves adapter, AdapterRun true moves adapter ∧ adapter.workerFinished = true ∧
    ∀ move ∈ moves, ∀ after, adapterMachine.step move.action move.before = some (.cleared, after) → WorkerEnds after := by
  have executed : adapterMachine.exec [.work, .work, .work, .stop, .clear, .work, .work, .work, .join]
    (AdapterThread.start { mappedServer := true }) = some (_, _) := rfl
  have run := Machine.exec_run executed
  refine ⟨_, _, run, rfl, (stop_ends_worker_iff run).mpr ?_⟩
  simp [AdapterThread.clearsEarly]

/-- A `stop` during the start-up: the worker sets the flag after it was cleared. -/
theorem stop_during_startup : ∃ moves adapter, AdapterRun true moves adapter ∧
    moves.map Machine.Move.event = [.silent, .silent, .cleared, .silent, .tested true] ∧
    adapter.stopCall = .joining ∧
    ¬ ∀ move ∈ moves, ∀ after, adapterMachine.step move.action move.before = some (.cleared, after) →
      WorkerEnds after := by
  have executed : adapterMachine.exec [.work, .stop, .clear, .work, .work]
    (AdapterThread.start { mappedServer := true }) = some (_, _) := rfl
  refine ⟨_, _, Machine.exec_run executed, rfl, rfl, fun ends => ?_⟩
  have cleared := ends _ (List.mem_cons_of_mem _ (List.mem_cons_of_mem _ List.mem_cons_self)) _ rfl
  exact Overtaken.tests ⟨rfl, rfl, .inr (.inl rfl)⟩ cleared

end OpcUaAdapter
