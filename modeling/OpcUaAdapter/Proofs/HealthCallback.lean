import OpcUaAdapter.Proofs.HealthNodes

/-! The end of the monitoring. A fundamental error removes the repeated callback, so what the
nodes show then stays for good: the call that removes it has to show the error itself. -/

namespace OpcUaAdapter

/-- What is read and shown of the flag for fundamental errors, which the statistics hold as
well. The flag of the node is read after the one of the statistics. -/
structure ShowsFlag (update : HealthUpdate) (client : InfluxClient) : Prop where
  counted : .loadFundamentalError ∉ update.remaining → update.locals.fundamentalErrorOccurred = true →
    client.fundamentalErrorOccurred = true
  read : .hasFundamentalError ∉ update.remaining →
    (update.locals.fundamentalErrorOccurred = true → update.locals.fundamentalError = true) ∧
      (update.locals.fundamentalError = true → client.fundamentalErrorOccurred = true)
  shown : .writeFundamentalError ∉ update.remaining →
    update.nodes.fundamentalError = update.locals.fundamentalError
  sound : update.nodes.fundamentalError = true → client.fundamentalErrorOccurred = true

theorem ShowsFlag.maintained (config : InfluxConfig) : Maintained config ShowsFlag where
  initial _ := ⟨fun _ set => Bool.noConfusion set, fun _ => ⟨id, fun set => Bool.noConfusion set⟩, fun _ => rfl,
    fun set => Bool.noConfusion set⟩
  grows shows grows _ := ⟨fun absent set => grows.flag (shows.counted absent set),
    fun absent => ⟨(shows.read absent).1, fun set => grows.flag ((shows.read absent).2 set)⟩, shows.shown,
    fun set => grows.flag (shows.sound set)⟩
  begins shows := ⟨fun absent => absurd (mem_start _ _) absent, fun absent => absurd (mem_start _ _) absent,
    fun absent => absurd (mem_start _ _) absent, shows.sound⟩
  access := by
    intro update client access rest shows _ inside
    obtain ⟨counted, read, shown, sound⟩ := shows
    have later {second : HealthAccess} (ordered : access.orders second = true) : second ∈ rest :=
      (precedes_of_orders ordered).1 rest inside
    have earlier {first : HealthAccess} (ordered : first.orders access = true) (differs : first ≠ access) :
        first ∉ access :: rest :=
      not_mem_before differs ((precedes_of_orders ordered).2 rest inside)
    cases access with
    | loadFundamentalError =>
      exact ⟨fun _ => id, fun absent => absurd (later (by decide)) absent,
        fun absent => absurd (later (by decide)) absent, sound⟩
    | hasFundamentalError =>
      exact ⟨fun absent => counted (not_mem_before (by simp) absent),
        fun _ => ⟨counted (earlier (by decide) (by decide)), id⟩, fun absent => absurd (later (by decide)) absent, sound⟩
    | writeFundamentalError =>
      exact ⟨fun absent => counted (not_mem_before (by simp) absent),
        fun absent => read (not_mem_before (by simp) absent), fun _ => rfl,
        (read (earlier (by decide) (by decide))).2⟩
    | load | writeUInt64Node | hasAsyncWriteError | writeAsyncErrorActive | getLastAsyncWriteError | writeAsyncError
    | finish =>
      exact ⟨fun absent => counted (not_mem_before (by simp) absent),
        fun absent => read (not_mem_before (by simp) absent), fun absent => shown (not_mem_before (by simp) absent), sound⟩

/-- Who makes the call in progress: the monitoring itself before there is a callback, else the callback. -/
structure CallOwned (health : HealthMonitoring) : Prop where
  first : health.adding = true → health.requested = true
  repeated : health.healthNodesAdded = true → health.requested = true ∧ health.adding = false
  progress : health.update.remaining ≠ [] → health.adding = true ∨ health.healthNodesAdded = true

private theorem finish_iff_last {access : HealthAccess} {rest : List HealthAccess}
    (inside : access :: rest <:+ updateInfluxHealth) : access = .finish ↔ rest = [] := by
  have checked : ∀ suffix ∈ updateInfluxHealth.tails, ∀ first ∈ suffix.head?, (first = .finish ↔ suffix.tail = []) := by
    decide
  exact checked _ ((List.mem_tails _ _).mpr inside) access rfl

section Steps

variable {calendar : Calendar} {config : InfluxConfig} {monitored after : Monitored} {action : HealthAction}
  {event : HealthEvent}

private theorem HealthStep.owned (step : HealthStep calendar monitored action event after)
    (inside : monitored.health.update.remaining <:+ updateInfluxHealth) (owned : CallOwned monitored.health) :
    CallOwned after.health := by
  obtain ⟨first, repeated, progress⟩ := owned
  cases step with
  | client moved =>
    obtain ⟨_, _, -, -, -, rfl⟩ := Monitored.clientStep_some moved
    exact ⟨first, repeated, progress⟩
  | counted => exact ⟨first, repeated, progress⟩
  | stores =>
    rw [Monitored.store_health]
    exact ⟨first, repeated, progress⟩
  | declined => exact ⟨fun _ => rfl, fun set => ⟨rfl, (repeated set).2⟩, progress⟩
  | adds _ fresh =>
    refine ⟨fun _ => rfl, fun set => ?_, fun _ => .inl rfl⟩
    exact absurd (fresh.symm.trans (repeated set).1) (by decide)
  | accesses access rest next =>
    rw [next] at inside progress
    dsimp only [HealthMonitoring.access]
    split
    next removed =>
      simp only [Bool.and_eq_true, decide_eq_true_eq] at removed
      refine ⟨first, fun set => Bool.noConfusion set, fun more => ?_⟩
      rw [HealthUpdate.run_remaining] at more
      exact absurd ((finish_iff_last inside).mp removed.1) more
    next => exact ⟨first, repeated, fun _ => progress (List.cons_ne_nil _ _)⟩
  | registers adding idle =>
    exact ⟨fun set => Bool.noConfusion set, fun _ => ⟨first adding, rfl⟩, fun more => absurd idle more⟩
  | repeats registered => exact ⟨first, repeated, fun _ => .inr registered⟩
  | removes idle whole => exact ⟨first, fun set => Bool.noConfusion set, fun more => absurd idle more⟩

/-- The callback is gone and will not come back. -/
structure CallbackGone (health : HealthMonitoring) : Prop where
  requested : health.requested = true
  whole : health.adding = false
  removed : health.healthNodesAdded = false
  idle : health.update.remaining = []

private theorem HealthStep.gone (step : HealthStep calendar monitored action event after) (gone : CallbackGone monitored.health) :
    CallbackGone after.health ∧ after.health.update = monitored.health.update := by
  obtain ⟨requested, whole, removed, idle⟩ := gone
  cases step with
  | client moved =>
    obtain ⟨_, _, -, -, -, rfl⟩ := Monitored.clientStep_some moved
    exact ⟨⟨requested, whole, removed, idle⟩, rfl⟩
  | stores =>
    rw [Monitored.store_health]
    exact ⟨⟨requested, whole, removed, idle⟩, rfl⟩
  | counted => exact ⟨⟨requested, whole, removed, idle⟩, rfl⟩
  | declined => exact ⟨⟨rfl, whole, removed, idle⟩, rfl⟩
  | adds _ fresh => exact absurd (fresh.symm.trans requested) (by decide)
  | accesses _ _ next => exact absurd (idle.symm.trans next) (by simp)
  | registers adding => exact absurd (whole.symm.trans adding) (by decide)
  | repeats registered => exact absurd (removed.symm.trans registered) (by decide)
  | removes => exact ⟨⟨requested, whole, rfl, idle⟩, rfl⟩

end Steps

section Run

variable {calendar : Calendar} {config : InfluxConfig} {moves : List HealthMove} {monitored last : Monitored}

theorem CallbackGone.run (gone : CallbackGone monitored.health) (rest : (healthMachine calendar).Run monitored moves last) :
    CallbackGone last.health ∧ last.health.update = monitored.health.update := by
  refine rest.invariant (fun _ last => CallbackGone last.health ∧ last.health.update = monitored.health.update)
    ⟨gone, rfl⟩ ?_
  rintro _ _ _ _ _ ⟨held, same⟩ moved
  obtain ⟨still, kept⟩ := (healthMachine_step moved).gone held
  exact ⟨still, kept.trans same⟩

/-- A reachable state, as far as the end of the monitoring depends on it. -/
structure Attended (calendar : Calendar) (config : InfluxConfig) (monitored : Monitored) : Prop where
  flagged : Supervised calendar config ShowsFlag monitored
  counted : Supervised calendar config Shows monitored
  owned : CallOwned monitored.health

theorem Attended.step (positive : 1 ≤ config.writeBatching.maxBatchPoints) {after : Monitored} {action : HealthAction}
    {event : HealthEvent} (attended : Attended calendar config monitored)
    (moved : (healthMachine calendar).step action monitored = some (event, after)) :
    Attended calendar config after ∧ CountersGrow monitored.seen after.seen := by
  obtain ⟨flagged, grows⟩ := (ShowsFlag.maintained config).step positive attended.flagged moved
  have counted := ((Shows.maintained config).step positive attended.counted moved).1
  exact ⟨⟨flagged, counted, (healthMachine_step moved).owned attended.flagged.inside attended.owned⟩, grows⟩

private theorem HealthRun.attended (run : HealthRun calendar config moves monitored)
    (positive : 1 ≤ config.writeBatching.maxBatchPoints) : Attended calendar config monitored := by
  refine run.invariant (fun _ monitored => Attended calendar config monitored) ?_ ?_
  · exact ⟨(ShowsFlag.maintained config).run positive .start, (Shows.maintained config).run positive .start,
      fun set => Bool.noConfusion set, fun set => Bool.noConfusion set, fun more => absurd rfl more⟩
  · exact fun _ _ _ _ _ kept moved => (kept.step positive moved).1

/-- The last access of a call whose statistics hold the flag. -/
theorem Attended.finishes (attended : Attended calendar config monitored)
    (last : monitored.health.update.remaining = [.finish])
    (set : monitored.health.update.locals.fundamentalErrorOccurred = true) :
    monitored.health.update.nodes.fundamentalError = true ∧
      monitored.system.client.fundamentalErrorOccurred = true ∧
      monitored.health.update.nodes.counters .errorCode = monitored.health.update.locals.stats .errorCode := by
  have shows := attended.flagged.kept
  have shown := shows.shown (by simp [last])
  have read := (shows.read (by simp [last])).1 set
  refine ⟨shown.trans read, ?_, attended.counted.kept.written .errorCode (by simp [last])⟩
  exact attended.flagged.overseen.lag.flag (shows.counted (by simp [last]) set)

theorem HealthStep.logs {after : Monitored} {message : Text}
    (step : HealthStep calendar monitored .access (.logged message) after)
    (inside : monitored.health.update.remaining <:+ updateInfluxHealth) :
    monitored.health.update.remaining = [.finish] ∧
      monitored.health.update.locals.fundamentalErrorOccurred = true ∧
      message = healthMessage (monitored.health.update.locals.stats .errorCode) ∧
      after.system = monitored.system ∧
      after.health =
        { monitored.health with
          update := { monitored.health.update with remaining := [] }
          healthNodesAdded := false } := by
  generalize logged : HealthEvent.logged message = event at step
  cases step with
  | accesses access rest next =>
    rw [next] at inside ⊢
    dsimp only [HealthMonitoring.access] at logged ⊢
    split at logged
    next removed =>
      simp only [Bool.and_eq_true, decide_eq_true_eq] at removed
      obtain ⟨rfl, set⟩ := removed
      cases (finish_iff_last inside).mp rfl
      cases logged
      refine ⟨rfl, set, rfl, rfl, ?_⟩
      simp only [HealthUpdate.run] at set ⊢
      simp [set]
    next => cases logged

end Run

/-- A call that logs a fundamental error shows it, with the error code that the message
goes by. When it is a call of the repeated callback, nothing is written to the nodes any
more in whatever follows; when it is the one before there is a callback, the callback is
still to be added. -/
theorem logged_error_is_shown {calendar : Calendar} {config : InfluxConfig} {moves : List HealthMove}
    {monitored after : Monitored} {message : Text} (run : HealthRun calendar config moves monitored)
    (positive : 1 ≤ config.writeBatching.maxBatchPoints)
    (moved : (healthMachine calendar).step .access monitored = some (.logged message, after)) :
    let nodes := after.health.update.nodes
    nodes.fundamentalError = true ∧ after.system.client.fundamentalErrorOccurred = true ∧
      message = healthMessage (nodes.counters .errorCode) ∧
      (monitored.health.healthNodesAdded = true → ∀ later last, (healthMachine calendar).Run after later last →
        last.health.update = after.health.update ∧ last.health.healthNodesAdded = false) ∧
      (monitored.health.healthNodesAdded = false → after.health.adding = true) := by
  have attended := HealthRun.attended run positive
  obtain ⟨finishing, set, said, system, health⟩ := (healthMachine_step moved).logs attended.flagged.inside
  obtain ⟨shown, flag, code⟩ := attended.finishes finishing set
  refine ⟨by rw [health]; exact shown, by rw [system]; exact flag, by rw [health, said]; exact congrArg _ code.symm,
    fun registered later last rest => ?_, fun unregistered => ?_⟩
  · obtain ⟨requested, whole⟩ := attended.owned.repeated registered
    have gone : CallbackGone after.health := by
      rw [health]
      exact ⟨requested, whole, rfl, rfl⟩
    obtain ⟨still, same⟩ := gone.run rest
    exact ⟨same, still.removed⟩
  · rw [health]
    exact (attended.owned.progress (by simp [finishing])).resolve_right (by simp [unregistered])

def demoDenied : Exchange := .request (.answered 401 "unauthorized")

/-- The nodes are there, and the write of a point is denied while the callback waits. -/
def demoDenial : List HealthAction :=
  .addHealthMonitoringNodes none (fun _ => true) :: List.replicate 24 .access ++ .addRepeatedCallback none ::
    (demoWrite "a" ++ demoTake ++ [Action.work demoDenied]).map .client ++ [.store, .store]

private theorem demoDenial_runs : ((healthMachine demoCalendar).exec demoDenial (Monitored.initial demoConfig)).isSome = true := by
  decide +kernel

def demoDenialRun : List HealthMove × Monitored := Option.get _ demoDenial_runs

private theorem demoDenialRun_run : HealthRun demoCalendar demoConfig demoDenialRun.1 demoDenialRun.2 :=
  Machine.exec_run (Option.some_get demoDenial_runs).symm

theorem denied_write_is_shown : ∃ moves monitored after message, HealthRun demoCalendar demoConfig moves monitored ∧
    (healthMachine demoCalendar).step .access monitored = some (.logged message, after) ∧
      after.health.update.nodes.fundamentalError = true := by
  have computed : ((healthMachine demoCalendar).exec
      (demoDenial ++ .repeatedCallback :: List.replicate 24 .access) (Monitored.initial demoConfig)).map
      (fun run => run.1.any fun move =>
        match move.action, move.event with
        | .access, .logged _ => true
        | _, _ => false) = some true := by decide +kernel
  obtain ⟨moves, last, run, seen⟩ := Machine.exec_reaches computed
  obtain ⟨⟨before, action, event⟩, member, logs⟩ := List.any_eq_true.mp seen
  obtain ⟨earlier, after, -, reached, moved⟩ := run.split member
  split at logs
  next message here said =>
    cases here
    cases said
    exact ⟨earlier, before, after, message, reached, moved, (logged_error_is_shown reached (by decide) moved).1⟩
  next => cases logs

section Doom

variable {calendar : Calendar} {config : InfluxConfig} {monitored : Monitored}

/-- The accesses until the callback of a client with a fundamental error is removed, and its start. -/
def HealthMonitoring.callsLeft (health : HealthMonitoring) : Nat :=
  if health.update.remaining = [] then if health.healthNodesAdded then updateInfluxHealth.length + 1 else 0
  else health.update.remaining.length

def HealthAction.ofCallback : HealthAction → Bool
  | .access | .repeatedCallback => true
  | _ => false

/-- The callback sees the error in the call that it begins next or is in, or has shown it. -/
structure Doomed (calendar : Calendar) (config : InfluxConfig) (monitored : Monitored) : Prop where
  attended : Attended calendar config monitored
  latched : monitored.fundamentalErrorOccurred = true
  seen : monitored.health.healthNodesAdded = true ∧
      (.loadFundamentalError ∉ monitored.health.update.remaining → monitored.health.update.remaining ≠ [] →
        monitored.health.update.locals.fundamentalErrorOccurred = true) ∨
    CallbackGone monitored.health ∧ monitored.health.update.nodes.fundamentalError = true

private theorem CallbackGone.callsLeft {health : HealthMonitoring} (gone : CallbackGone health) : health.callsLeft = 0 := by
  simp [HealthMonitoring.callsLeft, gone.idle, gone.removed]

private theorem callsLeft_next {health : HealthMonitoring} {access : HealthAccess} {rest : List HealthAccess}
    (next : health.update.remaining = access :: rest) : health.callsLeft = rest.length + 1 := by
  simp [HealthMonitoring.callsLeft, next]

private theorem callsLeft_pos {health : HealthMonitoring} (registered : health.healthNodesAdded = true) :
    0 < health.callsLeft := by
  cases here : health.update.remaining with
  | nil => simp [HealthMonitoring.callsLeft, here, registered]
  | cons access rest => simp [callsLeft_next here]

private theorem HealthAccess.keeps_flag {access : HealthAccess} {update : HealthUpdate} {client : InfluxClient}
    (latched : client.fundamentalErrorOccurred = true)
    (loaded : access ≠ .loadFundamentalError → update.locals.fundamentalErrorOccurred = true) :
    (update.run client access).locals.fundamentalErrorOccurred = true := by
  cases access with
  | loadFundamentalError => exact latched
  | _ => exact loaded (by simp)

theorem Doomed.step (positive : 1 ≤ config.writeBatching.maxBatchPoints) {after : Monitored} {action : HealthAction}
    {event : HealthEvent} (doomed : Doomed calendar config monitored) (up : action ≠ .removeHealthNodesCallback)
    (moved : (healthMachine calendar).step action monitored = some (event, after)) :
    Doomed calendar config after ∧
      after.health.callsLeft + (if action.ofCallback then 1 else 0) = monitored.health.callsLeft := by
  obtain ⟨attended, latched, seen⟩ := doomed
  obtain ⟨next, grows⟩ := attended.step positive moved
  have flag := grows.flag latched
  have step := healthMachine_step moved
  rcases seen with ⟨registered, loaded⟩ | ⟨gone, shown⟩
  · obtain ⟨requested, whole⟩ := attended.owned.repeated registered
    cases step with
    | client moved =>
      obtain ⟨_, _, -, -, -, rfl⟩ := Monitored.clientStep_some moved
      exact ⟨⟨next, flag, .inl ⟨registered, loaded⟩⟩, rfl⟩
    | stores =>
      refine ⟨⟨next, flag, .inl ?_⟩, by rw [Monitored.store_health]; rfl⟩
      rw [Monitored.store_health]
      exact ⟨registered, loaded⟩
    | counted | declined => exact ⟨⟨next, flag, .inl ⟨registered, loaded⟩⟩, rfl⟩
    | adds _ fresh => exact absurd (fresh.symm.trans requested) (by decide)
    | accesses access rest here =>
      have inside := attended.flagged.inside
      rw [here] at inside loaded
      rw [callsLeft_next here]
      by_cases last : rest = []
      · cases (finish_iff_last inside).mpr last
        cases last
        have set := loaded (by decide) (by decide)
        have shown := (attended.finishes here set).1
        have result : (monitored.health.access monitored.seen .finish []).2 =
            { monitored.health with
              update := { monitored.health.update with remaining := [] }
              healthNodesAdded := false } := by
          simp [HealthMonitoring.access, HealthUpdate.run, set]
        have gone : CallbackGone (monitored.health.access monitored.seen .finish []).2 := by
          rw [result]
          exact ⟨requested, whole, rfl, rfl⟩
        refine ⟨⟨next, flag, .inr ⟨gone, by rw [result]; exact shown⟩⟩, ?_⟩
        rw [gone.callsLeft]
        rfl
      · have other : access ≠ .finish := fun same => last ((finish_iff_last inside).mp same)
        have result : (monitored.health.access monitored.seen access rest).2 =
            { monitored.health with
              update := { monitored.health.update with remaining := rest }.run monitored.seen access } := by
          simp [HealthMonitoring.access, other]
        have remaining : (monitored.health.access monitored.seen access rest).2.update.remaining = rest := by
          rw [result]
          exact HealthUpdate.run_remaining _ _ _
        refine ⟨⟨next, flag, .inl ⟨by rw [result]; exact registered, fun absent _ => ?_⟩⟩, ?_⟩
        · rw [remaining] at absent
          rw [result]
          exact HealthAccess.keeps_flag latched fun differs =>
            loaded (not_mem_before (Ne.symm differs) absent) (by simp)
        · simp [HealthMonitoring.callsLeft, remaining, last, HealthAction.ofCallback]
    | registers adding => exact absurd (whole.symm.trans adding) (by decide)
    | repeats _ idle =>
      refine ⟨⟨next, flag, .inl ⟨registered, fun absent => absurd (mem_start _ _) absent⟩⟩, ?_⟩
      simp [HealthMonitoring.callsLeft, idle, registered, HealthAction.ofCallback, HealthUpdate.start,
        show updateInfluxHealth ≠ [] by decide]
    | removes => exact absurd rfl up
  · obtain ⟨still, same⟩ := step.gone gone
    refine ⟨⟨next, flag, .inr ⟨still, by rw [same]; exact shown⟩⟩, ?_⟩
    have quiet : action.ofCallback = false := by
      cases step with
      | accesses _ _ here => exact absurd (gone.idle.symm.trans here) (by simp)
      | repeats registered => exact absurd (gone.removed.symm.trans registered) (by decide)
      | _ => rfl
    simp [still.callsLeft, gone.callsLeft, quiet]

theorem Monitored.next_of_registered (monitored : Monitored) (registered : monitored.health.healthNodesAdded = true) :
    ∃ action : HealthAction, (action.ofCallback = true ∨ action = .countOverflow) ∧
      ((healthMachine calendar).step action monitored).isSome := by
  cases here : monitored.health.update.remaining with
  | nil =>
    have begins : (healthMachine calendar).step .repeatedCallback monitored = some (_, _) :=
      if_pos (by simp [registered, here])
    exact ⟨.repeatedCallback, .inl rfl, Option.isSome_of_eq_some begins⟩
  | cons access rest =>
    by_cases blocked : monitored.overflowing = true
    · have counts : (healthMachine calendar).step .countOverflow monitored = some (_, _) := if_pos blocked
      exact ⟨.countOverflow, .inr rfl, Option.isSome_of_eq_some counts⟩
    · refine ⟨.access, .inl rfl, ?_⟩
      simp only [healthMachine, here, Bool.eq_false_iff.mpr blocked, Bool.false_and, Bool.false_eq_true, if_false,
        Option.isSome_some]

end Doom

/-- Once there is a fundamental error, the callback needs one call of its own to show it and
to be removed, whatever the threads of the client do. It waits only for a caller that
holds the queue lock, who can always go on. -/
theorem fundamental_error_ends_monitoring {calendar : Calendar} {config : InfluxConfig}
    {earlier moves : List HealthMove} {monitored last : Monitored} (run : HealthRun calendar config earlier monitored)
    (rest : (healthMachine calendar).Run monitored moves last)
    (positive : 1 ≤ config.writeBatching.maxBatchPoints) (registered : monitored.health.healthNodesAdded = true)
    (idle : monitored.health.update.remaining = []) (latched : monitored.fundamentalErrorOccurred = true)
    (up : ∀ move ∈ moves, move.action ≠ .removeHealthNodesCallback) :
    let steps := moves.countP fun move => move.action.ofCallback
    steps ≤ updateInfluxHealth.length + 1 ∧
      (steps = updateInfluxHealth.length + 1 → last.health.update.nodes.fundamentalError = true ∧
        last.health.healthNodesAdded = false ∧ last.health.update.remaining = []) ∧
      (steps < updateInfluxHealth.length + 1 → ∃ action, (action.ofCallback = true ∨ action = .countOverflow) ∧
        ((healthMachine calendar).step action last).isSome) := by
  have doomed : Doomed calendar config monitored :=
    ⟨HealthRun.attended run positive, latched, .inl ⟨registered, fun _ more => absurd idle more⟩⟩
  obtain ⟨still, count⟩ : Doomed calendar config last ∧
      last.health.callsLeft + (moves.countP fun move => move.action.ofCallback) = updateInfluxHealth.length + 1 := by
    refine rest.invariant (fun moves last => (∀ move ∈ moves, move.action ≠ .removeHealthNodesCallback) →
      Doomed calendar config last ∧
        last.health.callsLeft + (moves.countP fun move => move.action.ofCallback) = updateInfluxHealth.length + 1)
      (fun _ => ⟨doomed, by simp [HealthMonitoring.callsLeft, idle, registered]⟩) ?_ up
    intro moves before action event after ih moved up
    obtain ⟨held, count⟩ := ih fun move member => up move (List.mem_append_left _ member)
    obtain ⟨next, spent⟩ := held.step positive (up ⟨before, action, event⟩ (by simp)) moved
    refine ⟨next, ?_⟩
    rw [List.countP_append]
    cases own : action.ofCallback <;> simp [own] at spent ⊢ <;> omega
  intro steps
  refine ⟨Nat.le_of_add_left_le (Nat.le_of_eq count), fun all => ?_, fun few => ?_⟩
  · rcases still.seen with ⟨added, -⟩ | ⟨gone, shown⟩
    · have := callsLeft_pos added
      omega
    · exact ⟨shown, gone.removed, gone.idle⟩
  · rcases still.seen with ⟨added, -⟩ | ⟨gone, -⟩
    · exact last.next_of_registered added
    · rw [gone.callsLeft] at count
      omega

/-- After the denied write, one call of the callback shows the error and removes the callback. -/
theorem denied_write_ends_monitoring : ∃ earlier moves monitored last, HealthRun demoCalendar demoConfig earlier monitored ∧
    (healthMachine demoCalendar).Run monitored moves last ∧ monitored.health.update.nodes.fundamentalError = false ∧
      last.health.update.nodes.fundamentalError = true ∧ last.health.healthNodesAdded = false := by
  have second : ((healthMachine demoCalendar).exec (.repeatedCallback :: List.replicate 24 .access) demoDenialRun.2).map
      (fun run => (run.1.countP fun move => move.action.ofCallback, run.1.all fun move =>
        match move.action with
        | .removeHealthNodesCallback => false
        | _ => true)) = some (25, true) := by decide +kernel
  obtain ⟨moves, last, rest, seen⟩ := Machine.exec_reaches second
  obtain ⟨steps, up⟩ := Prod.mk.inj seen
  have ends := fundamental_error_ends_monitoring demoDenialRun_run rest (by decide) (by decide +kernel) (by decide +kernel)
    (by decide +kernel) fun move member same => by
      have allowed := List.all_eq_true.mp up move member
      rw [same] at allowed
      cases allowed
  have shown := ends.2.1 steps
  exact ⟨demoDenialRun.1, moves, demoDenialRun.2, last, demoDenialRun_run, rest, by decide +kernel, shown.1, shown.2.1⟩

end OpcUaAdapter
