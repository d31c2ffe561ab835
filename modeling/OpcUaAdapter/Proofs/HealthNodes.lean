import Mathlib.Data.List.Infix
import OpcUaAdapter.Proofs.HealthSteps

/-! What the health variables say. A value is read before it is written and each is read at
its own time, so only what later states of the client cannot take back holds of several
of them together. The order in which they are read decides which relations survive. -/

namespace OpcUaAdapter

/-- The first access comes before the second in each call of `updateInfluxHealth`. -/
def Precedes (first second : HealthAccess) : Prop :=
  (∀ rest, first :: rest <:+ updateInfluxHealth → second ∈ rest) ∧
    ∀ rest, second :: rest <:+ updateInfluxHealth → first ∉ rest

/-- Checked on the rest of the call after each of its accesses. -/
def HealthAccess.orders (first second : HealthAccess) : Bool :=
  updateInfluxHealth.tails.all fun suffix =>
    match suffix with
    | [] => true
    | access :: rest => (access ≠ first || rest.contains second) && (access ≠ second || !rest.contains first)

theorem precedes_of_orders {first second : HealthAccess} (ordered : first.orders second = true) :
    Precedes first second := by
  have checked (access : HealthAccess) (rest : List HealthAccess) (suffix : access :: rest <:+ updateInfluxHealth) :
      (access ≠ first ∨ second ∈ rest) ∧ (access ≠ second ∨ first ∉ rest) := by
    simpa using List.all_eq_true.mp ordered _ ((List.mem_tails _ _).mpr suffix)
  refine ⟨fun rest suffix => ?_, fun rest suffix => ?_⟩
  · exact (checked first rest suffix).1.resolve_left (fun other => other rfl)
  · exact (checked second rest suffix).2.resolve_left (fun other => other rfl)

private theorem load_precedes_write (counter : HealthCounter) :
    Precedes (.load counter) (.writeUInt64Node counter) := by
  apply precedes_of_orders
  cases counter <;> decide

/-- Each access of a call is made once it has begun. -/
theorem mem_start (update : HealthUpdate) (access : HealthAccess) : access ∈ update.start.remaining := by
  change access ∈ updateInfluxHealth
  cases access with
  | load counter | writeUInt64Node counter => cases counter <;> decide
  | _ => decide

theorem not_mem_before {access other : HealthAccess} {rest : List HealthAccess} (differs : other ≠ access)
    (absent : other ∉ rest) : other ∉ access :: rest :=
  List.not_mem_cons_of_ne_of_not_mem differs absent

theorem HealthUpdate.run_remaining (update : HealthUpdate) (client : InfluxClient) (access : HealthAccess) :
    (update.run client access).remaining = update.remaining := by
  cases access <;> rfl

theorem Overseen.seen_le {calendar : Calendar} {config : InfluxConfig} {monitored : Monitored}
    (overseen : Overseen calendar config monitored) : CountersGrow monitored.seen monitored.system.client :=
  .of_totals (Nat.sub_le _ _) le_rfl le_rfl le_rfl le_rfl overseen.lag.retries overseen.lag.flag

/-- What holds of the client whenever the monitoring reads from it. -/
structure Readable (config : InfluxConfig) (client : InfluxClient) : Prop where
  queued : client.writeQueue.length ≤ config.writeBatching.maxQueuePoints
  dropped : client.queuedPointsDropped ≤ client.pointsDropped
  written : client.pointsWritten ≤ config.writeBatching.maxBatchPoints * client.batchesWritten
  retried : (config.maxAttempts - 1) * client.batchWriteFailures ≤ client.retryAttempts

theorem Overseen.readable {calendar : Calendar} {config : InfluxConfig} {monitored : Monitored}
    (overseen : Overseen calendar config monitored) (positive : 1 ≤ config.writeBatching.maxBatchPoints) :
    Readable config monitored.seen := by
  obtain ⟨⟨moves, reached⟩, lag⟩ := overseen
  have capacity := reached.capacity positive
  obtain ⟨dropped, written, -⟩ := WriteRun.proportions reached positive
  refine ⟨capacity.queue, ?_, Nat.le_of_add_right_le written, lag.failures⟩
  exact Nat.le_trans (Nat.sub_le _ _) (Nat.le.intro dropped)

section Rule

variable {calendar : Calendar} {config : InfluxConfig} {moves : List HealthMove} {monitored : Monitored}

/-- The rule for a property of the nodes and the call in progress: the client may grow at any
time, a call may begin, and the next access may be made. -/
structure Maintained (config : InfluxConfig) (property : HealthUpdate → InfluxClient → Prop) : Prop where
  initial : ∀ client, property {} client
  grows : ∀ {update before after}, property update before → CountersGrow before after → Readable config after →
    property update after
  begins : ∀ {update client}, property update client → property update.start client
  access : ∀ {update : HealthUpdate} {client access rest}, property { update with remaining := access :: rest } client →
    Readable config client → access :: rest <:+ updateInfluxHealth →
    property ({ update with remaining := rest }.run client access) client

/-- What a step does to the nodes and the call in progress. -/
theorem HealthStep.updates {after : Monitored} {action : HealthAction} {event : HealthEvent}
    (step : HealthStep calendar monitored action event after) :
    after.health.update = monitored.health.update ∨
      after.health.update = monitored.health.update.start ∧ after.seen = monitored.seen ∨
      ∃ access rest, monitored.health.update.remaining = access :: rest ∧ after.seen = monitored.seen ∧
        after.health.update = { monitored.health.update with remaining := rest }.run monitored.seen access := by
  cases step with
  | client moved =>
    obtain ⟨_, _, -, -, -, rfl⟩ := Monitored.clientStep_some moved
    exact .inl rfl
  | stores => exact .inl (congrArg HealthMonitoring.update monitored.store_health)
  | counted | declined | registers | removes => exact .inl rfl
  | adds | repeats => exact .inr (.inl ⟨rfl, rfl⟩)
  | accesses access rest next =>
    refine .inr (.inr ⟨access, rest, next, rfl, ?_⟩)
    dsimp only [HealthMonitoring.access]
    split <;> rfl

/-- The call in progress is at one of its accesses. -/
structure Supervised (calendar : Calendar) (config : InfluxConfig) (property : HealthUpdate → InfluxClient → Prop)
    (monitored : Monitored) : Prop where
  overseen : Overseen calendar config monitored
  inside : monitored.health.update.remaining <:+ updateInfluxHealth
  kept : property monitored.health.update monitored.seen

theorem Maintained.step {property : HealthUpdate → InfluxClient → Prop} (maintained : Maintained config property)
    (positive : 1 ≤ config.writeBatching.maxBatchPoints) {after : Monitored} {action : HealthAction}
    {event : HealthEvent} (supervised : Supervised calendar config property monitored)
    (moved : (healthMachine calendar).step action monitored = some (event, after)) :
    Supervised calendar config property after ∧ CountersGrow monitored.seen after.seen := by
  obtain ⟨overseen, inside, kept⟩ := supervised
  have step := healthMachine_step moved
  obtain ⟨still, grows⟩ := step.overseen positive overseen
  refine ⟨⟨still, ?_, ?_⟩, grows⟩
  · rcases step.updates with same | ⟨same, -⟩ | ⟨access, rest, next, -, same⟩
    · rw [same]
      exact inside
    · rw [same]
      exact List.suffix_refl _
    · rw [same, HealthUpdate.run_remaining]
      rw [next] at inside
      exact (List.suffix_cons access rest).trans inside
  · rcases step.updates with same | ⟨same, seen⟩ | ⟨access, rest, next, seen, same⟩
    · rw [same]
      exact maintained.grows kept grows (still.readable positive)
    · rw [same, seen]
      exact maintained.begins kept
    · rw [same, seen]
      refine maintained.access ?_ (overseen.readable positive) (next ▸ inside)
      rw [← next]
      exact kept

theorem Maintained.run {property : HealthUpdate → InfluxClient → Prop} (maintained : Maintained config property)
    (positive : 1 ≤ config.writeBatching.maxBatchPoints) (run : HealthRun calendar config moves monitored) :
    Supervised calendar config property monitored := by
  refine run.invariant (fun _ monitored => Supervised calendar config property monitored) ?_ ?_
  · exact ⟨.initial calendar config, List.nil_suffix, maintained.initial _⟩
  · exact fun _ _ _ _ _ kept moved => (maintained.step positive kept moved).1

end Rule

/-- What the nodes and the local variables have to do with the totals of the client. -/
structure Shows (update : HealthUpdate) (client : InfluxClient) : Prop where
  shown : ∀ counter : HealthCounter, counter.cumulative = true →
    update.nodes.counters counter ≤ client.getWriteStats.counter counter
  loaded : ∀ counter : HealthCounter, counter.cumulative = true → .load counter ∉ update.remaining →
    update.nodes.counters counter ≤ update.locals.stats counter ∧
      update.locals.stats counter ≤ client.getWriteStats.counter counter
  written : ∀ counter, .writeUInt64Node counter ∉ update.remaining →
    update.nodes.counters counter = update.locals.stats counter

theorem Shows.access {update : HealthUpdate} {client : InfluxClient} {access : HealthAccess}
    {rest : List HealthAccess} (shows : Shows { update with remaining := access :: rest } client)
    (inside : access :: rest <:+ updateInfluxHealth) :
    Shows ({ update with remaining := rest }.run client access) client := by
  obtain ⟨shown, loaded, written⟩ := shows
  cases access with
  | load read =>
    refine ⟨shown, fun counter total absent => ?_, fun counter absent => ?_⟩
    · by_cases same : counter = read
      · subst same
        simp only [HealthUpdate.run, Function.update_self]
        exact ⟨shown counter total, le_rfl⟩
      · simp only [HealthUpdate.run, Function.update_of_ne same]
        exact loaded counter total (not_mem_before (by simpa using same) absent)
    · have other : counter ≠ read := by
        intro same
        exact absent (same ▸ (load_precedes_write read).1 rest inside)
      simp only [HealthUpdate.run, Function.update_of_ne other]
      exact written counter (not_mem_before (by simp) absent)
  | writeUInt64Node write =>
    have read : .load write ∉ HealthAccess.writeUInt64Node write :: rest :=
      not_mem_before (by simp) ((load_precedes_write write).2 rest inside)
    refine ⟨fun counter total => ?_, fun counter total absent => ?_, fun counter absent => ?_⟩
    · by_cases same : counter = write
      · subst same
        simp only [HealthUpdate.run, Function.update_self]
        exact (loaded counter total read).2
      · simp only [HealthUpdate.run, Function.update_of_ne same]
        exact shown counter total
    · by_cases same : counter = write
      · subst same
        simp only [HealthUpdate.run, Function.update_self]
        exact ⟨le_rfl, (loaded counter total read).2⟩
      · simp only [HealthUpdate.run, Function.update_of_ne same]
        exact loaded counter total (not_mem_before (by simp) absent)
    · by_cases same : counter = write
      · subst same
        simp only [HealthUpdate.run, Function.update_self]
      · simp only [HealthUpdate.run, Function.update_of_ne same]
        exact written counter (not_mem_before (by simpa using same) absent)
  | loadFundamentalError | hasFundamentalError | writeFundamentalError | hasAsyncWriteError | writeAsyncErrorActive
  | getLastAsyncWriteError | writeAsyncError | finish =>
    exact ⟨shown, fun counter total absent => loaded counter total (not_mem_before (by simp) absent),
      fun counter absent => written counter (not_mem_before (by simp) absent)⟩

theorem Shows.maintained (config : InfluxConfig) : Maintained config Shows where
  initial _ := ⟨fun _ _ => Nat.zero_le _, fun _ _ _ => ⟨le_rfl, Nat.zero_le _⟩, fun _ _ => rfl⟩
  grows shows grows _ :=
    ⟨fun counter total => Nat.le_trans (shows.shown counter total) (grows.counters counter total),
      fun counter total absent => ⟨(shows.loaded counter total absent).1,
        Nat.le_trans (shows.loaded counter total absent).2 (grows.counters counter total)⟩,
      shows.written⟩
  begins shows :=
    ⟨shows.shown, fun _ _ absent => absurd (mem_start _ _) absent, fun _ absent => absurd (mem_start _ _) absent⟩
  access shows _ inside := shows.access inside

theorem Shows.nodes_grow {update : HealthUpdate} {client : InfluxClient} {access : HealthAccess}
    {rest : List HealthAccess} (shows : Shows { update with remaining := access :: rest } client)
    (inside : access :: rest <:+ updateInfluxHealth) {counter : HealthCounter} (total : counter.cumulative = true) :
    update.nodes.counters counter ≤
      ({ update with remaining := rest }.run client access).nodes.counters counter := by
  cases access with
  | writeUInt64Node write =>
    by_cases same : counter = write
    · subst same
      have read : .load counter ∉ HealthAccess.writeUInt64Node counter :: rest :=
        not_mem_before (by simp) ((load_precedes_write counter).2 rest inside)
      simp only [HealthUpdate.run, Function.update_self]
      exact (shows.loaded counter total read).1
    · simp only [HealthUpdate.run, Function.update_of_ne same]
      exact le_rfl
  | _ => exact le_rfl

private theorem HealthRun.nodes_grow {calendar : Calendar} {config : InfluxConfig} {earlier moves : List HealthMove}
    {monitored last : Monitored} (run : HealthRun calendar config earlier monitored)
    (rest : (healthMachine calendar).Run monitored moves last)
    (positive : 1 ≤ config.writeBatching.maxBatchPoints) {counter : HealthCounter} (total : counter.cumulative = true) :
    monitored.health.update.nodes.counters counter ≤ last.health.update.nodes.counters counter := by
  have maintained := Shows.maintained config
  refine (rest.invariant (fun _ last => Supervised calendar config Shows last ∧
    monitored.health.update.nodes.counters counter ≤ last.health.update.nodes.counters counter)
    ⟨maintained.run positive run, le_rfl⟩ ?_).2
  rintro _ before _ _ after ⟨supervised, grown⟩ moved
  refine ⟨(maintained.step positive supervised moved).1, Nat.le_trans grown ?_⟩
  rcases (healthMachine_step moved).updates with same | ⟨same, -⟩ | ⟨access, rest, next, -, same⟩
  · rw [same]
  · rw [same]
    exact le_rfl
  · rw [same]
    have shows := supervised.kept
    rw [show before.health.update = { before.health.update with remaining := access :: rest } by rw [← next]] at shows
    exact shows.nodes_grow (next ▸ supervised.inside) total

/-- A relation between two counters of the client, as the call in progress has read them. -/
structure Compared (first second : HealthCounter) (related : Nat → Nat → Prop) (update : HealthUpdate)
    (client : InfluxClient) : Prop where
  halfway : .load first ∉ update.remaining → related (update.locals.stats first) (client.getWriteStats.counter second)
  whole : .load second ∉ update.remaining → related (update.locals.stats first) (update.locals.stats second)

/-- A relation that the client always has and that a larger second counter keeps is read,
whatever happens in between, when the first counter is read before the second. -/
theorem Compared.maintained {config : InfluxConfig} {first second : HealthCounter} {related : Nat → Nat → Prop}
    (ordered : Precedes (.load first) (.load second)) (distinct : first ≠ second) (total : second.cumulative = true)
    (upward : ∀ {value smaller larger}, related value smaller → smaller ≤ larger → related value larger)
    (zero : ∀ value, related 0 value)
    (always : ∀ {client}, Readable config client →
      related (client.getWriteStats.counter first) (client.getWriteStats.counter second)) :
    Maintained config (Compared first second related) where
  initial _ := ⟨fun _ => zero _, fun _ => zero _⟩
  grows compared grows _ :=
    ⟨fun absent => upward (compared.halfway absent) (grows.counters second total), compared.whole⟩
  begins _ := ⟨fun absent => absurd (mem_start _ _) absent, fun absent => absurd (mem_start _ _) absent⟩
  access := by
    intro update _ access rest compared readable inside
    obtain ⟨halfway, whole⟩ := compared
    cases access with
    | load read =>
      by_cases one : first = read
      · subst one
        refine ⟨fun _ => ?_, fun absent => absurd (ordered.1 rest inside) absent⟩
        simp only [HealthUpdate.run, Function.update_self]
        exact always readable
      · by_cases two : second = read
        · subst two
          have before : .load first ∉ HealthAccess.load second :: rest :=
            not_mem_before (by simpa using one) (ordered.2 rest inside)
          refine ⟨fun _ => ?_, fun _ => ?_⟩
          · simp only [HealthUpdate.run, Function.update_of_ne distinct]
            exact halfway before
          · simp only [HealthUpdate.run, Function.update_of_ne distinct, Function.update_self]
            exact halfway before
        · refine ⟨fun absent => ?_, fun absent => ?_⟩
          · simp only [HealthUpdate.run, Function.update_of_ne one]
            exact halfway (not_mem_before (by simpa using one) absent)
          · simp only [HealthUpdate.run, Function.update_of_ne one, Function.update_of_ne two]
            exact whole (not_mem_before (by simpa using two) absent)
    | writeUInt64Node | loadFundamentalError | hasFundamentalError | writeFundamentalError | hasAsyncWriteError
    | writeAsyncErrorActive | getLastAsyncWriteError | writeAsyncError | finish =>
      exact ⟨fun absent => halfway (not_mem_before (by simp) absent),
        fun absent => whole (not_mem_before (by simp) absent)⟩

private theorem drops_maintained (config : InfluxConfig) :
    Maintained config (Compared .queuedPointsDropped .pointsDropped fun queued all => queued ≤ all) :=
  Compared.maintained (precedes_of_orders (by decide)) (by decide) rfl Nat.le_trans Nat.zero_le Readable.dropped

private theorem writes_maintained (config : InfluxConfig) : Maintained config (Compared .pointsWritten .batchesWritten
    fun points batches => points ≤ config.writeBatching.maxBatchPoints * batches) :=
  Compared.maintained (precedes_of_orders (by decide)) (by decide) rfl
    (fun bound more => Nat.le_trans bound (Nat.mul_le_mul_left _ more)) (fun _ => Nat.zero_le _) Readable.written

private theorem failures_maintained (config : InfluxConfig) : Maintained config (Compared .batchWriteFailures .retryAttempts
    fun failures retries => (config.maxAttempts - 1) * failures ≤ retries) :=
  Compared.maintained (precedes_of_orders (by decide)) (by decide) rfl Nat.le_trans (fun _ => Nat.zero_le _)
    Readable.retried

/-- The queue was never longer than it may be. -/
def ReadsQueue (config : InfluxConfig) (update : HealthUpdate) (_ : InfluxClient) : Prop :=
  update.locals.stats .queuedPoints ≤ config.writeBatching.maxQueuePoints

theorem ReadsQueue.maintained (config : InfluxConfig) : Maintained config (ReadsQueue config) where
  initial _ := Nat.zero_le _
  grows reads _ _ := reads
  begins _ := Nat.zero_le _
  access := by
    intro update client access rest reads readable _
    cases access with
    | load read =>
      by_cases same : .queuedPoints = read
      · subst same
        simp only [ReadsQueue, HealthUpdate.run, Function.update_self]
        exact readable.queued
      · simp only [ReadsQueue, HealthUpdate.run, Function.update_of_ne same]
        exact reads
    | _ => exact reads

/-- The text of the error goes with the sign that there is one. -/
structure ShowsError (update : HealthUpdate) (_ : InfluxClient) : Prop where
  chosen : .getLastAsyncWriteError ∉ update.remaining → update.locals.error ≠ [] → update.locals.hasError = true
  active : .writeAsyncErrorActive ∉ update.remaining → update.nodes.asyncErrorActive = update.locals.hasError
  text : .writeAsyncError ∉ update.remaining → update.nodes.lastAsyncError = update.locals.error

theorem ShowsError.maintained (config : InfluxConfig) : Maintained config ShowsError where
  initial _ := ⟨fun _ error => absurd rfl error, fun _ => rfl, fun _ => rfl⟩
  grows shows _ _ := ⟨shows.chosen, shows.active, shows.text⟩
  begins _ := ⟨fun absent => absurd (mem_start _ _) absent, fun absent => absurd (mem_start _ _) absent,
    fun absent => absurd (mem_start _ _) absent⟩
  access := by
    intro update client access rest shows _ inside
    obtain ⟨chosen, active, text⟩ := shows
    have later {second : HealthAccess} (ordered : access.orders second = true) : second ∈ rest :=
      (precedes_of_orders ordered).1 rest inside
    cases access with
    | hasAsyncWriteError =>
      exact ⟨fun absent => absurd (later (by decide)) absent, fun absent => absurd (later (by decide)) absent,
        fun absent => text (not_mem_before (by simp) absent)⟩
    | writeAsyncErrorActive =>
      exact ⟨fun absent => chosen (not_mem_before (by simp) absent), fun _ => rfl,
        fun absent => text (not_mem_before (by simp) absent)⟩
    | getLastAsyncWriteError =>
      refine ⟨fun _ error => ?_, fun absent => active (not_mem_before (by simp) absent),
        fun absent => absurd (later (by decide)) absent⟩
      have found : update.locals.hasError = true ∧ client.lastAsyncWriteError ≠ [] := by
        simpa [HealthUpdate.run] using error
      exact found.1
    | writeAsyncError =>
      exact ⟨fun absent => chosen (not_mem_before (by simp) absent),
        fun absent => active (not_mem_before (by simp) absent), fun _ => rfl⟩
    | load | loadFundamentalError | writeUInt64Node | hasFundamentalError | writeFundamentalError | finish =>
      exact ⟨fun absent => chosen (not_mem_before (by simp) absent),
        fun absent => active (not_mem_before (by simp) absent),
        fun absent => text (not_mem_before (by simp) absent)⟩

section Values

variable {calendar : Calendar} {config : InfluxConfig} {moves : List HealthMove} {monitored : Monitored}

theorem HealthRun.compared (run : HealthRun calendar config moves monitored)
    (positive : 1 ≤ config.writeBatching.maxBatchPoints) {first second : HealthCounter} {related : Nat → Nat → Prop}
    (maintained : Maintained config (Compared first second related)) (idle : monitored.health.update.remaining = []) :
    related (monitored.health.update.nodes.counters first) (monitored.health.update.nodes.counters second) := by
  have shows := ((Shows.maintained config).run positive run).kept
  have compared := (maintained.run positive run).kept
  rw [shows.written first (by simp [idle]), shows.written second (by simp [idle])]
  exact compared.whole (by simp [idle])

end Values

/-- Whatever the interleaving with the threads of the client, the totals shown never go
back and never run ahead of the client. Between two calls the nodes fit together: no
drop from the queue is shown without a drop, no points without their batches, no failure
without its retries, no queue that is too long and no error text without the error. -/
theorem health_nodes_fit_together {calendar : Calendar} {config : InfluxConfig} {earlier moves : List HealthMove}
    {monitored last : Monitored} (run : HealthRun calendar config earlier monitored)
    (rest : (healthMachine calendar).Run monitored moves last)
    (positive : 1 ≤ config.writeBatching.maxBatchPoints) :
    (∀ counter : HealthCounter, counter.cumulative = true →
      monitored.health.update.nodes.counters counter ≤ last.health.update.nodes.counters counter ∧
        last.health.update.nodes.counters counter ≤ last.system.client.getWriteStats.counter counter) ∧
      (monitored.health.update.remaining = [] →
        let nodes := monitored.health.update.nodes
        nodes.counters .queuedPoints ≤ config.writeBatching.maxQueuePoints ∧
          nodes.counters .queuedPointsDropped ≤ nodes.counters .pointsDropped ∧
          nodes.counters .pointsWritten ≤ config.writeBatching.maxBatchPoints * nodes.counters .batchesWritten ∧
          (config.maxAttempts - 1) * nodes.counters .batchWriteFailures ≤ nodes.counters .retryAttempts ∧
          (nodes.lastAsyncError ≠ [] → nodes.asyncErrorActive = true)) := by
  have shows := ((Shows.maintained config).run positive run).kept
  refine ⟨fun counter total => ⟨HealthRun.nodes_grow run rest positive total, ?_⟩,
    fun idle => ⟨?_, ?_, ?_, ?_, fun error => ?_⟩⟩
  · have later := (Shows.maintained config).run positive (Machine.Run.trans run rest)
    exact Nat.le_trans (later.kept.shown counter total) (later.overseen.seen_le.counters counter total)
  · rw [shows.written .queuedPoints (by simp [idle])]
    exact ((ReadsQueue.maintained config).run positive run).kept
  · exact HealthRun.compared run positive (drops_maintained config) idle
  · exact HealthRun.compared run positive (writes_maintained config) idle
  · exact HealthRun.compared run positive (failures_maintained config) idle
  · have said := ((ShowsError.maintained config).run positive run).kept
    rw [said.text (by simp [idle])] at error
    rw [said.active (by simp [idle])]
    exact said.chosen (by simp [idle]) error

/-- A batch is acknowledged between the reading of the points and that of the batches, and its
points are counted before the call is over. -/
theorem nodes_fit_together_amid_a_batch : ∃ earlier monitored, HealthRun demoCalendar demoConfig earlier monitored ∧
    monitored.health.update.nodes.counters .batchesWritten = 1 ∧
    monitored.health.update.nodes.counters .pointsWritten < monitored.system.client.pointsWritten ∧
    monitored.health.update.nodes.counters .pointsWritten ≤
      demoConfig.writeBatching.maxBatchPoints * monitored.health.update.nodes.counters .batchesWritten := by
  have computed : ((healthMachine demoCalendar).exec
      ((demoWrite "a" ++ demoTake).map .client ++ .addHealthMonitoringNodes none (fun _ => true) ::
        List.replicate 3 .access ++ demoSucceed.map .client ++ List.replicate 21 .access)
      (Monitored.initial demoConfig)).map (fun run =>
        (run.2.health.update.remaining, run.2.health.update.nodes.counters .batchesWritten,
          run.2.health.update.nodes.counters .pointsWritten, run.2.system.client.pointsWritten)) =
      some ([], 1, 0, 1) := by decide +kernel
  obtain ⟨earlier, monitored, run, seen⟩ := Machine.exec_reaches computed
  simp only [Prod.mk.injEq] at seen
  obtain ⟨idle, batches, points, written⟩ := seen
  have fits := (health_nodes_fit_together run .start (by decide)).2 idle
  exact ⟨earlier, monitored, run, batches, by omega, fits.2.2.1⟩

end OpcUaAdapter
