import OpcUaAdapter.Proofs.WriteHistory

/-! How many points the queue and a batch hold. A batch is never larger than the queue
it came from, so a batch that no longer fits leaves other points queued behind it. -/

namespace OpcUaAdapter

namespace ConfigLoader

private theorem parseSizeValue_ge (value : Text) {defaultValue minValue : Nat} (default : minValue ≤ defaultValue) :
    minValue ≤ parseSizeValue value defaultValue minValue := by
  unfold parseSizeValue
  split
  · exact default
  · split
    · split <;> omega
    · exact default

private theorem parseWriteBatching_positive (root : XmlNode) :
    1 ≤ (parseWriteBatching root).maxBatchPoints ∧ 1 ≤ (parseWriteBatching root).maxQueuePoints := by
  unfold parseWriteBatching
  split
  · decide
  · exact ⟨parseSizeValue_ge _ (by decide), parseSizeValue_ge _ (by decide)⟩

/-- Whatever the file says, a loaded configuration has positive batch and queue sizes. -/
theorem loadFromXmlFile_positive {path : Text} {document : Option (Option XmlNode)} {config : InfluxConfig}
    (loaded : loadFromXmlFile path document = .ok config) :
    1 ≤ config.writeBatching.maxBatchPoints ∧ 1 ≤ config.writeBatching.maxQueuePoints := by
  unfold loadFromXmlFile at loaded
  split at loaded
  · cases loaded
  · cases loaded
  next root =>
    split at loaded
    · simp only [bind, Except.bind, pure, Except.pure] at loaded
      repeat' split at loaded
      all_goals cases loaded
      exact parseWriteBatching_positive root
    · cases loaded

end ConfigLoader

/-- Holds in every reachable state when the configured sizes are positive. -/
structure Capacity (config : InfluxConfig) (system : System) : Prop where
  unchanged : system.client.config = config
  queue : system.client.writeQueue.length ≤ config.writeBatching.maxQueuePoints
  collecting : system.worker = .collecting → system.client.writeQueue ≠ []
  nonempty : ∀ batch phase, system.worker = .busy batch phase → batch ≠ []
  batch : ∀ batch phase, system.worker = .busy batch phase →
    batch.length ≤ min config.writeBatching.maxBatchPoints config.writeBatching.maxQueuePoints

theorem Capacity.initial (config : InfluxConfig) : Capacity config (System.initial config) := by
  have worker : (System.initial config).worker = .looping ∨ (System.initial config).worker = .exited := by
    simp only [System.initial]
    split
    · exact .inl rfl
    · exact .inr rfl
  refine ⟨rfl, Nat.zero_le _, ?_, ?_, ?_⟩
  all_goals rcases worker with same | same <;> simp [same]

theorem SystemStep.capacity {config : InfluxConfig} (positive : 1 ≤ config.writeBatching.maxBatchPoints)
    {system after : System} {action : Action} {event : Event} (step : SystemStep system action event after)
    (kept : Capacity config system) : Capacity config after := by
  obtain ⟨same, queue, collecting, nonempty, batch⟩ := kept
  cases step with
  | refused => exact ⟨same, queue, collecting, nonempty, batch⟩
  | entered | overflowed | read | cleared | stopped => exact ⟨same, queue, collecting, nonempty, batch⟩
  | accepted found room =>
    refine ⟨same, ?_, ?_, nonempty, batch⟩
    · rw [same] at room
      simp only [List.length_append, List.length_singleton]
      omega
    · simp
  | left | waits | finishes | drops here | discarded here | counted here | repaired | forgotten =>
    refine ⟨same, queue, by simp, ?_, ?_⟩
    all_goals simp
    all_goals first | exact nonempty _ _ here | simpa using batch _ _ here
  | collects here running pending =>
    exact ⟨same, queue, fun _ => pending, by simp, by simp⟩
  | acknowledged here | retries here | failed here | reported here =>
    refine ⟨same, queue, by simp, ?_, ?_⟩
    all_goals simp
    · exact nonempty _ _ here
    · simpa using batch _ _ here
  | requeued here running room =>
    refine ⟨same, ?_, by simp, by simp, by simp⟩
    rw [same] at room
    simpa [Nat.add_comm] using room
  | takes count size idle =>
    have pending : system.client.writeQueue ≠ [] := by
      rcases idle with ⟨_, pending⟩ | here
      · exact pending
      · exact collecting here
    have some : 0 < system.client.writeQueue.length := List.length_pos_iff.mpr pending
    rw [same] at size
    refine ⟨same, ?_, by simp, ?_, ?_⟩
    · simp only [List.length_drop]
      omega
    · intro batch phase busy empty
      cases busy
      have none : (system.client.writeQueue.take count).length = 0 := by simp [empty]
      rw [List.length_take] at none
      omega
    · intro batch phase busy
      cases busy
      rw [List.length_take]
      omega

theorem WriteRun.capacity {calendar : Calendar} {config : InfluxConfig} {moves : List WriteMove} {system : System}
    (run : WriteRun calendar config moves system) (positive : 1 ≤ config.writeBatching.maxBatchPoints) :
    Capacity config system :=
  run.invariant (fun _ system => Capacity config system) (Capacity.initial config)
    (fun _ _ _ _ _ kept moved => (writeMachine_step moved).capacity positive kept)

def Event.takenBatch : Event → Option (List PendingWritePoint)
  | .taken batch => some batch
  | _ => none

def takenBatches (moves : List WriteMove) : List (List PendingWritePoint) :=
  moves.filterMap fun move => move.event.takenBatch

theorem takenBatches_append (moves : List WriteMove) (move : WriteMove) :
    takenBatches (moves ++ [move]) = takenBatches moves ++ move.event.takenBatch.toList := by
  unfold takenBatches
  rw [List.filterMap_append]
  cases taken : move.event.takenBatch <;> simp [taken]

private theorem SystemStep.taken_busy {system after : System} {action : Action} {event : Event}
    {batch : List PendingWritePoint} (step : SystemStep system action event after)
    (taken : event.takenBatch = some batch) : after.worker = .busy batch (.sending (batchPayload system.client.config batch) 1 []) := by
  cases step with
  | takes => cases taken; rfl
  | _ => cases taken

private theorem batchPayload_ne_nil (config : InfluxConfig) {batch : List PendingWritePoint} (nonempty : batch ≠ []) :
    batchPayload config batch ≠ [] := by
  cases batch with
  | nil => exact absurd rfl nonempty
  | cons point rest =>
    intro empty
    have line := (List.append_eq_nil_iff.mp (List.append_eq_nil_iff.mp empty).1).1
    simp [PendingWritePoint.line, buildLineProtocol] at line

/-- A loaded configuration has positive sizes, and with positive sizes neither the queue
nor a batch ever exceeds them, and no batch is empty. -/
theorem queue_and_batches_bounded :
    (∀ path document config, ConfigLoader.loadFromXmlFile path document = .ok config →
      1 ≤ config.writeBatching.maxBatchPoints ∧ 1 ≤ config.writeBatching.maxQueuePoints) ∧
    ∀ calendar config moves system, 1 ≤ config.writeBatching.maxBatchPoints →
      1 ≤ config.writeBatching.maxQueuePoints → WriteRun calendar config moves system →
      system.client.writeQueue.length ≤ config.writeBatching.maxQueuePoints ∧
        ∀ batch ∈ takenBatches moves, 1 ≤ batch.length ∧
          batch.length ≤ min config.writeBatching.maxBatchPoints config.writeBatching.maxQueuePoints ∧
          batchPayload config batch ≠ [] := by
  refine ⟨fun _ _ _ => ConfigLoader.loadFromXmlFile_positive, ?_⟩
  intro calendar config moves system positive _ run
  refine ⟨(run.capacity positive).queue, ?_⟩
  refine (run.invariant (fun moves system => Capacity config system ∧ ∀ batch ∈ takenBatches moves,
    1 ≤ batch.length ∧ batch.length ≤ min config.writeBatching.maxBatchPoints config.writeBatching.maxQueuePoints ∧
      batchPayload config batch ≠ []) ⟨Capacity.initial config, by simp [takenBatches]⟩ ?_).2
  rintro moves before action event after ⟨kept, bounded⟩ moved
  have step := writeMachine_step moved
  have capacity := step.capacity positive kept
  refine ⟨capacity, fun batch member => ?_⟩
  rw [takenBatches_append, List.mem_append] at member
  rcases member with earlier | now
  · exact bounded batch earlier
  · have busy := step.taken_busy (Option.mem_toList.mp now)
    have nonempty := capacity.nonempty _ _ busy
    exact ⟨List.length_pos_iff.mpr nonempty, capacity.batch _ _ busy, batchPayload_ne_nil config nonempty⟩

/-- A failed batch of one point was put back and is taken again. -/
theorem queue_and_batches_bounded_after_requeue :
    ∃ moves system, WriteRun demoCalendar demoConfig moves system ∧ takenBatches moves = [[demoPoint "a"], [demoPoint "a"]] ∧
      system.client.writeQueue.length ≤ demoConfig.writeBatching.maxQueuePoints ∧
      ∀ batch ∈ takenBatches moves, 1 ≤ batch.length ∧
        batch.length ≤ min demoConfig.writeBatching.maxBatchPoints demoConfig.writeBatching.maxQueuePoints ∧
        batchPayload demoConfig batch ≠ [] := by
  have computed : ((writeMachine demoCalendar).exec
      (demoWrite "a" ++ demoTake ++ demoFail demoBusy ++ demoTake) (System.initial demoConfig)).map
      (fun run => takenBatches run.1) = some [[demoPoint "a"], [demoPoint "a"]] := by decide
  obtain ⟨moves, system, run, taken⟩ := Machine.exec_reaches computed
  exact ⟨moves, system, run, taken, queue_and_batches_bounded.2 _ _ _ _ (by decide) (by decide) run⟩

end OpcUaAdapter
