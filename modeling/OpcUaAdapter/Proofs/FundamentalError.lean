import OpcUaAdapter.Proofs.BatchAttempts

/-! The flag that ends the write worker. Single attempts and history reads set it, so it
says nothing about the outcome of a batch, which the retry loop decides two levels up. -/

namespace OpcUaAdapter

/-- From the first attempt of a batch that is written, the worker gets back to waiting
for points. After the sends it counts the points, clears the error and tests the flag. -/
def GoesOn (calendar : Calendar) (client : InfluxClient) (batch callers : List PendingWritePoint)
    (payload writeError : Text) (sends : List Exchange) : Prop :=
  ∃ moves after, (writeMachine calendar).Run ⟨client, .busy batch (.sending payload 1 writeError), callers⟩ moves after ∧
    moves.map (fun move => move.action) = sends.map Action.work ++ List.replicate 3 (.work .noEncodeHandle) ∧
    after.worker = .waiting

namespace InfluxClient
variable {client : InfluxClient} {payload : Text} {exchanges : List Exchange} {result : BatchResult}

private theorem attemptSendBatch_goesOn (calendar : Calendar) (batch callers : List PendingWritePoint) {writeError : Text}
    (returned : client.attemptSendBatch payload (some writeError) exchanges = some result) (ok : result.ok = true)
    (sound : result.client.fundamentalErrorOccurred = false) :
    GoesOn calendar client batch callers payload writeError (exchanges.take result.sends) := by
  obtain ⟨moves, actions, run⟩ := attemptFrom_run calendar batch callers returned ok
  have counted := run.next (show (writeMachine calendar).step (.work .noEncodeHandle) _ = some (_, _) from rfl)
  have cleared := counted.next (show (writeMachine calendar).step (.work .noEncodeHandle) _ = some (_, _) from rfl)
  have decided := cleared.next (show (writeMachine calendar).step (.work .noEncodeHandle) _ = some (_, _) from rfl)
  refine ⟨_, _, decided, by simp [actions], ?_⟩
  simp [clearAsyncWriteError, sound]

/-- A written batch leaves the flag clear, and the worker goes on, exactly when no attempt
before the successful one set the flag. -/
theorem written_batch_goes_on_iff {calendar : Calendar} {error : Option Text}
    (healthy : client.hasFundamentalError = false)
    (returned : client.attemptSendBatch payload error exchanges = some result) (ok : result.ok = true) :
    (result.client.hasFundamentalError = false ∧
        ∀ writeError, error = some writeError → ∀ batch callers,
          GoesOn calendar client batch callers payload writeError (exchanges.take result.sends)) ↔
      ∀ exchange ∈ exchanges.takeWhile (fun exchange => !exchange.succeeds),
        exchange.latches error.isSome = false := by
  have flag := attemptFrom_flag returned ok
  simp only [hasFundamentalError] at healthy ⊢
  rw [healthy, Bool.or_false] at flag
  have quiet : result.client.fundamentalErrorOccurred = false ↔
      ∀ exchange ∈ exchanges.takeWhile (fun exchange => !exchange.succeeds),
        exchange.latches error.isSome = false := by
    rw [flag, List.any_eq_false]
    simp only [Bool.not_eq_true]
  rw [← quiet]
  refine ⟨fun kept => kept.1, fun sound => ⟨sound, ?_⟩⟩
  rintro writeError rfl batch callers
  exact attemptSendBatch_goesOn calendar batch callers returned ok sound

end InfluxClient

def retryingConfig : InfluxConfig := { demoConfig with writeBatching := { maxRetries := 1 } }

theorem written_batch_goes_on_after_busy_server :
    ∃ result, ({ config := retryingConfig } : InfluxClient).attemptSendBatch ((demoPoint "a").line retryingConfig)
        (some []) [demoBusy, demoDelivered] = some result ∧ result.ok = true ∧ result.client.hasFundamentalError = false := by
  have computed : ((({ config := retryingConfig } : InfluxClient).attemptSendBatch
      ((demoPoint "a").line retryingConfig) (some []) [demoBusy, demoDelivered]).map fun result => result.ok) = some true := by decide
  obtain ⟨result, returned, ok⟩ := Option.map_eq_some_iff.mp computed
  have goes := (@InfluxClient.written_batch_goes_on_iff _ _ _ _ demoCalendar _ rfl returned ok).mpr (by decide)
  exact ⟨result, returned, ok, goes.1⟩

/-- The server was unreachable once, the retry delivered the batch, and the flag stays set. -/
theorem repaired_failure_latches :
    ¬ ∀ (client : InfluxClient) (payload : Text) (error : Option Text) (exchanges : List Exchange) (result : BatchResult),
      client.hasFundamentalError = false → client.attemptSendBatch payload error exchanges = some result →
      result.ok = true → result.client.hasFundamentalError = false := by
  have computed : ((({ config := retryingConfig } : InfluxClient).attemptSendBatch
      ((demoPoint "a").line retryingConfig) (some []) [demoOffline, demoDelivered]).map fun result => (result.ok, result.client.hasFundamentalError)) =
    some (true, true) := by decide
  obtain ⟨result, returned, facts⟩ := Option.map_eq_some_iff.mp computed
  obtain ⟨ok, latched⟩ := Prod.mk.inj facts
  intro healthy
  have quiet := healthy _ _ _ _ _ rfl returned ok
  rw [latched] at quiet
  cases quiet

namespace InfluxClient
variable (client : InfluxClient)

def writeSide : List PendingWritePoint × InfluxWriteStats × Text :=
  (client.writeQueue, client.getWriteStats, client.lastAsyncWriteError)

/-- A read leaves the write side alone exactly when it makes no request, when its request
is answered, or when the flag was set before. -/
theorem read_keeps_writeSide_iff (calendar : Calendar) (query : HistoryRead) (error : Option Text)
    (exchange : Exchange) :
    (client.read calendar query error exchange).client.writeSide = client.writeSide ↔
      query.invalidRange = true ∨ exchange.unreachable = false ∨ client.fundamentalErrorOccurred = true := by
  have side (fundamental : Bool) :
      ({ client with fundamentalErrorOccurred := fundamental } : InfluxClient).writeSide = client.writeSide ↔
        fundamental = client.fundamentalErrorOccurred := by
    simp [writeSide, getWriteStats]
  rw [client.read_client, side]
  cases query.invalidRange <;> cases exchange.unreachable <;> cases client.fundamentalErrorOccurred <;> decide

end InfluxClient

/-- One read while the server is unreachable sets the flag the write worker stops on. -/
theorem failed_read_latches :
    ¬ ∀ (client : InfluxClient) (calendar : Calendar) (query : HistoryRead) (error : Option Text)
      (exchange : Exchange), (client.read calendar query error exchange).client.writeSide = client.writeSide := by
  intro kept
  have same := kept { config := demoConfig } demoCalendar (.readRange "-1h" "now()") (some []) demoOffline
  have flag := congrArg (fun side => side.2.1.fundamentalErrorOccurred) same
  simp only [InfluxClient.writeSide, InfluxClient.getWriteStats, InfluxClient.read_client] at flag
  revert flag
  decide

end OpcUaAdapter
