import OpcUaAdapter.Proofs.WriteHistory

/-! The retry loop of a batch. It ends with the first success, sets the flag when one of
its failures does, and computes the same as the worker steps of the machine. -/

namespace OpcUaAdapter

namespace InfluxClient
variable {client : InfluxClient} {payload : Text} {attempt : Nat} {error : Option Text} {exchange : Exchange} {exchanges : List Exchange}
  {result : BatchResult}

private theorem attemptFrom_nil (returned : client.attemptFrom payload attempt error [] = some result) : result.ok = false := by
  simp only [attemptFrom] at returned
  split at returned <;> cases returned
  rfl

theorem attemptFrom_cons (returned : client.attemptFrom payload attempt error (exchange :: exchanges) = some result)
    (ok : result.ok = true) :
    attempt ≤ client.maxAttempts ∧
      (exchange.succeeds = true ∧ result.client = (client.attemptOnce payload attempt error exchange).client ∧
          result.sends = 1 ∧ result.posted = [payload] ∨
        exchange.succeeds = false ∧ ∃ later,
          (client.attemptOnce payload attempt error exchange).client.attemptFrom payload ((attempt + 1) % 2 ^ 64)
            (client.attemptOnce payload attempt error exchange).error exchanges = some later ∧
          later.ok = true ∧ result.client = later.client ∧ result.sends = later.sends + 1 ∧
          later.posted <:+ result.posted) := by
  have attempted := client.attemptOnce_attempted payload attempt error exchange
  simp only [attemptFrom, attempted.ok] at returned
  split at returned
  next allowed =>
    refine ⟨allowed, ?_⟩
    split at returned
    next success =>
      cases returned
      exact .inl ⟨success, rfl, rfl, attempted.posted success⟩
    next failure =>
      obtain ⟨later, remaining, same⟩ := Option.map_eq_some_iff.mp returned
      cases same
      exact .inr ⟨by simpa using failure, later, remaining, ok, rfl, rfl, List.suffix_append _ _⟩
  next =>
    cases returned
    cases ok

/-- The attempts that ended in success set the flag exactly when a failed one before it did. -/
theorem attemptFrom_flag (returned : client.attemptFrom payload attempt error exchanges = some result)
    (ok : result.ok = true) :
    result.client.fundamentalErrorOccurred =
      ((exchanges.takeWhile fun exchange => !exchange.succeeds).any (Exchange.latches error.isSome) ||
        client.fundamentalErrorOccurred) := by
  induction exchanges generalizing client attempt error result with
  | nil => simp [attemptFrom_nil returned] at ok
  | cons exchange rest ih =>
    have attempted := client.attemptOnce_attempted payload attempt error exchange
    rcases (attemptFrom_cons returned ok).2 with ⟨success, same, _⟩ | ⟨failure, later, remaining, written, same, _⟩
    · rw [same, attempted.flag, retried_flag, Exchange.succeeds_not_latches success]
      simp [success]
    · rw [same, ih remaining written, attempted.flag, retried_flag, attempted.reported]
      simp [failure, Bool.or_left_comm, Bool.or_assoc]

theorem attemptFrom_config (returned : client.attemptFrom payload attempt error exchanges = some result)
    (ok : result.ok = true) : result.client.config = client.config := by
  induction exchanges generalizing client attempt error result with
  | nil => simp [attemptFrom_nil returned] at ok
  | cons exchange rest ih =>
    obtain ⟨code, fundamental, retries, sent⟩ := client.attemptOnce_client payload attempt error exchange
    rcases (attemptFrom_cons returned ok).2 with ⟨_, same, _⟩ | ⟨_, later, remaining, written, same, _⟩
    · rw [same, sent]
    · rw [same, ih remaining written, sent]

/-- What the successful attempt has handed over is the payload. -/
theorem attemptFrom_posted (returned : client.attemptFrom payload attempt error exchanges = some result)
    (ok : result.ok = true) : [payload] <:+ result.posted := by
  induction exchanges generalizing client attempt error result with
  | nil => simp [attemptFrom_nil returned] at ok
  | cons exchange rest ih =>
    rcases (attemptFrom_cons returned ok).2 with ⟨_, _, _, posted⟩ | ⟨_, later, remaining, written, _, _, last⟩
    · exact posted ▸ List.suffix_rfl
    · exact (ih remaining written).trans last

section Steps
variable (calendar : Calendar) (batch callers : List PendingWritePoint) {writeError text : Text}

private theorem sending_succeeds (allowed : attempt ≤ client.maxAttempts) (success : exchange.succeeds = true) :
    (writeMachine calendar).step (.work exchange) ⟨client, .busy batch (.sending payload attempt writeError), callers⟩ =
      some (.acknowledged batch [payload],
        let sent := (client.attemptOnce payload attempt (some writeError) exchange).client
        ⟨{ sent with batchesWritten := sent.batchesWritten + 1 }, .busy batch .written, callers⟩) := by
  obtain ⟨ok, _, _, posted⟩ := client.attemptOnce_attempted payload attempt (some writeError) exchange
  rw [success] at ok
  simp only [writeMachine, System.work, System.process, if_pos allowed, ok, posted success, ite_true]

theorem sending_fails (allowed : attempt ≤ client.maxAttempts) (failure : exchange.succeeds = false)
    (filled : (client.attemptOnce payload attempt (some writeError) exchange).error = some text) :
    (writeMachine calendar).step (.work exchange) ⟨client, .busy batch (.sending payload attempt writeError), callers⟩ =
      some (.silent, ⟨(client.attemptOnce payload attempt (some writeError) exchange).client,
        .busy batch (.sending payload ((attempt + 1) % 2 ^ 64) text), callers⟩) := by
  have ok := (client.attemptOnce_attempted payload attempt (some writeError) exchange).ok
  rw [failure] at ok
  simp only [writeMachine, System.work, System.process, if_pos allowed, ok, Bool.false_eq_true, ite_false, filled,
    Option.getD_some]

/-- A batch that is written takes the worker from its first attempt to the counting of
its points, with the client the loop returns. -/
theorem attemptFrom_run (returned : client.attemptFrom payload attempt (some writeError) exchanges = some result)
    (ok : result.ok = true) :
    ∃ moves, moves.map (fun move => move.action) = (exchanges.take result.sends).map Action.work ∧
      (writeMachine calendar).Run ⟨client, .busy batch (.sending payload attempt writeError), callers⟩ moves
        ⟨{ result.client with batchesWritten := result.client.batchesWritten + 1 }, .busy batch .written,
          callers⟩ := by
  induction exchanges generalizing client attempt writeError result with
  | nil => simp [attemptFrom_nil returned] at ok
  | cons exchange rest ih =>
    obtain ⟨allowed, ends⟩ := attemptFrom_cons returned ok
    rcases ends with ⟨success, same, sends, _⟩ | ⟨failure, later, remaining, written, same, sends, _⟩
    · rw [same, sends]
      have moved := @sending_succeeds client payload attempt exchange calendar batch callers writeError allowed success
      exact ⟨_, rfl, .single moved⟩
    · have attempted := client.attemptOnce_attempted payload attempt (some writeError) exchange
      obtain ⟨text, filled⟩ := Option.isSome_iff_exists.mp attempted.reported
      rw [filled] at remaining
      obtain ⟨moves, actions, run⟩ := ih remaining written
      have moved := sending_fails calendar batch callers allowed failure filled
      rw [same, sends]
      exact ⟨_, by simpa using actions, (Machine.Run.single moved).trans run⟩

end Steps
end InfluxClient
end OpcUaAdapter
