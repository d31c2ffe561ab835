import OpcUaAdapter.WriteWorker

/-! What one send and one read do to the client, in terms of what their exchange meets.
The member functions are not looked into again after this. -/

namespace OpcUaAdapter

namespace Exchange

def succeeds : Exchange → Bool
  | .request (.answered status _) => isSuccessStatus status
  | _ => false

/-- A send that meets this exchange sets the flag for fundamental errors. An HTTP
status only does so in a call that asks for the error text. -/
def latches (reported : Bool) : Exchange → Bool
  | .request (.failed _) => true
  | .request (.answered status _) => reported && isFundamentalStatus status
  | _ => false

def unreachable : Exchange → Bool
  | .request (.failed _) => true
  | _ => false

end Exchange

private theorem isFundamentalStatus_of_success {status : Int} (success : isSuccessStatus status = true) :
    isFundamentalStatus status = false := by
  simp only [isSuccessStatus, Bool.and_eq_true, decide_eq_true_eq] at success
  simp only [isFundamentalStatus, Bool.or_eq_false_iff, decide_eq_false_iff_not]
  omega

theorem Exchange.succeeds_not_latches {exchange : Exchange} (ok : exchange.succeeds = true) (reported : Bool) :
    exchange.latches reported = false := by
  cases exchange with
  | noEncodeHandle => rfl
  | request reply =>
    cases reply with
    | noHandle => rfl
    | failed reason => cases ok
    | answered status response => simp [latches, isFundamentalStatus_of_success ok]

namespace InfluxClient
variable (client : InfluxClient)

/-- What one send decides: success, whether there is an error text, and the flag. Of the
client it can only change the flag and the error code. Where it succeeds, it has handed over
the payload. -/
structure Attempted (client : InfluxClient) (payload : Text) (error : Option Text) (exchange : Exchange) (sent : Sent) :
    Prop where
  ok : sent.ok = exchange.succeeds
  reported : sent.error.isSome = error.isSome
  client : ∃ code, sent.client =
    { client with
      errorCode := code
      fundamentalErrorOccurred := exchange.latches error.isSome || client.fundamentalErrorOccurred }
  posted : exchange.succeeds = true → sent.posted = [payload]

theorem Attempted.flag {client : InfluxClient} {payload : Text} {error : Option Text} {exchange : Exchange} {sent : Sent}
    (attempted : Attempted client payload error exchange sent) :
    sent.client.fundamentalErrorOccurred = (exchange.latches error.isSome || client.fundamentalErrorOccurred) := by
  obtain ⟨code, same⟩ := attempted.client
  rw [same]

private theorem sendWritePayload_attempted (payload : Text) (error : Option Text) (exchange : Exchange) :
    Attempted client payload error exchange (client.sendWritePayload payload error exchange) := by
  cases exchange with
  | noEncodeHandle => exact ⟨rfl, by simp [sendWritePayload], ⟨_, rfl⟩, fun success => absurd success (by decide)⟩
  | request reply =>
    cases reply with
    | noHandle =>
      exact ⟨rfl, by simp [sendWritePayload, sendRequest], ⟨_, rfl⟩, fun success => absurd success (by simp [Exchange.succeeds])⟩
    | failed reason =>
      exact ⟨rfl, by simp [sendWritePayload, sendRequest], ⟨_, rfl⟩, fun success => absurd success (by simp [Exchange.succeeds])⟩
    | answered status response =>
      cases success : isSuccessStatus status with
      | true =>
        have quiet := isFundamentalStatus_of_success success
        refine ⟨?_, ?_, ⟨client.errorCode, ?_⟩, fun _ => ?_⟩
        all_goals simp [sendWritePayload, sendRequest, Exchange.succeeds, Exchange.latches, success, quiet]
      | false =>
        refine ⟨?_, ?_, ⟨if error.isSome then sizeOfStatus status else client.errorCode, ?_⟩,
          fun success' => absurd (success.symm.trans success') Bool.false_ne_true⟩
        · simp [sendWritePayload, sendRequest, Exchange.succeeds, success]
        · simp [sendWritePayload, sendRequest, success]
        · cases error <;> simp [sendWritePayload, sendRequest, Exchange.latches, success]

def retried (attempt : Nat) (exchange : Exchange) : InfluxClient :=
  if !exchange.succeeds && attempt < client.maxAttempts then
    { client with retryAttempts := client.retryAttempts + 1 }
  else client

theorem attemptOnce_attempted (payload : Text) (attempt : Nat) (error : Option Text) (exchange : Exchange) :
    Attempted (client.retried attempt exchange) payload error exchange
      (client.attemptOnce payload attempt error exchange) := by
  obtain ⟨ok, reported, ⟨code, same⟩, posted⟩ := client.sendWritePayload_attempted payload error exchange
  unfold attemptOnce retried
  simp only [ok]
  split
  · exact ⟨rfl, reported, ⟨code, by simp [same]⟩, posted⟩
  · exact ⟨ok, reported, ⟨code, same⟩, posted⟩

theorem retried_flag (attempt : Nat) (exchange : Exchange) :
    (client.retried attempt exchange).fundamentalErrorOccurred = client.fundamentalErrorOccurred := by
  unfold retried
  split <;> rfl

/-- An attempt to send leaves the queue and the counters of points and batches alone. -/
theorem attemptOnce_client (payload : Text) (attempt : Nat) (error : Option Text) (exchange : Exchange) :
    ∃ code fundamental retries, (client.attemptOnce payload attempt error exchange).client =
      { client with errorCode := code, fundamentalErrorOccurred := fundamental, retryAttempts := retries } := by
  obtain ⟨code, same⟩ := (client.attemptOnce_attempted payload attempt error exchange).client
  rw [same]
  unfold retried
  split
  · exact ⟨_, _, _, rfl⟩
  · exact ⟨_, _, _, rfl⟩

/-- A read only touches the flag, and only when its request fails. -/
theorem read_client (calendar : Calendar) (query : HistoryRead) (error : Option Text) (exchange : Exchange) :
    (client.read calendar query error exchange).client =
      { client with
        fundamentalErrorOccurred :=
          !query.invalidRange && exchange.unreachable || client.fundamentalErrorOccurred } := by
  unfold read
  cases invalid : query.invalidRange with
  | true => simp
  | false =>
    cases exchange with
    | noEncodeHandle => rfl
    | request reply =>
      cases reply with
      | noHandle => rfl
      | failed reason => rfl
      | answered status response =>
        cases success : isSuccessStatus status <;>
          simp [executeFluxReadQuery, sendRequest, Exchange.unreachable, success]

end InfluxClient
end OpcUaAdapter
