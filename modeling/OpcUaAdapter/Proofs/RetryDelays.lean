import OpcUaAdapter.Proofs.BatchAttempts

/-! How often `attemptSendBatch` sends a payload and how long it waits in between, for
every configuration and whatever the sends meet. -/

namespace OpcUaAdapter.InfluxClient

/-- The rest of the loop, from one attempt on. -/
structure Tried (client : InfluxClient) (attempt : Nat) (exchanges : List Exchange) (result : BatchResult) : Prop where
  bound : attempt + result.sends ≤ client.maxAttempts + 1
  failures : ∀ exchange ∈ exchanges.take (result.sends - 1), exchange.succeeds = false
  succeeded : result.ok = true → 1 ≤ result.sends ∧ ∃ exchange ∈ exchanges.take result.sends, exchange.succeeds = true
  exhausted : result.ok = false → attempt + result.sends = client.maxAttempts + 1 ∧
    ∀ exchange ∈ exchanges.take result.sends, exchange.succeeds = false
  retries : result.client.retryAttempts = client.retryAttempts + (result.sends - 1)
  waits : result.waits = (List.range' attempt (result.sends - 1)).map client.backoffMs

variable {client : InfluxClient} {payload : Text} {attempt : Nat} {error : Option Text} {exchanges : List Exchange}

theorem attemptOnce_retries (payload : Text) (attempt : Nat) (error : Option Text) (exchange : Exchange) :
    (client.attemptOnce payload attempt error exchange).client.retryAttempts =
      client.retryAttempts + if exchange.succeeds = false ∧ attempt < client.maxAttempts then 1 else 0 := by
  obtain ⟨code, same⟩ := (client.attemptOnce_attempted payload attempt error exchange).client
  rw [same]
  unfold retried
  cases exchange.succeeds <;> by_cases again : attempt < client.maxAttempts <;> simp [again]

/-- A failed attempt before the rest of the loop. -/
theorem Tried.cons {exchange : Exchange} {next : InfluxClient} {later : BatchResult} {posted : List Text}
    (tried : Tried next (attempt + 1) exchanges later) (failure : exchange.succeeds = false)
    (allowed : attempt ≤ client.maxAttempts)
    (bound : next.maxAttempts = client.maxAttempts) (delays : next.backoffMs = client.backoffMs)
    (retries : next.retryAttempts = client.retryAttempts +
      if exchange.succeeds = false ∧ attempt < client.maxAttempts then 1 else 0) :
    Tried client attempt (exchange :: exchanges) { later with
      sends := later.sends + 1
      waits := if attempt < client.maxAttempts then client.backoffMs attempt :: later.waits else later.waits
      posted := posted } := by
  obtain ⟨within, failures, succeeded, exhausted, counted, waits⟩ := tried
  rw [bound] at within exhausted
  rw [delays] at waits
  -- before the last attempt there is at least one more
  have more : attempt < client.maxAttempts ↔ 1 ≤ later.sends := by
    cases ok : later.ok with
    | true =>
      have := (succeeded ok).1
      omega
    | false =>
      have := (exhausted ok).1
      omega
  have first (count : Nat) (rest : ∀ other ∈ exchanges.take count, other.succeeds = false) :
      ∀ other ∈ (exchange :: exchanges).take (count + 1), other.succeeds = false := by
    intro other member
    rcases List.mem_cons.mp member with rfl | inner
    · exact failure
    · exact rest other inner
  refine ⟨?_, ?_, ?_, ?_, ?_, ?_⟩
  · dsimp only
    omega
  · cases sends : later.sends with
    | zero => simp
    | succ count =>
      rw [sends] at failures
      exact first count failures
  · intro ok
    obtain ⟨_, other, member, success⟩ := succeeded ok
    exact ⟨by simp, other, List.mem_cons_of_mem _ member, success⟩
  · intro ok
    obtain ⟨total, rest⟩ := exhausted ok
    exact ⟨by dsimp only; omega, first _ rest⟩
  · dsimp only
    rw [counted, retries]
    by_cases again : attempt < client.maxAttempts
    · simp only [failure, again, and_self, reduceIte]
      have := more.mp again
      omega
    · simp only [again, and_false, reduceIte]
      have := mt more.mpr again
      omega
  · dsimp only
    by_cases again : attempt < client.maxAttempts
    · obtain ⟨count, sends⟩ := Nat.exists_eq_add_of_le (more.mp again)
      rw [if_pos again, waits, sends, Nat.add_sub_cancel, Nat.add_sub_cancel_left, Nat.add_comm 1 count, List.range'_succ, List.map_cons]
    · have := mt more.mpr again
      rw [if_neg again, waits, show later.sends = 0 by omega]
      rfl

theorem attemptFrom_tried (finite : client.maxAttempts < 2 ^ 64 - 1) (inside : attempt ≤ client.maxAttempts + 1)
    (enough : client.maxAttempts + 1 ≤ attempt + exchanges.length) :
    ∃ result, client.attemptFrom payload attempt error exchanges = some result ∧ Tried client attempt exchanges result := by
  induction exchanges generalizing client attempt error with
  | nil =>
    have ended : ¬ attempt ≤ client.maxAttempts := by
      rw [List.length_nil] at enough
      omega
    refine ⟨_, if_neg ended, ?_⟩
    constructor <;> simp <;> omega
  | cons exchange rest ih =>
    unfold attemptFrom
    by_cases allowed : attempt ≤ client.maxAttempts
    · simp only [allowed, reduceIte]
      have attempted := client.attemptOnce_attempted payload attempt error exchange
      have retries := client.attemptOnce_retries payload attempt error exchange
      obtain ⟨code, fundamental, count, sent⟩ := client.attemptOnce_client payload attempt error exchange
      have bound : (client.attemptOnce payload attempt error exchange).client.maxAttempts = client.maxAttempts := by rw [sent]; rfl
      have delays : (client.attemptOnce payload attempt error exchange).client.backoffMs = client.backoffMs := by rw [sent]; rfl
      rw [attempted.ok]
      cases success : exchange.succeeds with
      | true =>
        refine ⟨_, rfl, by simpa using allowed, by simp, fun _ => ⟨Nat.le_refl 1, exchange, by simp, success⟩, by simp, ?_, rfl⟩
        simpa [success] using retries
      | false =>
        have next : (attempt + 1) % 2 ^ 64 = attempt + 1 := Nat.mod_eq_of_lt (by omega)
        rw [List.length_cons] at enough
        obtain ⟨later, remaining, tried⟩ := @ih (client.attemptOnce payload attempt error exchange).client (attempt + 1)
          (client.attemptOnce payload attempt error exchange).error (by rwa [bound]) (by rw [bound]; omega) (by rw [bound]; omega)
        rw [next, remaining]
        refine ⟨_, rfl, ?_⟩
        exact tried.cons success allowed bound delays retries
    · refine ⟨_, if_neg allowed, ?_⟩
      constructor <;> simp <;> omega

def delayMs (config : InfluxConfig) (earlier : Nat) : Int :=
  max 1 config.writeBatching.retryBackoffMs * 2 ^ min earlier 6

private theorem backoffMs_eq {earlier : Nat} (represented : earlier + 1 < 2 ^ 64) :
    client.backoffMs (earlier + 1) = delayMs client.config earlier := by
  unfold backoffMs delayMs
  rw [show earlier + 1 + (2 ^ 64 - 1) = earlier + 2 ^ 64 by omega, Nat.add_mod_right, Nat.mod_eq_of_lt (by omega)]

private theorem delayMs_pos (config : InfluxConfig) (earlier : Nat) : 0 < delayMs config earlier := by
  have base : 0 < max 1 config.writeBatching.retryBackoffMs := by omega
  exact Int.mul_pos base (Int.pow_pos (by decide))

private theorem delayMs_mono (config : InfluxConfig) {earlier later : Nat} (order : earlier ≤ later) :
    delayMs config earlier ≤ delayMs config later := by
  have powers : 2 ^ min earlier 6 ≤ 2 ^ min later 6 := Nat.pow_le_pow_right (by decide) (by omega)
  exact Int.mul_le_mul_of_nonneg_left (by exact_mod_cast powers) (by omega)

/-- What a call of `attemptSendBatch` does, and that `size_t` and `int` hold its numbers. -/
structure Delivers (client : InfluxClient) (exchanges : List Exchange) (result : BatchResult) : Prop where
  atLeastOnce : 1 ≤ result.sends
  atMost : result.sends ≤ client.config.writeBatching.maxRetries + 1
  unsuccessful : ∀ exchange ∈ exchanges.take (result.sends - 1), exchange.succeeds = false
  returns : result.ok = true ↔ ∃ exchange ∈ exchanges.take result.sends, exchange.succeeds = true
  retries : result.client.retryAttempts = client.retryAttempts + (result.sends - 1)
  waits : result.waits = (List.range (result.sends - 1)).map (delayMs client.config)
  attemptsRepresentable : client.config.writeBatching.maxRetries + 1 < 2 ^ 64
  waitsRepresentable : ∀ wait ∈ result.waits, wait < 2 ^ 31
  positive : ∀ wait ∈ result.waits, 0 < wait
  ascending : result.waits.Pairwise (· ≤ ·)

private theorem attemptSendBatch_delivers (finite : client.config.writeBatching.maxRetries < 2 ^ 64 - 2)
    (short : 0 < client.config.writeBatching.maxRetries →
      delayMs client.config (client.config.writeBatching.maxRetries - 1) < 2 ^ 31)
    (error : Option Text) (enough : client.config.writeBatching.maxRetries + 1 ≤ exchanges.length) :
    ∃ result, client.attemptSendBatch payload error exchanges = some result ∧ Delivers client exchanges result := by
  have attempts : client.maxAttempts = client.config.writeBatching.maxRetries + 1 := Nat.mod_eq_of_lt (by omega)
  obtain ⟨result, returned, tried⟩ := @attemptFrom_tried client payload 1 error exchanges (by omega) (by omega) (by omega)
  have bound := tried.bound
  have sends : 1 ≤ result.sends := by
    cases ok : result.ok with
    | true => exact (tried.succeeded ok).1
    | false =>
      have := (tried.exhausted ok).1
      omega
  have waits : result.waits = (List.range (result.sends - 1)).map (delayMs client.config) := by
    rw [tried.waits, List.range'_eq_map_range, List.map_map]
    apply List.map_congr_left
    intro earlier member
    have := List.mem_range.mp member
    rw [Function.comp_apply, Nat.add_comm, backoffMs_eq (by omega)]
  refine ⟨result, returned, sends, by omega, tried.failures, ?_, tried.retries, waits, by omega, ?_, ?_, ?_⟩
  · constructor
    · exact fun ok => (tried.succeeded ok).2
    · rintro ⟨exchange, member, success⟩
      by_contra failed
      have := (tried.exhausted (by simpa using failed)).2 exchange member
      rw [success] at this
      cases this
  · intro wait member
    rw [waits] at member
    obtain ⟨earlier, inside, rfl⟩ := List.mem_map.mp member
    have before := List.mem_range.mp inside
    have last := delayMs_mono client.config (by omega : earlier ≤ client.config.writeBatching.maxRetries - 1)
    have := short (by omega)
    omega
  · intro wait member
    rw [waits] at member
    obtain ⟨earlier, _, rfl⟩ := List.mem_map.mp member
    exact delayMs_pos client.config earlier
  · rw [waits, List.pairwise_map]
    exact List.pairwise_lt_range.imp fun order => delayMs_mono client.config (Nat.le_of_lt order)

private theorem not_mem_replicate_succeeds {count : Nat} {exchange : Exchange}
    (member : exchange ∈ List.replicate count Exchange.noEncodeHandle) : exchange.succeeds = false := by
  rw [List.eq_of_mem_replicate member]
  rfl

theorem attemptFrom_endless (endless : client.maxAttempts = 2 ^ 64 - 1) (represented : attempt < 2 ^ 64) (count : Nat) :
    client.attemptFrom payload attempt error (List.replicate count .noEncodeHandle) = none := by
  have allowed : attempt ≤ client.maxAttempts := by omega
  induction count generalizing client attempt error with
  | zero => exact if_pos allowed
  | succ count ih =>
    obtain ⟨code, fundamental, retries, sent⟩ := client.attemptOnce_client payload attempt error .noEncodeHandle
    have next : (attempt + 1) % 2 ^ 64 < 2 ^ 64 := Nat.mod_lt _ (by decide)
    have rest := @ih (client.attemptOnce payload attempt error .noEncodeHandle).client ((attempt + 1) % 2 ^ 64)
      (client.attemptOnce payload attempt error .noEncodeHandle).error (by rw [sent]; exact endless) next
      (by rw [sent]; change _ ≤ client.maxAttempts; omega)
    rw [List.replicate_succ, attemptFrom, if_pos allowed]
    have failed : (client.attemptOnce payload attempt error .noEncodeHandle).ok = false :=
      (client.attemptOnce_attempted payload attempt error .noEncodeHandle).ok
    simp only [failed, Bool.false_eq_true, reduceIte, rest, Option.map_none]

theorem longest_wait {result : BatchResult}
    (finite : client.config.writeBatching.maxRetries < 2 ^ 64 - 2)
    (retrying : 0 < client.config.writeBatching.maxRetries)
    (returned : client.attemptSendBatch payload error
      (List.replicate (client.config.writeBatching.maxRetries + 1) .noEncodeHandle) = some result)
    (delivers : Delivers client (List.replicate (client.config.writeBatching.maxRetries + 1) .noEncodeHandle) result) :
    delayMs client.config (client.config.writeBatching.maxRetries - 1) ∈ result.waits := by
  have attempts : client.maxAttempts = client.config.writeBatching.maxRetries + 1 := Nat.mod_eq_of_lt (by omega)
  obtain ⟨same, again, tried⟩ := @attemptFrom_tried client payload 1 error
    (List.replicate (client.config.writeBatching.maxRetries + 1) .noEncodeHandle) (by omega) (by omega) (by simp; omega)
  cases (returned.symm.trans again : some result = some same)
  have failed : result.ok = false := by
    by_contra ok
    obtain ⟨exchange, member, success⟩ := delivers.returns.mp (by simpa using ok)
    rw [not_mem_replicate_succeeds (List.mem_of_mem_take member)] at success
    cases success
  have total := (tried.exhausted failed).1
  rw [delivers.waits]
  exact List.mem_map_of_mem (List.mem_range.mpr (by omega))

/-- Every call delivers within its bounds exactly when the attempt counter can pass the
number of attempts and the longest wait fits into an `int`. -/
theorem attemptSendBatch_delivers_iff (client : InfluxClient) :
    (∀ payload error exchanges, client.config.writeBatching.maxRetries + 1 ≤ exchanges.length →
      ∃ result, client.attemptSendBatch payload error exchanges = some result ∧ Delivers client exchanges result) ↔
    client.config.writeBatching.maxRetries < 2 ^ 64 - 2 ∧
      (0 < client.config.writeBatching.maxRetries →
        max 1 client.config.writeBatching.retryBackoffMs * 2 ^ min (client.config.writeBatching.maxRetries - 1) 6 < 2 ^ 31) := by
  constructor
  · intro delivered
    obtain ⟨result, returned, delivers⟩ := delivered [] none
      (List.replicate (client.config.writeBatching.maxRetries + 1) .noEncodeHandle) (by simp)
    have represented := delivers.attemptsRepresentable
    have finite : client.config.writeBatching.maxRetries < 2 ^ 64 - 2 := by
      by_contra large
      have endless : client.maxAttempts = 2 ^ 64 - 1 := by
        rw [maxAttempts, Nat.mod_eq_of_lt represented]
        omega
      rw [attemptSendBatch, attemptFrom_endless endless (by decide)] at returned
      cases returned
    exact ⟨finite, fun retrying =>
      delivers.waitsRepresentable _ (longest_wait finite retrying returned delivers)⟩
  · rintro ⟨finite, short⟩ payload error exchanges enough
    exact attemptSendBatch_delivers finite short error enough

private theorem attemptSendBatch_without_attempts (none : client.maxAttempts = 0) (error : Option Text)
    (exchanges : List Exchange) :
    client.attemptSendBatch payload error exchanges = some { ok := false, error, client, sends := 0, waits := [] } := by
  have ended : ¬ 1 ≤ client.maxAttempts := by omega
  cases exchanges with
  | nil => exact if_neg ended
  | cons exchange rest => exact if_neg ended

def negativeRetries : XmlNode :=
  .element "influxdb" [] [.element "write_batching" [] [.element "max_retries" [] [.text "-1"]]]

/-- A negative number of retries is taken for the largest `size_t`, and nothing is sent at all. -/
theorem negative_retries_send_nothing : ¬ ∀ (root : XmlNode) (client : InfluxClient),
    client.config.writeBatching = ConfigLoader.parseWriteBatching root →
    ∀ payload error exchanges, client.config.writeBatching.maxRetries + 1 ≤ exchanges.length →
      ∃ result, client.attemptSendBatch payload error exchanges = some result ∧ Delivers client exchanges result := by
  intro delivered
  let client : InfluxClient := { config := { writeBatching := ConfigLoader.parseWriteBatching negativeRetries } }
  have none : client.maxAttempts = 0 := by decide +kernel
  obtain ⟨result, returned, delivers⟩ := delivered negativeRetries client rfl [] Option.none
    (List.replicate (client.config.writeBatching.maxRetries + 1) .noEncodeHandle) (by rw [List.length_replicate])
  rw [attemptSendBatch_without_attempts none] at returned
  cases returned
  exact absurd delivers.atLeastOnce (by decide)

end OpcUaAdapter.InfluxClient
