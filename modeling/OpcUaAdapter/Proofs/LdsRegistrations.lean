import OpcUaAdapter.LdsRegistration

/-! When the registrations at the discovery server keep to their period. -/

namespace OpcUaAdapter

/-- Registrations are a period apart, and at each time there is one that is younger. -/
structure OnTime (period : Nat) (times registrations : List (BitVec 64)) : Prop where
  spaced : registrations.Pairwise fun earlier later => earlier.toNat + period ≤ later.toNat
  covered : ∀ now ∈ times, ∃ last ∈ registrations,
    last.toNat ≤ now.toNat ∧ (now = last ∨ now.toNat < last.toNat + period)

/-- What a clock that does not go back reads up to a horizon. -/
structure Clocked (horizon : Nat) (start : BitVec 64) (times : List (BitVec 64)) : Prop where
  sorted : (start :: times).Pairwise fun earlier later => earlier.toNat ≤ later.toNat
  within : ∀ now ∈ start :: times, now.toNat ≤ horizon

section Run

variable {period horizon : Nat} {last now : BitVec 64} {times rest : List (BitVec 64)}

theorem OnTime.waits (onTime : OnTime period times (last :: rest)) (order : last.toNat ≤ now.toNat)
    (young : now = last ∨ now.toNat < last.toNat + period) : OnTime period (now :: times) (last :: rest) := by
  refine ⟨onTime.spaced, List.forall_mem_cons.mpr ⟨?_, onTime.covered⟩⟩
  exact ⟨last, List.mem_cons_self, order, young⟩

theorem OnTime.registers (onTime : OnTime period (now :: times) (now :: rest))
    (apart : last.toNat + period ≤ now.toNat) : OnTime period (now :: times) (last :: now :: rest) := by
  constructor
  · refine List.pairwise_cons.mpr ⟨?_, onTime.spaced⟩
    intro registration member
    rcases List.mem_cons.mp member with rfl | further
    · exact apart
    · have := (List.pairwise_cons.mp onTime.spaced).1 registration further
      omega
  · intro time member
    obtain ⟨registration, made, young⟩ := onTime.covered time member
    exact ⟨registration, List.mem_cons_of_mem _ made, young⟩

theorem Clocked.order (clocked : Clocked horizon last (now :: times)) : last.toNat ≤ now.toNat :=
  (List.pairwise_cons.mp clocked.sorted).1 now List.mem_cons_self

theorem Clocked.later (clocked : Clocked horizon last (now :: times)) : Clocked horizon now times :=
  ⟨(List.pairwise_cons.mp clocked.sorted).2, (List.forall_mem_cons.mp clocked.within).2⟩

theorem Clocked.skip (clocked : Clocked horizon last (now :: times)) : Clocked horizon last times := by
  constructor
  · exact clocked.sorted.sublist ((List.sublist_cons_self now times).cons_cons last)
  · intro time member
    apply clocked.within
    exact ((List.sublist_cons_self now times).cons_cons last).subset member

end Run

namespace ServerSettings

def registerTicks (settings : ServerSettings) : Nat := settings.ldsRegisterPeriod * 60 * 10 ^ 7

private theorem interval_toNat (settings : ServerSettings) :
    (settings.reregisterIntervalSec * dateTimeSec).toNat = settings.registerTicks % 2 ^ 64 := by
  unfold reregisterIntervalSec dateTimeSec registerTicks
  rw [BitVec.toNat_mul, BitVec.toNat_mul, BitVec.toNat_ofNat]
  change settings.ldsRegisterPeriod % 2 ^ 64 * 60 % 2 ^ 64 * 10 ^ 7 % 2 ^ 64 = _
  omega

theorem reregisterAt_sle_iff {settings : ServerSettings} {now later : BitVec 64} (now_below : now.toNat < 2 ^ 63)
    (later_below : later.toNat < 2 ^ 63) : (settings.reregisterAt now).sle later = true ↔
      if now.toNat + settings.registerTicks % 2 ^ 64 < 2 ^ 63 then
        now.toNat + settings.registerTicks % 2 ^ 64 ≤ later.toNat
      else now.toNat + settings.registerTicks % 2 ^ 64 ≤ later.toNat + 2 ^ 64 := by
  have sum : (settings.reregisterAt now).toNat = (now.toNat + settings.registerTicks % 2 ^ 64) % 2 ^ 64 := by
    unfold reregisterAt
    rw [BitVec.toNat_add, interval_toNat]
  have wrapped : settings.registerTicks % 2 ^ 64 < 2 ^ 64 := Nat.mod_lt _ (by decide)
  rw [BitVec.sle_iff_toInt_le, BitVec.toInt_eq_toNat_cond, BitVec.toInt_eq_toNat_cond, sum]
  generalize settings.registerTicks % 2 ^ 64 = ticks at wrapped ⊢
  split <;> split <;> split <;> omega

/-- The interval in 64 bits leaves the sign alone up to the horizon, and is the period or
does not end before the horizon. -/
def KeepsPeriod (settings : ServerSettings) (horizon : Nat) : Prop :=
  settings.registerTicks % 2 ^ 64 + horizon < 2 ^ 63 ∧
    (settings.registerTicks < 2 ^ 64 ∨ horizon < settings.registerTicks % 2 ^ 64)

variable {settings : ServerSettings} {horizon : Nat}

private theorem KeepsPeriod.sle_iff (keeps : settings.KeepsPeriod horizon) {now later : BitVec 64}
    (now_within : now.toNat ≤ horizon) (later_within : later.toNat ≤ horizon) :
    (settings.reregisterAt now).sle later = true ↔ now.toNat + settings.registerTicks ≤ later.toNat := by
  obtain ⟨sign, exact_or_beyond⟩ := keeps
  rw [reregisterAt_sle_iff (by omega) (by omega), if_pos (by omega)]
  have below := Nat.mod_le settings.registerTicks (2 ^ 64)
  rcases exact_or_beyond with small | beyond
  · rw [Nat.mod_eq_of_lt small]
  · omega

/-- After a registration the next ones keep to the period, whatever the clock reads. -/
theorem KeepsPeriod.after (keeps : settings.KeepsPeriod horizon) (enabled : settings.registerLDS = true)
    {last : BitVec 64} {times : List (BitVec 64)} (clocked : Clocked horizon last times) :
    OnTime settings.registerTicks times (last :: settings.registrations (settings.reregisterAt last) times) := by
  induction times generalizing last with
  | nil => exact ⟨List.pairwise_singleton _ _, fun now member => absurd member List.not_mem_nil⟩
  | cons now times ih =>
    have last_within := clocked.within last List.mem_cons_self
    have now_within := clocked.later.within now List.mem_cons_self
    rw [registrations, enabled, Bool.true_and]
    by_cases come : (settings.reregisterAt last).sle now = true
    · rw [if_pos come]
      apply ((ih clocked.later).waits (Nat.le_refl _) (.inl rfl)).registers
      exact (keeps.sle_iff last_within now_within).mp come
    · rw [if_neg come]
      apply (ih clocked.skip).waits clocked.order
      right
      apply Nat.lt_of_not_le
      intro apart
      exact come ((keeps.sle_iff last_within now_within).mpr apart)

theorem registrations_first (enabled : settings.registerLDS = true) {start now : BitVec 64} {times : List (BitVec 64)}
    (order : start.toNat ≤ now.toNat) (below : now.toNat < 2 ^ 63) :
    settings.registrations start (now :: times) = now :: settings.registrations (settings.reregisterAt now) times := by
  have come : start.sle now = true := by
    rw [BitVec.sle_iff_toInt_le, BitVec.toInt_eq_toNat_cond, BitVec.toInt_eq_toNat_cond]
    split <;> split <;> omega
  rw [registrations, enabled, come, Bool.true_and, if_pos rfl]

theorem not_onTime_of_twice (enabled : settings.registerLDS = true) {start now later : BitVec 64}
    (order : start.toNat ≤ now.toNat) (below : now.toNat < 2 ^ 63)
    (come : (settings.reregisterAt now).sle later = true) (early : later.toNat < now.toNat + settings.registerTicks) :
    ¬ OnTime settings.registerTicks [now, later] (settings.registrations start [now, later]) := by
  intro onTime
  have spaced := onTime.spaced
  rw [registrations_first enabled order below, registrations, enabled, come, Bool.true_and, if_pos rfl] at spaced
  have := (List.pairwise_cons.mp spaced).1 later List.mem_cons_self
  omega

theorem exists_early_reading (clock : horizon < 2 ^ 63) (other : ¬ settings.KeepsPeriod horizon) :
    ∃ now later : BitVec 64, now.toNat ≤ later.toNat ∧ later.toNat ≤ horizon ∧
      (settings.reregisterAt now).sle later = true ∧ later.toNat < now.toNat + settings.registerTicks := by
  have reads (time : Nat) (small : time ≤ horizon) : (BitVec.ofNat 64 time).toNat = time := by
    rw [BitVec.toNat_ofNat]
    omega
  have wrapped : settings.registerTicks % 2 ^ 64 < 2 ^ 64 := Nat.mod_lt _ (by decide)
  have below := Nat.mod_le settings.registerTicks (2 ^ 64)
  by_cases sign : settings.registerTicks % 2 ^ 64 + horizon < 2 ^ 63
  · -- the upper bits are lost, and the clock goes from the start to the end of what is left
    have lost : 2 ^ 64 ≤ settings.registerTicks ∧ settings.registerTicks % 2 ^ 64 ≤ horizon := by
      unfold KeepsPeriod at other
      omega
    have start := reads 0 (Nat.zero_le _)
    have finish := reads _ lost.2
    refine ⟨BitVec.ofNat 64 0, BitVec.ofNat 64 (settings.registerTicks % 2 ^ 64), by omega, by omega, ?_, by omega⟩
    rw [reregisterAt_sle_iff (by omega) (by omega), if_pos (by omega)]
    omega
  · -- the sum is negative, and the same time is read again
    have here := reads horizon (Nat.le_refl _)
    refine ⟨BitVec.ofNat 64 horizon, BitVec.ofNat 64 horizon, Nat.le_refl _, by omega, ?_, by omega⟩
    rw [reregisterAt_sle_iff (by omega) (by omega), if_neg (by omega)]
    omega

end ServerSettings

/-- In every run of the loop up to a horizon the registrations keep to the period that is set
exactly when the interval does not lose its upper bits before the horizon and does not
reach the sign. -/
theorem registrations_on_time_iff {settings : ServerSettings} {horizon : Nat} (enabled : settings.registerLDS = true)
    (clock : horizon < 2 ^ 63) :
    (∀ start times, Clocked horizon start times →
      OnTime settings.registerTicks times (settings.registrations start times)) ↔ settings.KeepsPeriod horizon := by
  constructor
  · intro onTime
    by_contra other
    obtain ⟨now, later, order, within, come, early⟩ := ServerSettings.exists_early_reading clock other
    have clocked : Clocked horizon now [now, later] := by
      refine ⟨by simp [order], ?_⟩
      simp only [List.forall_mem_cons]
      exact ⟨by omega, by omega, within, fun _ member => absurd member List.not_mem_nil⟩
    exact ServerSettings.not_onTime_of_twice enabled (Nat.le_refl _) (by omega) come early (onTime _ _ clocked)
  · intro keeps start times clocked
    cases times with
    | nil => exact ⟨List.Pairwise.nil, fun now member => absurd member List.not_mem_nil⟩
    | cons now times =>
      have within := clocked.later.within now List.mem_cons_self
      rw [ServerSettings.registrations_first enabled clocked.order (by omega)]
      exact (keeps.after enabled clocked.later).waits (Nat.le_refl _) (.inl rfl)

/-- The clock is read once before the period of ten minutes is over, and once when it is. -/
theorem registrations_on_time_of_ten_minutes : OnTime 6000000000 [5, 6000000004, 6000000005]
    (ServerSettings.registrations { registerLDS := true } 5 [5, 6000000004, 6000000005]) := by
  have keeps : ServerSettings.KeepsPeriod { registerLDS := true } (2 ^ 62) := by
    simp [ServerSettings.KeepsPeriod, ServerSettings.registerTicks]
  refine (@registrations_on_time_iff { registerLDS := true } (2 ^ 62) rfl (by decide)).mpr keeps 5
    [5, 6000000004, 6000000005] ⟨?_, ?_⟩
  · decide
  · simp

end OpcUaAdapter
