import Mathlib.Tactic.SplitIfs
import OpcUaAdapter.HistoryAccess

/-! The bounds a history read asks the database for: whether they can be computed
without overflow, and in which order they stand. -/

namespace OpcUaAdapter

def lastUaDateTime : Int := unixEpoch + longMax / 100

theorem checkedUnixNanoseconds_eq {value : Int} (represented : value ≤ longMax) :
    checkedUnixNanoseconds value = some (uaDateTimeToUnixNanoseconds value) := by
  unfold checkedUnixNanoseconds uaDateTimeToUnixNanoseconds
  by_cases early : value ≤ unixEpoch
  · rw [if_pos early, if_pos early]
  · have delta : longMin ≤ value - unixEpoch ∧ value - unixEpoch ≤ longMax := by
      simp only [longMin, longMax, unixEpoch] at *
      omega
    rw [if_neg early, if_neg early, signed64, if_pos delta]
    by_cases large : longMax / 100 ≤ value - unixEpoch
    · simp only [bind, Option.bind, large, reduceIte]
      rw [if_pos (by simpa [longMax] using large)]
      rfl
    · have product : longMin ≤ (value - unixEpoch) * 100 ∧ (value - unixEpoch) * 100 ≤ longMax := by
        simp only [longMin, longMax, unixEpoch] at *
        omega
      simp only [bind, Option.bind, large, reduceIte, signed64, product, and_self]
      rw [if_neg (by simpa [longMax] using large)]

theorem unixNanoseconds_range (value : Int) :
    0 ≤ uaDateTimeToUnixNanoseconds value ∧ uaDateTimeToUnixNanoseconds value ≤ longMax := by
  unfold uaDateTimeToUnixNanoseconds longMax
  split
  · omega
  · split <;> omega

theorem unixNanoseconds_saturated_iff (value : Int) :
    uaDateTimeToUnixNanoseconds value = longMax ↔ lastUaDateTime ≤ value := by
  unfold uaDateTimeToUnixNanoseconds lastUaDateTime unixEpoch longMax
  split
  · omega
  · split <;> omega

namespace HistoryCall

/-- The bounds as they are before the last repair. -/
def requestedWindow (call : HistoryCall) (environment : UaEnvironment) : Int × Int :=
  if call.start = longMin ∧ call.stop = longMin then (0, uaDateTimeToUnixNanoseconds environment.now)
  else if call.start = longMin then (0, uaDateTimeToUnixNanoseconds call.stop)
  else if call.stop = longMin then
    (uaDateTimeToUnixNanoseconds call.start, uaDateTimeToUnixNanoseconds environment.now)
  else
    (uaDateTimeToUnixNanoseconds (if call.reverse then call.stop else call.start),
      uaDateTimeToUnixNanoseconds (if call.reverse then call.start else call.stop))

variable {call : HistoryCall} {environment : UaEnvironment}

/-- All values of the call and the clock are 64 bit integers, and it is after 1970. -/
structure Represented (call : HistoryCall) (environment : UaEnvironment) : Prop where
  start : longMin ≤ call.start ∧ call.start ≤ longMax
  stop : longMin ≤ call.stop ∧ call.stop ≤ longMax
  now : unixEpoch < environment.now ∧ environment.now ≤ longMax
  later : unixEpoch < environment.later ∧ environment.later ≤ longMax

theorem window_eq (call : HistoryCall) (environment : UaEnvironment) :
    call.window environment =
      if (call.requestedWindow environment).2 ≤ (call.requestedWindow environment).1 then
        ((call.requestedWindow environment).1,
          max ((call.requestedWindow environment).1 + 1) (uaDateTimeToUnixNanoseconds environment.later))
      else call.requestedWindow environment := rfl

private theorem requestedWindow_start_range (call : HistoryCall) (environment : UaEnvironment) :
    0 ≤ (call.requestedWindow environment).1 ∧ (call.requestedWindow environment).1 ≤ longMax := by
  have zero : 0 ≤ (0 : Int) ∧ (0 : Int) ≤ longMax := by decide
  unfold requestedWindow
  split_ifs
  · exact zero
  · exact zero
  all_goals exact unixNanoseconds_range _

private theorem checkedRequest_eq (represented : Represented call environment) :
    call.checkedRequest environment = some (call.requestedWindow environment) := by
  obtain ⟨⟨_, start⟩, ⟨_, stop⟩, ⟨_, now⟩, _⟩ := represented
  have lower : (if call.reverse then call.stop else call.start) ≤ longMax := by split <;> assumption
  have upper : (if call.reverse then call.start else call.stop) ≤ longMax := by split <;> assumption
  unfold checkedRequest requestedWindow
  rw [checkedUnixNanoseconds_eq now, checkedUnixNanoseconds_eq start, checkedUnixNanoseconds_eq stop,
    checkedUnixNanoseconds_eq lower, checkedUnixNanoseconds_eq upper]
  simp only [Option.bind_eq_bind, Option.bind_some, Option.pure_def]
  split_ifs <;> rfl

/-- Only the last repair can overflow. -/
theorem checkedWindow_eq (represented : Represented call environment) :
    call.checkedWindow environment =
      if (call.requestedWindow environment).2 ≤ (call.requestedWindow environment).1 ∧
          (call.requestedWindow environment).1 = longMax then none
      else some (call.window environment) := by
  have range := call.requestedWindow_start_range environment
  unfold checkedWindow
  rw [checkedRequest_eq represented, checkedUnixNanoseconds_eq represented.later.2, window_eq]
  simp only [Option.bind_eq_bind, Option.bind_some, Option.pure_def]
  by_cases turned : (call.requestedWindow environment).2 ≤ (call.requestedWindow environment).1
  · by_cases saturated : (call.requestedWindow environment).1 = longMax
    · rw [if_pos turned, if_pos ⟨turned, saturated⟩, saturated]
      rfl
    · have next : longMin ≤ (call.requestedWindow environment).1 + 1 ∧
          (call.requestedWindow environment).1 + 1 ≤ longMax := by
        simp only [longMin]
        omega
      rw [if_pos turned, if_neg (fun both => saturated both.2), if_pos turned, signed64, if_pos next, Option.bind_some]
  · rw [if_neg turned, if_neg (fun both => turned both.1), if_neg turned]

private theorem window_order (call : HistoryCall) (environment : UaEnvironment) :
    (call.window environment).1 < (call.window environment).2 := by
  rw [window_eq]
  split
  · dsimp only
    omega
  · omega

theorem reverse_start {call : HistoryCall} (start : call.start ≠ longMin) (stop : call.stop ≠ longMin) :
    (if call.reverse then call.stop else call.start) = min call.start call.stop := by
  unfold reverse
  simp only [start, stop, ne_eq, not_false_eq_true, decide_true, Bool.true_and, decide_eq_true_eq]
  split <;> omega

private theorem requestedWindow_saturated_iff (call : HistoryCall) (environment : UaEnvironment) :
    (call.requestedWindow environment).1 = longMax ↔ call.start ≠ longMin ∧
      lastUaDateTime ≤ (if call.stop = longMin then call.start else min call.start call.stop) := by
  have zero : (0 : Int) ≠ longMax := by decide
  unfold requestedWindow
  by_cases start : call.start = longMin
  · by_cases stop : call.stop = longMin <;> simp [start, stop, zero]
  · by_cases stop : call.stop = longMin
    · simp [start, stop, unixNanoseconds_saturated_iff]
    · rw [reverse_start start stop]
      simp [start, stop, unixNanoseconds_saturated_iff]

/-- The bounds can be computed and stand in order, so the client does not refuse them. -/
def SoundWindow (call : HistoryCall) (environment : UaEnvironment) : Prop :=
  ∃ bounds, call.checkedWindow environment = some bounds ∧ bounds.1 < bounds.2 ∧
    ∀ ctx nodeId, (historyQuery ctx nodeId call environment).invalidRange = false

theorem soundWindow_iff_repair (represented : Represented call environment) :
    call.SoundWindow environment ↔ ¬ ((call.requestedWindow environment).2 ≤ (call.requestedWindow environment).1 ∧
      (call.requestedWindow environment).1 = longMax) := by
  unfold SoundWindow
  rw [checkedWindow_eq represented]
  have order := window_order call environment
  split
  next overflow =>
    refine iff_of_false ?_ (not_not_intro overflow)
    rintro ⟨_, impossible, _⟩
    cases impossible
  next safe =>
    have accepted (ctx nodeId) : (historyQuery ctx nodeId call environment).invalidRange = false := by
      simpa [historyQuery, HistoryRead.invalidRange] using order
    exact iff_of_true ⟨_, rfl, order, accepted⟩ safe

/-- A read has sound bounds exactly when the lower one of the given bounds, if a start is
given, comes before the last time that has a count of nanoseconds. -/
theorem soundWindow_iff (represented : Represented call environment) :
    call.SoundWindow environment ↔
      (call.start ≠ longMin →
        (if call.stop = longMin then call.start else min call.start call.stop) < lastUaDateTime) := by
  rw [soundWindow_iff_repair represented]
  -- nothing comes after a saturated start
  have last : (call.requestedWindow environment).2 ≤ longMax := by
    unfold requestedWindow
    split_ifs <;> exact (unixNanoseconds_range _).2
  have saturated := requestedWindow_saturated_iff call environment
  constructor
  · intro safe given
    by_contra late
    have full := saturated.mpr ⟨given, by omega⟩
    exact safe ⟨by omega, full⟩
  · rintro early ⟨_, full⟩
    obtain ⟨given, late⟩ := saturated.mp full
    have := early given
    omega

def demoClock : UaEnvironment := { now := 133500000000000000, later := 133500000000000010 }

theorem soundWindow_of_open_end :
    SoundWindow { start := 133400000000000000, stop := longMin, nodeId := none } demoClock :=
  (soundWindow_iff ⟨by decide, by decide, by decide, by decide⟩).mpr fun _ => by decide

/-- A start in the far future saturates, and the repair adds one to the largest value. -/
theorem far_start_overflows : ¬ ∀ (call : HistoryCall) (environment : UaEnvironment),
    Represented call environment → call.SoundWindow environment := by
  intro sound
  have represented : Represented { start := longMax, stop := longMin, nodeId := none } demoClock :=
    ⟨by decide, by decide, by decide, by decide⟩
  exact (soundWindow_iff_repair represented).mp (sound _ _ represented) (by decide)

end HistoryCall
end OpcUaAdapter
