import OpcUaAdapter.Proofs.HistoryPaging
import OpcUaAdapter.Proofs.HistoryWindow

/-! The times of the values a history read returns, against the two times it was asked
for. The repair of an empty range asks for everything up to now. -/

namespace OpcUaAdapter

/-- The database returns records whose time lies in the range that the query names. -/
def HistoryReader.InRange {σ : Type} (reader : HistoryReader σ) : Prop :=
  ∀ startNanoseconds stopNanoseconds field tags client records,
    (reader.read (.readRangeUnixNanoseconds startNanoseconds stopNanoseconds field tags) client).records = .ok records →
      ∀ record ∈ records, startNanoseconds ≤ record.timestampNanoseconds ∧ record.timestampNanoseconds < stopNanoseconds

/-- Every count from the start on and before the end is a time between the two bounds. -/
def Inside (window : Int × Int) (lower upper : Int) : Prop :=
  ∀ nanoseconds, window.1 ≤ nanoseconds → nanoseconds < window.2 →
    lower ≤ unixNanosecondsToUaDateTime nanoseconds ∧ unixNanosecondsToUaDateTime nanoseconds ≤ upper

private theorem uaDateTime_cases {nanoseconds : Int} (positive : 0 ≤ nanoseconds) :
    unixNanosecondsToUaDateTime nanoseconds = unixEpoch + nanoseconds / 100 := by
  unfold unixNanosecondsToUaDateTime
  rw [Int.tdiv_eq_ediv_of_nonneg positive]
  split <;> omega

theorem inside_of_order {lower upper : Int}
    (order : uaDateTimeToUnixNanoseconds lower < uaDateTimeToUnixNanoseconds upper) :
    Inside (uaDateTimeToUnixNanoseconds lower, uaDateTimeToUnixNanoseconds upper) lower upper := by
  intro nanoseconds start stop
  dsimp only at start stop
  rw [uaDateTime_cases (Int.le_trans (unixNanoseconds_range lower).1 start)]
  unfold uaDateTimeToUnixNanoseconds at *
  unfold unixEpoch at *
  constructor
  · split_ifs at start order <;> omega
  · split_ifs at stop order <;> omega

private theorem order_iff (lower upper : Int) :
    uaDateTimeToUnixNanoseconds lower < uaDateTimeToUnixNanoseconds upper ↔
      lower < upper ∧ unixEpoch < upper ∧ lower < lastUaDateTime := by
  unfold uaDateTimeToUnixNanoseconds lastUaDateTime unixEpoch longMax
  split_ifs <;> omega

theorem repaired_inside_iff {lower upper later : Int} (order : lower ≤ upper) (early : lower < lastUaDateTime)
    (empty : uaDateTimeToUnixNanoseconds upper ≤ uaDateTimeToUnixNanoseconds lower) (running : unixEpoch < later) :
    Inside (uaDateTimeToUnixNanoseconds lower,
        max (uaDateTimeToUnixNanoseconds lower + 1) (uaDateTimeToUnixNanoseconds later)) lower upper ↔
      unixEpoch ≤ upper ∧ later ≤ upper + 1 ∧ later < lastUaDateTime := by
  have positive := (unixNanoseconds_range lower).1
  constructor
  · intro inside
    -- the first and the last count of the range
    have first := (inside (uaDateTimeToUnixNanoseconds lower) (Int.le_refl _) (by dsimp only; omega)).2
    have last := (inside (max (uaDateTimeToUnixNanoseconds lower + 1) (uaDateTimeToUnixNanoseconds later) - 1)
      (by dsimp only; omega) (by dsimp only; omega)).2
    rw [uaDateTime_cases positive] at first
    rw [uaDateTime_cases (by omega)] at last
    unfold uaDateTimeToUnixNanoseconds at *
    unfold lastUaDateTime unixEpoch longMax at *
    split_ifs at * <;> omega
  · rintro ⟨epoch, clock, unsaturated⟩ nanoseconds start stop
    dsimp only at start stop
    rw [uaDateTime_cases (Int.le_trans positive start)]
    unfold uaDateTimeToUnixNanoseconds at *
    unfold lastUaDateTime unixEpoch longMax at *
    split_ifs at * <;> omega

namespace HistoryCall

variable {call : HistoryCall} {environment : UaEnvironment}

private theorem requestedWindow_given (start : call.start ≠ longMin) (stop : call.stop ≠ longMin)
    (environment : UaEnvironment) :
    call.requestedWindow environment = (uaDateTimeToUnixNanoseconds (min call.start call.stop),
      uaDateTimeToUnixNanoseconds (max call.start call.stop)) := by
  have last : (if call.reverse then call.start else call.stop) = max call.start call.stop := by
    unfold reverse
    simp only [start, stop, ne_eq, not_false_eq_true, decide_true, Bool.true_and, decide_eq_true_eq]
    split <;> omega
  unfold requestedWindow
  rw [if_neg (fun both => start both.1), if_neg start, if_neg stop, reverse_start start stop, last]

theorem window_inside_iff (represented : Represented call environment) (start : call.start ≠ longMin)
    (stop : call.stop ≠ longMin) :
    (∃ bounds, call.checkedWindow environment = some bounds ∧
        Inside bounds (min call.start call.stop) (max call.start call.stop)) ↔
      (min call.start call.stop < max call.start call.stop ∧ unixEpoch < max call.start call.stop ∧
          min call.start call.stop < lastUaDateTime) ∨
        (unixEpoch ≤ max call.start call.stop ∧ min call.start call.stop < lastUaDateTime ∧
          environment.later ≤ max call.start call.stop + 1 ∧ environment.later < lastUaDateTime) := by
  have saturated := unixNanoseconds_saturated_iff (min call.start call.stop)
  have order := order_iff (min call.start call.stop) (max call.start call.stop)
  have sorted : min call.start call.stop ≤ max call.start call.stop := by omega
  rw [checkedWindow_eq represented, window_eq, requestedWindow_given start stop environment]
  dsimp only
  by_cases filled : uaDateTimeToUnixNanoseconds (min call.start call.stop) <
      uaDateTimeToUnixNanoseconds (max call.start call.stop)
  · rw [if_neg (by omega), if_neg (by omega)]
    exact iff_of_true ⟨_, rfl, inside_of_order filled⟩ (.inl (order.mp filled))
  · have empty := Int.not_lt.mp filled
    by_cases late : lastUaDateTime ≤ min call.start call.stop
    · rw [if_pos ⟨empty, saturated.mpr late⟩]
      apply iff_of_false
      · rintro ⟨_, impossible, _⟩
        cases impossible
      · omega
    · rw [if_neg (fun both => late (saturated.mp both.2)), if_pos empty]
      have repaired := repaired_inside_iff sorted (Int.not_le.mp late) empty represented.later.1
      simp only [Option.some.injEq, exists_eq_left', repaired]
      constructor
      · rintro ⟨epoch, clock, unsaturated⟩
        exact .inr ⟨epoch, Int.not_le.mp late, clock, unsaturated⟩
      · rintro (ordered | ⟨epoch, _, clock, unsaturated⟩)
        · exact absurd (order.mpr ordered) filled
        · exact ⟨epoch, clock, unsaturated⟩

private theorem checkedWindow_some (represented : Represented call environment) {bounds : Int × Int}
    (checked : call.checkedWindow environment = some bounds) : bounds = call.window environment := by
  rw [checkedWindow_eq represented] at checked
  split at checked
  · cases checked
  · exact (Option.some.inj checked).symm

private theorem mem_arrange {record : InfluxRecord} {records : List InfluxRecord} :
    record ∈ call.arrange records ↔ record ∈ records := by
  unfold arrange
  split
  · exact List.mem_reverse
  · exact Iff.rfl

end HistoryCall

/-- Whatever else is asked for, the range can be computed, and the values that are returned
have source timestamps from the earlier to the later one of the two bounds. -/
def ReturnsWithin (start stop now later : Int) : Prop :=
  ∀ (call : HistoryCall) (environment : UaEnvironment), call.start = start → call.stop = stop →
    environment.now = now → environment.later = later →
      (call.checkedWindow environment).isSome ∧
        ∀ (σ : Type) (reader : HistoryReader σ), reader.InRange → ∀ backend client page,
          (getHistoryDataInflux reader backend call environment client).1 = .ok page →
            ∀ value ∈ page.dataValues, ∃ time, value.sourceTimestamp = some time ∧
              min start stop ≤ time ∧ time ≤ max start stop

def recordReader (record : InfluxRecord) : HistoryReader Unit where
  read query client :=
    match query with
    | .readRangeUnixNanoseconds startNanoseconds stopNanoseconds _ _ =>
      { records := .ok (if startNanoseconds ≤ record.timestampNanoseconds ∧ record.timestampNanoseconds < stopNanoseconds
          then [record] else [])
        client }
    | .readRange _ _ => { records := .ok [], client }

private theorem recordReader_inRange (record : InfluxRecord) : (recordReader record).InRange := by
  intro startNanoseconds stopNanoseconds field tags client records read other member
  cases read
  split at member
  next inside => exact List.mem_singleton.mp member ▸ inside
  next => cases member

def boundsCall (start stop : Int) : HistoryCall := { start, stop, nodeId := some ⟨none⟩ }

def boundsContext : InfluxHistoryBackendContext :=
  { influxFieldName := [], nodeIdTagName := [], engineeringUnit := [], host := [], applicationName := [], port := 0 }

theorem record_returned {start stop : Int} {environment : UaEnvironment} (allocated : environment.arrayAllocated = true)
    {record : InfluxRecord}
    (first : ((boundsCall start stop).window environment).1 ≤ record.timestampNanoseconds)
    (last : record.timestampNanoseconds < ((boundsCall start stop).window environment).2) :
    (getHistoryDataInflux (recordReader record) (some boundsContext) (boundsCall start stop) environment ()).1 =
      .ok { status := .good, dataValues := [recordDataValue record], accessed := [0] } := by
  have arranged : (boundsCall start stop).arrange [record] = [record] := by
    unfold HistoryCall.arrange
    split <;> rfl
  have returned : (getHistoryDataInflux (recordReader record) (some boundsContext) (boundsCall start stop) environment
      ()).1 = .ok (historyPage (boundsCall start stop) environment 0 ((boundsCall start stop).arrange
        (if ((boundsCall start stop).window environment).1 ≤ record.timestampNanoseconds ∧
            record.timestampNanoseconds < ((boundsCall start stop).window environment).2 then [record] else []))) := rfl
  rw [returned, if_pos ⟨first, last⟩, arranged]
  simp [historyPage, pageLimit, boundsCall, allocated]

private theorem mem_returned {σ : Type} {reader : HistoryReader σ} (inRange : reader.InRange)
    {backend : Option InfluxHistoryBackendContext} {call : HistoryCall} {environment : UaEnvironment} {client : σ}
    {page : HistoryPage} (returned : (getHistoryDataInflux reader backend call environment client).1 = .ok page)
    {value : UaDataValue} (member : value ∈ page.dataValues) :
    ∃ nanoseconds, value.sourceTimestamp = some (unixNanosecondsToUaDateTime nanoseconds) ∧
      (call.window environment).1 ≤ nanoseconds ∧ nanoseconds < (call.window environment).2 := by
  rcases getHistoryDataInflux_sublist returned with none | ⟨ctx, nodeId, records, read, cut⟩
  · rw [none] at member
    cases member
  · obtain ⟨record, arranged, rfl⟩ := List.mem_map.mp (cut.subset member)
    have inside := inRange _ _ _ _ _ _ read record (HistoryCall.mem_arrange.mp arranged)
    exact ⟨record.timestampNanoseconds, rfl, inside⟩

/-- A read of two given bounds stays between them exactly when they are in a range that is
not repaired, or the repair reaches at most to the next tick. -/
theorem returnsWithin_iff {start stop now later : Int}
    (represented : HistoryCall.Represented (boundsCall start stop) { now, later }) (starts : start ≠ longMin)
    (stops : stop ≠ longMin) :
    ReturnsWithin start stop now later ↔
      (min start stop < max start stop ∧ unixEpoch < max start stop ∧ min start stop < lastUaDateTime) ∨
        (unixEpoch ≤ max start stop ∧ min start stop < lastUaDateTime ∧ later ≤ max start stop + 1 ∧
          later < lastUaDateTime) := by
  constructor
  · intro within
    obtain ⟨computed, values⟩ := within (boundsCall start stop) { now, later } rfl rfl rfl rfl
    obtain ⟨bounds, checked⟩ := Option.isSome_iff_exists.mp computed
    apply (HistoryCall.window_inside_iff represented starts stops).mp
    refine ⟨bounds, checked, fun nanoseconds first last => ?_⟩
    rw [HistoryCall.checkedWindow_some represented checked] at first last
    obtain ⟨time, same, order⟩ := values Unit (recordReader { timestampNanoseconds := nanoseconds })
      (recordReader_inRange _) (some boundsContext) () _ (record_returned rfl first last) _ List.mem_cons_self
    cases same
    exact order
  · rintro condition call environment rfl rfl rfl rfl
    have same : HistoryCall.Represented call environment := ⟨represented.1, represented.2, represented.3, represented.4⟩
    obtain ⟨bounds, checked, inside⟩ := (HistoryCall.window_inside_iff same starts stops).mpr condition
    refine ⟨by rw [checked]; rfl, fun σ reader inRange backend client page returned value member => ?_⟩
    obtain ⟨nanoseconds, stamped, first, last⟩ := mem_returned inRange returned member
    rw [← HistoryCall.checkedWindow_some same checked] at first last
    exact ⟨_, stamped, inside nanoseconds first last⟩

/-- Two bounds in the year 2023, the later one first. -/
theorem reversed_read_within :
    ReturnsWithin 133400000000000000 133300000000000000 133500000000000000 133500000000000010 :=
  (returnsWithin_iff ⟨by decide, by decide, by decide, by decide⟩ (by decide) (by decide)).mpr (.inl (by decide))

/-- Of equal bounds the range goes up to now. -/
theorem equal_bounds_exceeded : ¬ ∀ start stop now later : Int,
    HistoryCall.Represented (boundsCall start stop) { now, later } → start ≠ longMin → stop ≠ longMin →
      ReturnsWithin start stop now later := by
  intro claim
  have within := claim 133400000000000000 133400000000000000 133500000000000000 133500000000000010
    ⟨by decide, by decide, by decide, by decide⟩ (by decide) (by decide)
  obtain ⟨_, values⟩ := within (boundsCall 133400000000000000 133400000000000000)
    { now := 133500000000000000, later := 133500000000000010 } rfl rfl rfl rfl
  obtain ⟨time, same, _, last⟩ := values Unit (recordReader { timestampNanoseconds := 1700000000000000000 })
    (recordReader_inRange _) (some boundsContext) () _ (record_returned rfl (by decide) (by decide)) _ List.mem_cons_self
  cases same
  exact absurd last (by decide)

end OpcUaAdapter
