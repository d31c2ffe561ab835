import OpcUaAdapter.Proofs.HistoryPaging
import OpcUaAdapter.Proofs.TableReading
import OpcUaAdapter.Proofs.TimestampRoundTrip

/-! The order of the values of a history read. The database answers one series after the
other, and nothing merges them. -/

namespace OpcUaAdapter

def sourceTime (value : UaDataValue) : Int := value.sourceTimestamp.getD 0

/-- What two values, one returned before the other, have to do with each other. -/
def InTurn (reverse : Bool) (before after : UaDataValue) : Prop :=
  if reverse then sourceTime after ≤ sourceTime before else sourceTime before ≤ sourceTime after

def recordTime (record : InfluxRecord) : Int := unixNanosecondsToUaDateTime record.timestampNanoseconds

private theorem uaDateTime_monotone {first second : Int} (order : first ≤ second) :
    unixNanosecondsToUaDateTime first ≤ unixNanosecondsToUaDateTime second := by
  unfold unixNanosecondsToUaDateTime
  by_cases early : first ≤ 0
  · have ticks := Int.tdiv_nonneg (b := 100) (a := max second 0) (by omega) (by decide)
    rw [if_pos early]
    split
    · exact Int.le_refl _
    · have same : max second 0 = second := by omega
      rw [same] at ticks
      omega
  · rw [if_neg early, if_neg (by omega), Int.tdiv_eq_ediv_of_nonneg (by omega), Int.tdiv_eq_ediv_of_nonneg (by omega)]
    omega

/-- The database returned these series, each by ascending time. -/
def Ascending (series : List (List InfluxRecord)) : Prop :=
  ∀ records ∈ series, records.Pairwise fun before after => before.timestampNanoseconds ≤ after.timestampNanoseconds

/-- All records of a series are as early as those of the series behind it, in ticks. -/
def SeriesInOrder (series : List (List InfluxRecord)) : Prop :=
  series.Pairwise fun earlier later => ∀ before ∈ earlier, ∀ after ∈ later, recordTime before ≤ recordTime after

instance : DecidablePred Ascending := fun series =>
  inferInstanceAs (Decidable (∀ records ∈ series, List.Pairwise _ records))

instance : DecidablePred SeriesInOrder := fun series => inferInstanceAs (Decidable (List.Pairwise _ series))

private theorem ordered_values_iff {series : List (List InfluxRecord)} (ascending : Ascending series) (call : HistoryCall) :
    ((call.arrange series.flatten).map recordDataValue).Pairwise (InTurn call.reverse) ↔ SeriesInOrder series := by
  have within : ∀ records ∈ series, records.Pairwise fun before after => recordTime before ≤ recordTime after :=
    fun records member => (ascending records member).imp uaDateTime_monotone
  have whole : series.flatten.Pairwise (fun before after => recordTime before ≤ recordTime after) ↔
      SeriesInOrder series := by
    rw [List.pairwise_flatten]
    exact and_iff_right within
  rw [← whole, List.pairwise_map]
  unfold HistoryCall.arrange
  cases turned : call.reverse with
  | true =>
    rw [if_pos rfl, List.pairwise_reverse]
    rfl
  | false =>
    rw [if_neg (by decide)]
    rfl

/-- Whatever is read of the series between two given times, in one call or in successive
pages, comes in the order of time, or in the reverse order if the end is before the start. -/
structure InTimeOrder (start stop : Int) (series : List (List InfluxRecord)) : Prop where
  call : ∀ (σ : Type) (reader : HistoryReader σ) backend (call : HistoryCall) environment client page,
    call.start = start → call.stop = stop →
      (∀ query, (reader.read query client).records = .ok series.flatten) →
        (getHistoryDataInflux reader backend call environment client).1 = .ok page →
          page.dataValues.Pairwise (InTurn call.reverse)
  pages : ∀ (σ : Type) (reader : HistoryReader σ) ctx (request : PageRequest) replies,
    request.start = start → request.stop = stop →
      (∀ query client, (reader.read query client).records = .ok series.flatten) →
        PagedRead reader ctx request replies →
          (returnedValues replies).Pairwise (InTurn (request.call none).reverse)

theorem PagedRead.last {σ : Type} {reader : HistoryReader σ} {ctx : InfluxHistoryBackendContext} {request : PageRequest}
    {replies : List PageReply} (reads : PagedRead reader ctx request replies) :
    ∃ earlier last point, replies = earlier ++ [last] ∧ last.Answers reader ctx request point := by
  cases reads with
  | first answers => exact ⟨[], _, _, rfl, answers⟩
  | next _ _ _ answers => exact ⟨_, _, _, rfl, answers⟩

theorem whole_page (start stop : Int) (records : List InfluxRecord) :
    ∃ page, (getHistoryDataInflux (demoReader records) (some demoContext)
        { start, stop, nodeId := some ⟨none⟩ } { now := 0, later := 0 } ()).1 = .ok page ∧
      page.dataValues = (HistoryCall.arrange { start, stop, nodeId := some ⟨none⟩ } records).map recordDataValue := by
  refine ⟨_, rfl, ?_⟩
  have good : (historyPage { start, stop, nodeId := some ⟨none⟩ } { now := 0, later := 0 } 0
      (HistoryCall.arrange { start, stop, nodeId := some ⟨none⟩ } records)).status = .good :=
    historyPage_status rfl rfl _ _ _
  refine (historyPage_cut rfl good).1.trans ?_
  simp [pageLimit]

/-- Values come in the order of time exactly when the series do not overlap in time. -/
theorem inTimeOrder_iff {start stop : Int} {series : List (List InfluxRecord)} (ascending : Ascending series) :
    InTimeOrder start stop series ↔ SeriesInOrder series := by
  constructor
  · intro order
    obtain ⟨page, returned, values⟩ := whole_page start stop series.flatten
    have sorted := order.call Unit _ _ _ _ _ _ rfl rfl (fun _ => rfl) returned
    rw [values] at sorted
    exact (ordered_values_iff ascending _).mp sorted
  · intro apart
    constructor
    · rintro σ reader backend call environment client page rfl rfl answers returned
      rcases getHistoryDataInflux_sublist returned with none | ⟨ctx, nodeId, records, read, cut⟩
      · rw [none]
        exact .nil
      · cases (answers _).symm.trans read
        exact ((ordered_values_iff ascending call).mpr apart).sublist cut
    · rintro σ reader ctx request replies rfl rfl answers reads
      obtain ⟨earlier, last, point, rfl, environment, client, obtained, _⟩ := reads.last
      rw [answers] at obtained
      have records : (request.call none).arrange series.flatten = last.records := Except.ok.inj obtained
      rw [reads.delivered.1, ← records]
      exact ((ordered_values_iff ascending (request.call none)).mpr apart).sublist (List.take_sublist _ _)

/-- The rows of one response, one series after the other, become the records of the series. -/
theorem series_concatenated {calendar : Calendar} {table : CsvTable} {series : List (List (List CsvCell))}
    (rows : table.rows = series.flatten)
    (timed : ∀ row ∈ table.rows, TimesConvert calendar (table.columns row) ∧ columnText "_time" (table.columns row) ≠ [])
    (carriageReturn : Bool) (client : InfluxClient) (fluxQuery : Text) (error : Option Text) {status : Int}
    (success : isSuccessStatus status = true) :
    (client.executeFluxReadQuery calendar fluxQuery error
        (.request (.answered status (responseText carriageReturn [table])))).records =
      .ok (series.map fun part => part.map fun row => recordOf calendar (table.columns row)).flatten := by
  have only : FirstTableOnly calendar table [] :=
    ⟨timed, List.forall_mem_nil _, List.forall_mem_nil _⟩
  rw [(only.read carriageReturn).records client fluxQuery error status success, List.flatMap_singleton, CsvTable.records, rows,
    List.map_flatten]

def elementRecord (time : Text) (nanoseconds : Int) (value : Text) : InfluxRecord :=
  { time, timestampNanoseconds := nanoseconds, value }

def elementSeries (value : Text) : List InfluxRecord :=
  [elementRecord "2024-01-01T00:00:00.1Z" 1704067200100000000 value,
    elementRecord "2024-01-01T00:00:00.2Z" 1704067200200000000 value]

/-- A series with another tag set, which begins at the last time of `elementSeries`. -/
def laterSeries (value : Text) : List InfluxRecord :=
  [elementRecord "2024-01-01T00:00:00.2Z" 1704067200200000000 value,
    elementRecord "2024-01-01T00:00:00.3Z" 1704067200300000000 value]

theorem following_series_in_order : InTimeOrder longMin longMin [elementSeries "1", laterSeries "2"] :=
  (inTimeOrder_iff (by decide)).mpr (by decide)

/-- The second element of an array begins again at the first time. -/
theorem elements_not_in_order :
    (InfluxClient.executeFluxReadQuery { config := {} } newYearCalendar [] none (.request (.answered 200
        ",_time,_value,index\n,2024-01-01T00:00:00.1Z,1,0\n,2024-01-01T00:00:00.2Z,1,0\n,2024-01-01T00:00:00.1Z,2,1\n,2024-01-01T00:00:00.2Z,2,1\n"
      ))).records = .ok [elementSeries "1", elementSeries "2"].flatten ∧
    ¬ ∀ (start stop : Int) (series : List (List InfluxRecord)), Ascending series → InTimeOrder start stop series := by
  refine ⟨by decide +kernel, fun claim => ?_⟩
  obtain ⟨page, returned, values⟩ := whole_page longMin longMin [elementSeries "1", elementSeries "2"].flatten
  have sorted := (claim longMin longMin [elementSeries "1", elementSeries "2"] (by decide)).call Unit _ _ _ _ _ _ rfl rfl
    (fun _ => rfl) returned
  rw [values] at sorted
  exact absurd ((ordered_values_iff (by decide) _).mp sorted) (by decide)

end OpcUaAdapter
