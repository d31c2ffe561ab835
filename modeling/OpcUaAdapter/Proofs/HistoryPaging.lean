import OpcUaAdapter.HistoryAccess
import OpcUaAdapter.Library.Paging
import OpcUaAdapter.Proofs.ArrayHistory

/-! Successive reads with continuation points. The offset survives its way through the
client as eight bytes, and each answer is a cut of the records as they are then. -/

namespace OpcUaAdapter

universe u

private theorem bytesSize_digits (count offset : Nat) :
    bytesSize ((List.range count).map fun i => UInt8.ofNat (offset / 256 ^ i)) = offset % 256 ^ count := by
  induction count generalizing offset with
  | zero => simp [bytesSize, Nat.mod_one]
  | succ count ih =>
    have higher := ih (offset / 256)
    rw [bytesSize] at higher
    have shift : (fun i => UInt8.ofNat (offset / 256 ^ i)) ∘ Nat.succ =
        fun i => UInt8.ofNat (offset / 256 / 256 ^ i) := by
      funext i
      simp only [Function.comp_apply, Nat.pow_succ', Nat.div_div_eq_div_mul]
    rw [List.range_succ_eq_map, List.map_cons, List.map_map, shift, bytesSize, List.foldr_cons, higher]
    simp only [Nat.pow_zero, Nat.div_one, UInt8.toNat_ofNat', Nat.reducePow]
    rw [Nat.pow_succ', Nat.mod_mul]

private theorem bytesSize_sizeBytes {offset : Nat} (fits : offset < 2 ^ 64) : bytesSize (sizeBytes offset) = offset := by
  rw [sizeBytes, bytesSize_digits]
  exact Nat.mod_eq_of_lt fits

private theorem parseContinuationPointOffset_written {offset : Nat} (fits : offset < 2 ^ 64) :
    parseContinuationPointOffset (some { bytes := sizeBytes offset }) = .ok offset := by
  have size : (sizeBytes offset).length = 8 := by simp [sizeBytes]
  simp [parseContinuationPointOffset, size, bytesSize_sizeBytes fits]

theorem pageLimit_le (call : HistoryCall) (remaining : Nat) : pageLimit call remaining ≤ remaining := by
  unfold pageLimit
  dsimp only
  split <;> split <;> omega

theorem pageLimit_pos (call : HistoryCall) {remaining : Nat} (some : 0 < remaining) : 0 < pageLimit call remaining := by
  unfold pageLimit
  dsimp only
  split <;> split <;> omega

private theorem historyPage_accessed (call : HistoryCall) (environment : UaEnvironment) (skip : Nat)
    (records : List InfluxRecord) :
    ∀ index ∈ (historyPage call environment skip records).accessed, index < records.length := by
  have within := pageLimit_le call (records.length - skip)
  have range {index : Nat} (read : index ∈ (List.range (pageLimit call (records.length - skip))).map (skip + ·)) :
      index < records.length := by
    obtain ⟨i, inside, rfl⟩ := List.mem_map.mp read
    have := List.mem_range.mp inside
    omega
  intro index read
  unfold historyPage at read
  split at read
  · cases read
  dsimp only at read
  split at read
  · cases read
  split at read
  · cases read
  split at read
  · split at read
    · exact range read
    · exact range read
  · exact range read

private theorem HistoryCall.arrange_length (call : HistoryCall) (records : List InfluxRecord) :
    (call.arrange records).length = records.length := by
  unfold HistoryCall.arrange
  split <;> simp

private theorem pageValues_eq {records : List InfluxRecord} {skip limit : Nat} (within : limit ≤ records.length - skip) :
    ((List.range limit).map (skip + ·)).map (fun i => recordDataValue (records.getD i {})) =
      ((records.map recordDataValue).drop skip).take limit := by
  apply List.ext_getElem
  · simp [within]
  · intro i first second
    have inside : skip + i < records.length := by
      have : i < limit := by simpa using first
      omega
    simp [List.getElem?_eq_getElem inside]

theorem historyPage_sublist (call : HistoryCall) (environment : UaEnvironment) (skip : Nat) (records : List InfluxRecord) :
    (historyPage call environment skip records).dataValues.Sublist (records.map recordDataValue) := by
  have values := pageValues_eq (pageLimit_le call (records.length - skip))
  have cut : (((List.range (pageLimit call (records.length - skip))).map (skip + ·)).map
      fun i => recordDataValue (records.getD i {})).Sublist (records.map recordDataValue) :=
    values ▸ (List.take_sublist _ _).trans (List.drop_sublist _ _)
  unfold historyPage
  dsimp only
  split
  · exact List.nil_sublist _
  split
  · exact List.nil_sublist _
  split
  · exact List.nil_sublist _
  split
  · split
    · exact cut
    · exact List.nil_sublist _
  · exact cut

/-- A successful page is a cut of the values, and the offset in its continuation point is the one after it. -/
theorem historyPage_cut {call : HistoryCall} {environment : UaEnvironment} {skip : Nat} {records : List InfluxRecord}
    (asked : call.hasOutContinuationPoint = true) (good : (historyPage call environment skip records).status = .good) :
    let page := historyPage call environment skip records
    page.dataValues = ((records.map recordDataValue).drop skip).take (pageLimit call (records.length - skip)) ∧
      page.outContinuationPoint =
        if skip + pageLimit call (records.length - skip) < records.length then
          some { bytes := sizeBytes (skip + pageLimit call (records.length - skip)) }
        else none := by
  have within := pageLimit_le call (records.length - skip)
  have values := pageValues_eq within
  unfold historyPage at good ⊢
  split at good
  next past =>
    have none : pageLimit call (records.length - skip) = 0 := by omega
    rw [if_pos past, none, if_neg (by omega)]
    simp
  next inside =>
    have some := pageLimit_pos call (Nat.sub_pos_of_lt (Nat.lt_of_not_le inside))
    rw [if_neg inside]
    dsimp only at good ⊢
    rw [if_neg (by omega)] at good ⊢
    split at good
    next => cases good
    next allocated =>
      rw [if_neg allocated]
      simp only [asked, Bool.and_true, decide_eq_true_eq] at good ⊢
      split at good
      next more =>
        split at good
        next written => rw [if_pos more, if_pos more, if_pos written]; exact ⟨values, rfl⟩
        next => cases good
      next last => rw [if_neg last, if_neg last]; exact ⟨values, rfl⟩

/-- A read of one node, without a continuation point. -/
structure PageRequest where
  start : Int
  stop : Int
  nodeId : UaNodeId
  maxSizePerResponse : Nat
  numValuesPerNode : Nat

def PageRequest.call (request : PageRequest) (continuationPoint : Option UaByteString) : HistoryCall :=
  { start := request.start
    stop := request.stop
    nodeId := some request.nodeId
    maxSizePerResponse := request.maxSizePerResponse
    numValuesPerNode := request.numValuesPerNode
    continuationPoint }

/-- The records one call obtained, in the order in which it returns them, and its page. -/
structure PageReply where
  records : List InfluxRecord
  page : HistoryPage

def PageReply.answer (reply : PageReply) : Paging.Answer UaDataValue :=
  { items := reply.records.map recordDataValue
    page := reply.page.dataValues
    next := reply.page.outContinuationPoint.map fun point => bytesSize point.bytes }

def returnedValues (replies : List PageReply) : List UaDataValue := replies.flatMap fun reply => reply.page.dataValues

section Pages
variable {σ : Type u} (reader : HistoryReader σ) (ctx : InfluxHistoryBackendContext) (request : PageRequest)

/-- The call meets some client and clock, and is answered without an error. The vector
of records has a size that a `size_t` can tell. -/
def PageReply.Answers (point : Option UaByteString) (reply : PageReply) : Prop :=
  ∃ environment client,
    (reader.read (historyQuery ctx request.nodeId (request.call point) environment) client).records.map
        (request.call point).arrange = .ok reply.records ∧
      (getHistoryDataInflux reader (some ctx) (request.call point) environment client).1 = .ok reply.page ∧
      reply.page.status = .good ∧ reply.records.length < 2 ^ 64

/-- Successive calls, each with the continuation point of the answer before it, while records are appended. -/
inductive PagedRead : List PageReply → Prop where
  | first {reply} (answers : reply.Answers reader ctx request none) : PagedRead [reply]
  | next {earlier last reply point} (reads : PagedRead (earlier ++ [last]))
      (given : last.page.outContinuationPoint = some point) (grown : last.records <+: reply.records)
      (answers : reply.Answers reader ctx request (some point)) : PagedRead (earlier ++ [last] ++ [reply])

variable {reader ctx request}

theorem getHistoryDataInflux_call {point : Option UaByteString} {skip : Nat}
    (offset : parseContinuationPointOffset point = .ok skip) (environment : UaEnvironment) (client : σ) :
    let answer := reader.read (historyQuery ctx request.nodeId (request.call point) environment) client
    getHistoryDataInflux reader (some ctx) (request.call point) environment client =
      (answer.records.map fun records =>
        if answer.readError.isEmpty then
          historyPage (request.call point) environment skip ((request.call point).arrange records)
        else { status := .badInternalError }, answer.client) := by
  simp only [getHistoryDataInflux, PageRequest.call, Bool.not_true, Bool.false_eq_true, ite_false, offset]

theorem PageReply.Answers.cut {point : Option UaByteString} {reply : PageReply} {skip : Nat}
    (answers : reply.Answers reader ctx request point) (offset : parseContinuationPointOffset point = .ok skip) :
    reply.answer.Cut skip ∧
      ∀ next ∈ reply.page.outContinuationPoint, ∃ offset < 2 ^ 64, next = { bytes := sizeBytes offset } := by
  obtain ⟨environment, client, obtained, answered, good, fits⟩ := answers
  have page : reply.page = historyPage (request.call point) environment skip reply.records := by
    rw [getHistoryDataInflux_call offset] at answered
    dsimp only at answered
    generalize reader.read (historyQuery ctx request.nodeId (request.call point) environment) client = answer at *
    cases read : answer.records with
    | error exception => rw [read] at obtained; cases obtained
    | ok records =>
      simp only [read, Except.map, Except.ok.injEq] at obtained answered
      split at answered
      next => rw [← answered, ← obtained]
      next => rw [← answered] at good; cases good
  obtain ⟨values, next⟩ := historyPage_cut rfl (page ▸ good)
  rw [← page] at values next
  have within := pageLimit_le (request.call point) (reply.records.length - skip)
  have size : reply.page.dataValues.length = pageLimit (request.call point) (reply.records.length - skip) := by
    rw [values]
    simp [within]
  refine ⟨⟨⟨_, values⟩, ?_, ?_⟩, ?_⟩
  · intro more empty
    have inside : skip < reply.records.length := by simpa [PageReply.answer] using more
    have some := pageLimit_pos (request.call point) (Nat.sub_pos_of_lt inside)
    rw [show reply.page.dataValues = [] from empty, List.length_nil] at size
    omega
  · simp only [PageReply.answer, List.length_map, size, next]
    split
    next more => simp only [Option.map_some, bytesSize_sizeBytes (Nat.lt_trans more fits)]
    next => rfl
  · intro point given
    rw [next] at given
    split at given
    next more => cases given; exact ⟨_, Nat.lt_trans more fits, rfl⟩
    next => cases given

theorem PagedRead.reads {replies : List PageReply} (reads : PagedRead reader ctx request replies) :
    Paging.Reads (replies.map PageReply.answer) ∧
      ∀ reply ∈ replies, ∀ next ∈ reply.page.outContinuationPoint,
        ∃ offset < 2 ^ 64, next = { bytes := sizeBytes offset } := by
  induction reads with
  | first answers =>
    obtain ⟨cut, written⟩ := answers.cut rfl
    exact ⟨.first cut, by simpa using written⟩
  | @next earlier last reply point _ given grown answers ih =>
    obtain ⟨reads, written⟩ := ih
    obtain ⟨offset, fits, rfl⟩ := written last (by simp) point given
    obtain ⟨cut, writes⟩ := answers.cut (parseContinuationPointOffset_written fits)
    have named : last.answer.next = some offset := by
      simp only [PageReply.answer, given, Option.map_some, bytesSize_sizeBytes fits]
    refine ⟨?_, ?_⟩
    · rw [List.map_append, List.map_append] at *
      exact .next reads named (grown.map _) cut
    · intro other member
      rcases List.mem_append.mp member with old | new
      · exact written other old
      · cases List.mem_singleton.mp new
        exact writes

theorem PagedRead.delivered {earlier : List PageReply} {last : PageReply}
    (reads : PagedRead reader ctx request (earlier ++ [last])) :
    returnedValues (earlier ++ [last]) =
        (last.records.map recordDataValue).take (returnedValues (earlier ++ [last])).length ∧
      (last.page.outContinuationPoint.isSome ↔ (returnedValues (earlier ++ [last])).length < last.records.length) ∧
      (earlier ++ [last]).length ≤ max 1 last.records.length ∧
      (last.page.outContinuationPoint = none →
        returnedValues (earlier ++ [last]) = last.records.map recordDataValue) := by
  obtain ⟨front, final, split, sound⟩ := reads.reads.1.delivered
  rw [List.map_append] at split
  obtain ⟨-, same⟩ := List.append_inj' split rfl
  cases same
  have values : Paging.delivered ((earlier ++ [last]).map PageReply.answer) = returnedValues (earlier ++ [last]) := by
    simp [Paging.delivered, returnedValues, PageReply.answer, List.flatMap_map]
  have next := sound.next
  have calls := sound.length_le
  have complete := sound.complete
  have start := sound.front
  rw [values] at start next complete
  simp only [PageReply.answer, List.length_map] at start next calls complete
  refine ⟨start, ?_, calls, ?_⟩
  · rw [← Option.isSome_map, next]
    split
    next more => simpa using more
    next all => simpa using all
  · intro ended
    exact complete (by rw [ended]; rfl)

/-- Whatever a read returns are values of the records it was answered with, in their order. -/
theorem getHistoryDataInflux_sublist {backend : Option InfluxHistoryBackendContext} {call : HistoryCall}
    {environment : UaEnvironment} {client : σ} {page : HistoryPage}
    (returned : (getHistoryDataInflux reader backend call environment client).1 = .ok page) :
    page.dataValues = [] ∨ ∃ ctx nodeId records,
      (reader.read (historyQuery ctx nodeId call environment) client).records = .ok records ∧
        page.dataValues.Sublist ((call.arrange records).map recordDataValue) := by
  unfold getHistoryDataInflux at returned
  split at returned
  next ctx nodeId _ =>
    split at returned
    · cases returned
      exact .inl rfl
    split at returned
    · cases returned
      exact .inl rfl
    split at returned
    · cases returned
      exact .inl rfl
    · dsimp only at returned
      cases read : (reader.read (historyQuery ctx nodeId call environment) client).records with
      | error exception => rw [read] at returned; cases returned
      | ok records =>
        rw [read] at returned
        cases returned
        split
        · exact .inr ⟨ctx, nodeId, records, read, historyPage_sublist _ _ _ _⟩
        · exact .inl rfl
  next => cases returned; exact .inl rfl

private theorem getHistoryDataInflux_accessed {call : HistoryCall} {environment : UaEnvironment} {client : σ}
    {page : HistoryPage} (answered : (getHistoryDataInflux reader (some ctx) call environment client).1 = .ok page) :
    ∀ index ∈ page.accessed, ∃ nodeId records, call.nodeId = some nodeId ∧
      (reader.read (historyQuery ctx nodeId call environment) client).records = .ok records ∧
      index < records.length := by
  intro index read
  unfold getHistoryDataInflux at answered
  split at answered
  next ctx' nodeId connected named =>
    cases connected
    split at answered
    · cases answered; cases read
    split at answered
    · cases answered; cases read
    split at answered
    · cases answered; cases read
    next skip _ =>
      dsimp only at answered
      cases obtained : (reader.read (historyQuery ctx nodeId call environment) client).records with
      | error exception => rw [obtained] at answered; cases answered
      | ok records =>
        refine ⟨nodeId, records, named, obtained, ?_⟩
        rw [obtained] at answered
        simp only [Except.map, Except.ok.injEq] at answered
        split at answered
        next =>
          have inside := historyPage_accessed call environment skip (call.arrange records) index (answered ▸ read)
          rwa [HistoryCall.arrange_length] at inside
        next => rw [← answered] at read; cases read
  next => cases answered; cases read

/-- The client delivers the same records in every call, and memory is not short. -/
structure Steady (reader : HistoryReader σ) (ctx : InfluxHistoryBackendContext) (request : PageRequest)
    (environment : UaEnvironment) (client : σ) (raw : List InfluxRecord) : Prop where
  records : (reader.read (historyQuery ctx request.nodeId (request.call none) environment) client).records = .ok raw
  error : (reader.read (historyQuery ctx request.nodeId (request.call none) environment) client).readError = []
  fits : raw.length < 2 ^ 64
  array : environment.arrayAllocated = true
  point : environment.pointAllocated = true

theorem historyPage_status {environment : UaEnvironment} (array : environment.arrayAllocated = true)
    (point : environment.pointAllocated = true) (call : HistoryCall) (skip : Nat) (records : List InfluxRecord) :
    (historyPage call environment skip records).status = .good := by
  unfold historyPage
  simp only [array, point, Bool.not_true, Bool.false_eq_true, ite_false, ite_true]
  repeat' split
  all_goals rfl

theorem Steady.answers {environment : UaEnvironment} {client : σ} {raw : List InfluxRecord}
    (steady : Steady reader ctx request environment client raw) {point : Option UaByteString} {skip : Nat}
    (offset : parseContinuationPointOffset point = .ok skip) :
    ∃ reply : PageReply, reply.Answers reader ctx request point ∧
      reply.records = (request.call none).arrange raw := by
  refine ⟨⟨(request.call none).arrange raw, historyPage (request.call point) environment skip
    ((request.call point).arrange raw)⟩, ⟨environment, client, ?_, ?_, ?_, ?_⟩, rfl⟩
  · exact congrArg (Except.map _) steady.records
  · have records := steady.records
    have error := steady.error
    rw [getHistoryDataInflux_call offset]
    change (Except.map _ (reader.read (historyQuery ctx request.nodeId (request.call none) environment) client).records)
      = _
    rw [records]
    change Except.ok (if (reader.read (historyQuery ctx request.nodeId (request.call none) environment)
      client).readError.isEmpty then _ else _) = _
    rw [error]
    rfl
  · exact historyPage_status steady.array steady.point _ _ _
  · rw [HistoryCall.arrange_length]
    exact steady.fits

theorem Steady.extends {environment : UaEnvironment} {client : σ} {raw : List InfluxRecord}
    (steady : Steady reader ctx request environment client raw) {earlier : List PageReply} {last : PageReply}
    (reads : PagedRead reader ctx request (earlier ++ [last])) (same : last.records = (request.call none).arrange raw)
    {point : UaByteString} (given : last.page.outContinuationPoint = some point) :
    ∃ reply, PagedRead reader ctx request (earlier ++ [last] ++ [reply]) ∧
      reply.records = (request.call none).arrange raw ∧ (earlier ++ [last]).length + 1 ≤ max 1 raw.length := by
  obtain ⟨offset, fits, rfl⟩ := reads.reads.2 last (by simp) point given
  obtain ⟨reply, answers, records⟩ := steady.answers (parseContinuationPointOffset_written fits)
  have grown : last.records <+: reply.records := by rw [same, records]
  have next := PagedRead.next reads given grown answers
  have calls := next.delivered.2.2.1
  rw [records, HistoryCall.arrange_length, List.length_append, List.length_singleton] at calls
  exact ⟨reply, next, records, calls⟩

/-- While the last answer has a continuation point there is a next one, and there are only finitely many. -/
theorem Steady.ends {environment : UaEnvironment} {client : σ} {raw : List InfluxRecord}
    (steady : Steady reader ctx request environment client raw) (remaining : Nat) {earlier : List PageReply}
    {last : PageReply} (reads : PagedRead reader ctx request (earlier ++ [last]))
    (same : last.records = (request.call none).arrange raw)
    (enough : max 1 raw.length - (earlier ++ [last]).length ≤ remaining) :
    ∃ earlier last, PagedRead reader ctx request (earlier ++ [last]) ∧ last.page.outContinuationPoint = none ∧
      last.records = (request.call none).arrange raw := by
  induction remaining generalizing earlier last with
  | zero =>
    cases given : last.page.outContinuationPoint with
    | none => exact ⟨earlier, last, reads, given, same⟩
    | some point =>
      obtain ⟨reply, next, _, calls⟩ := steady.extends reads same given
      omega
  | succ remaining ih =>
    cases given : last.page.outContinuationPoint with
    | none => exact ⟨earlier, last, reads, given, same⟩
    | some point =>
      obtain ⟨reply, next, kept, _⟩ := steady.extends reads same given
      refine ih next kept ?_
      rw [List.length_append, List.length_singleton]
      omega

/-- The pages are the records in order, a continuation point means that records remain, and
reading unchanged records ends after finitely many calls with all of them. Whatever
continuation point a client makes up, no record outside the vector is read. -/
theorem history_pages (reader : HistoryReader σ) (ctx : InfluxHistoryBackendContext) (request : PageRequest) :
    (∀ earlier last, PagedRead reader ctx request (earlier ++ [last]) →
        returnedValues (earlier ++ [last]) <+: last.records.map recordDataValue ∧
          (last.page.outContinuationPoint.isSome ↔
            (returnedValues (earlier ++ [last])).length < last.records.length) ∧
          (earlier ++ [last]).length ≤ max 1 last.records.length ∧
          (last.page.outContinuationPoint = none →
            returnedValues (earlier ++ [last]) = last.records.map recordDataValue)) ∧
      (∀ environment client raw, Steady reader ctx request environment client raw →
        ∃ earlier last, PagedRead reader ctx request (earlier ++ [last]) ∧ last.page.outContinuationPoint = none ∧
          returnedValues (earlier ++ [last]) = ((request.call none).arrange raw).map recordDataValue) ∧
      ∀ call environment client page, (getHistoryDataInflux reader (some ctx) call environment client).1 = .ok page →
        page.status = .badContinuationPointInvalid ∨
          ∀ index ∈ page.accessed, ∃ nodeId records, call.nodeId = some nodeId ∧
            (reader.read (historyQuery ctx nodeId call environment) client).records = .ok records ∧
            index < records.length := by
  refine ⟨?_, ?_, ?_⟩
  · intro earlier last reads
    obtain ⟨front, more, calls, complete⟩ := reads.delivered
    exact ⟨List.prefix_iff_eq_take.mpr front, more, calls, complete⟩
  · intro environment client raw steady
    have fresh : parseContinuationPointOffset none = .ok 0 := rfl
    obtain ⟨reply, answers, records⟩ := steady.answers fresh
    have first : PagedRead reader ctx request ([] ++ [reply]) := .first answers
    obtain ⟨earlier, last, reads, ended, same⟩ := steady.ends _ first records (Nat.le_refl _)
    exact ⟨earlier, last, reads, ended, same ▸ reads.delivered.2.2.2 ended⟩
  · intro call environment client page answered
    exact .inr (getHistoryDataInflux_accessed answered)

end Pages

section Demo

def demoReader (records : List InfluxRecord) : HistoryReader Unit := ⟨fun _ client => { records := .ok records, client }⟩

def demoRequest : PageRequest :=
  { start := longMin, stop := longMin, nodeId := ⟨some "ns=1;s=x"⟩, maxSizePerResponse := 5, numValuesPerNode := 2 }

def demoRecords : List InfluxRecord := [{ value := "a" }, { value := "b" }, { value := "c" }]

theorem history_pages_of_three :
    ∃ earlier last, PagedRead (demoReader demoRecords) demoContext demoRequest (earlier ++ [last]) ∧
      last.page.outContinuationPoint = none ∧
      returnedValues (earlier ++ [last]) = demoRecords.map recordDataValue ∧
      (earlier ++ [last]).length ≤ max 1 last.records.length := by
  obtain ⟨pages, ends, _⟩ := history_pages (demoReader demoRecords) demoContext demoRequest
  obtain ⟨earlier, last, reads, ended, all⟩ := ends ⟨0, 0, true, true⟩ () demoRecords ⟨rfl, rfl, by decide, rfl, rfl⟩
  exact ⟨earlier, last, reads, ended, all, (pages earlier last reads).2.2.1⟩

end Demo
end OpcUaAdapter
