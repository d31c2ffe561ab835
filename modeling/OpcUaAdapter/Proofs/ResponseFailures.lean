import OpcUaAdapter.HistoryAccess
import OpcUaAdapter.Proofs.DecimalText
import OpcUaAdapter.Proofs.TableReading

/-! Responses of any content: at which of them the reader raises an exception, and that it
never leaves the cells of a row. -/

namespace OpcUaAdapter

/-- The loop over the columns with every access checked. `none` stands for an index
outside of the row. -/
def checkedRow (calendar : Calendar) (headers row : List Text) : Except (Option StdException) InfluxRecord :=
  (List.range headers.length).foldlM (fun record i =>
    match headers[i]?, row[i]? with
    | some name, some value => (readCell calendar record name value).mapError some
    | _, _ => .error none) {}

def checkedLine (calendar : Calendar) (headers : List Text) (records : List InfluxRecord) (rawLine : Text) :
    Except (Option StdException) (List Text × List InfluxRecord) := do
  let line := trim rawLine
  if line.isEmpty || line.head? = some '#' then return (headers, records)
  if headers.isEmpty then return (parseCsvLine line, records)
  let row := parseCsvLine line
  if row.length < headers.length then return (headers, records)
  let record ← checkedRow calendar headers row
  return (headers, if record.time.isEmpty then records else records ++ [record])

def checkedRecords (calendar : Calendar) (response : Text) : Except (Option StdException) (List InfluxRecord) := do
  let (_, records) ← (getlines response).foldlM
    (fun (headers, records) line => checkedLine calendar headers records line) ([], [])
  return records

private theorem foldlM_mapError {α β ε δ : Type} (f : ε → δ) (step : β → α → Except ε β) (start : β) (items : List α) :
    (items.foldlM step start).mapError f = items.foldlM (fun state item => (step state item).mapError f) start := by
  induction items generalizing start with
  | nil => rfl
  | cons item items ih =>
    rw [List.foldlM_cons, List.foldlM_cons]
    cases step start item with
    | error exception => rfl
    | ok next => exact ih next

theorem checkedRow_eq (calendar : Calendar) {headers row : List Text} (enough : headers.length ≤ row.length) :
    checkedRow calendar headers row = (readRow calendar (headers.zip row)).mapError some := by
  have cells : headers.zip row =
      (List.range headers.length).map fun i => (headers.getD i [], row.getD i []) := by
    apply List.ext_getElem
    · simp [enough]
    · intro i first second
      have here : i < headers.length := by simpa [enough] using first
      have inside : i < row.length := Nat.lt_of_lt_of_le here enough
      simp [here, inside]
  unfold checkedRow readRow
  rw [foldlM_mapError, cells, List.foldlM_map]
  have bound : ∀ i ∈ List.range headers.length, i < headers.length := fun i => List.mem_range.mp
  generalize List.range headers.length = indices at bound
  generalize ({} : InfluxRecord) = record
  induction indices generalizing record with
  | nil => rfl
  | cons i indices ih =>
    obtain ⟨here, later⟩ := List.forall_mem_cons.mp bound
    rw [List.foldlM_cons, List.foldlM_cons]
    have inside : i < row.length := Nat.lt_of_lt_of_le here enough
    simp only [List.getElem?_eq_getElem here, List.getElem?_eq_getElem inside, List.getD_eq_getElem?_getD,
      Option.getD_some]
    exact congrArg _ (funext fun next => ih later next)

theorem readLine_eq (calendar : Calendar) (headers : List Text) (records : List InfluxRecord) (rawLine : Text) :
    readLine calendar headers records rawLine =
      if (trim rawLine).isEmpty || (trim rawLine).head? = some '#' then .ok (headers, records)
      else if headers.isEmpty then .ok (parseCsvLine (trim rawLine), records)
      else if (parseCsvLine (trim rawLine)).length < headers.length then .ok (headers, records)
      else (readRow calendar (headers.zip (parseCsvLine (trim rawLine)))).map fun record =>
        (headers, if record.time.isEmpty then records else records ++ [record]) := by
  unfold readLine
  dsimp only
  split_ifs
  · rfl
  · rfl
  · rfl
  · change Except.bind (readRow calendar (headers.zip (parseCsvLine (trim rawLine)))) _ = _
    cases readRow calendar (headers.zip (parseCsvLine (trim rawLine))) <;> rfl

private theorem checkedLine_eq (calendar : Calendar) (headers : List Text) (records : List InfluxRecord) (rawLine : Text) :
    checkedLine calendar headers records rawLine = (readLine calendar headers records rawLine).mapError some := by
  rw [readLine_eq]
  unfold checkedLine
  dsimp only
  split_ifs with skipped header short
  · rfl
  · rfl
  · rfl
  · rw [checkedRow_eq calendar (Nat.le_of_not_lt short)]
    cases readRow calendar (headers.zip (parseCsvLine (trim rawLine))) <;> rfl

theorem checkedRecords_eq (calendar : Calendar) (response : Text) :
    checkedRecords calendar response = (readRecords calendar response).mapError some := by
  have lines := foldlM_mapError some (fun (state : ReaderState) line => readLine calendar state.1 state.2 line)
    ([], []) (getlines response)
  simp only [← checkedLine_eq] at lines
  change Except.bind (List.foldlM _ _ _) _ = Except.mapError some (Except.bind (List.foldlM _ _ _) _)
  refine (congrArg (Except.bind · _) lines.symm).trans ?_
  cases (getlines response).foldlM (fun (state : ReaderState) line => readLine calendar state.1 state.2 line) ([], []) <;>
    rfl

def contentLines (lines : List Text) : List Text :=
  (lines.map trim).filter fun line => !(line.isEmpty || line.head? = some '#')

/-- The cells that are read of lines behind a header row, with the names of their columns. -/
def columnRows (headers : List Text) (lines : List Text) : List (List (Text × Text)) :=
  ((lines.map parseCsvLine).filter fun row => headers.length ≤ row.length).map headers.zip

/-- The first line of cells is the header row. -/
def responseRows (response : Text) : List (List (Text × Text)) :=
  match contentLines (getlines response) with
  | [] => []
  | header :: rows => columnRows (parseCsvLine header) rows

private theorem csvCells_ne_nil (inQuotes : Bool) (current text : Text) : csvCells inQuotes current text ≠ [] := by
  fun_induction csvCells inQuotes current text with
  | case1 => exact List.cons_ne_nil _ _
  | case2 current rest ih => exact ih
  | case3 inQuotes current rest _ ih => exact ih
  | case4 => exact List.cons_ne_nil _ _
  | case5 inQuotes current c rest _ _ _ ih => exact ih

private theorem contentLines_cons_skipped {line : Text} (skipped : ((trim line).isEmpty || (trim line).head? = some '#') = true)
    (lines : List Text) : contentLines (line :: lines) = contentLines lines := by
  unfold contentLines
  rw [List.map_cons, List.filter_cons_of_neg (by simp [skipped])]

private theorem contentLines_cons_kept {line : Text} (kept : ¬ ((trim line).isEmpty || (trim line).head? = some '#') = true)
    (lines : List Text) : contentLines (line :: lines) = trim line :: contentLines lines := by
  unfold contentLines
  rw [List.map_cons, List.filter_cons_of_pos (by simpa using kept)]

private theorem readRow_ok_iff {calendar : Calendar} {cells : List (Text × Text)} :
    (∃ record, readRow calendar cells = .ok record) ↔ TimesConvert calendar cells :=
  ⟨fun ⟨_, read⟩ => readRow_converts read, fun converts => ⟨_, readRow_ok converts⟩⟩

theorem readLines_ok_iff {calendar : Calendar} {headers : List Text} (named : headers ≠ []) {records : List InfluxRecord}
    {lines : List Text} :
    (∃ state, readLines calendar (headers, records) lines = .ok state) ↔
      ∀ cells ∈ columnRows headers (contentLines lines), TimesConvert calendar cells := by
  have filled : ¬ headers.isEmpty = true := by simpa using named
  induction lines generalizing records with
  | nil => exact iff_of_true ⟨_, rfl⟩ fun cells member => by cases member
  | cons line lines ih =>
    rw [readLines_cons, readLine_eq]
    dsimp only
    by_cases skipped : ((trim line).isEmpty || (trim line).head? = some '#') = true
    · rw [if_pos skipped, contentLines_cons_skipped skipped]
      exact ih
    rw [if_neg skipped, if_neg filled, contentLines_cons_kept skipped, columnRows, List.map_cons]
    by_cases short : (parseCsvLine (trim line)).length < headers.length
    · rw [if_pos short, List.filter_cons_of_neg (by simpa using short)]
      exact ih
    · rw [if_neg short, List.filter_cons_of_pos (by simpa using short), List.map_cons, List.forall_mem_cons,
        ← readRow_ok_iff]
      cases readRow calendar (headers.zip (parseCsvLine (trim line))) with
      | error exception =>
        apply iff_of_false
        · rintro ⟨_, impossible⟩
          cases impossible
        · rintro ⟨⟨_, impossible⟩, _⟩
          cases impossible
      | ok record =>
        constructor
        · intro read
          exact ⟨⟨record, rfl⟩, ih.mp read⟩
        · rintro ⟨_, later⟩
          exact ih.mpr later

private theorem readRecords_ok_iff (calendar : Calendar) (response : Text) :
    (∃ records, readRecords calendar response = .ok records) ↔
      ∀ cells ∈ responseRows response, TimesConvert calendar cells := by
  have lines : (∃ records, readRecords calendar response = .ok records) ↔
      ∃ state, readLines calendar ([], []) (getlines response) = .ok state := by
    change (∃ records, Except.bind (readLines calendar ([], []) (getlines response)) _ = _) ↔ _
    cases readLines calendar ([], []) (getlines response) with
    | error exception => exact iff_of_false (fun ⟨_, impossible⟩ => by cases impossible) fun ⟨_, impossible⟩ => by cases impossible
    | ok state => exact iff_of_true ⟨_, rfl⟩ ⟨_, rfl⟩
  rw [lines]
  unfold responseRows
  -- the lines in front of the header row change nothing
  induction getlines response with
  | nil => exact iff_of_true ⟨_, rfl⟩ fun cells member => by cases member
  | cons line rest ih =>
    rw [readLines_cons, readLine_eq]
    dsimp only
    by_cases skipped : ((trim line).isEmpty || (trim line).head? = some '#') = true
    · rw [if_pos skipped, contentLines_cons_skipped skipped]
      exact ih
    · rw [if_neg skipped, if_pos (by decide), contentLines_cons_kept skipped]
      exact readLines_ok_iff (csvCells_ne_nil _ _ _)

/-- A text that begins with a number, behind blanks. -/
def NumberAhead (text : Text) : Prop :=
  ∃ blanks sign digit rest, text = blanks ++ sign ++ digit :: rest ∧ (∀ c ∈ blanks, isspace c = true) ∧
    sign ∈ [[], ['-'], ['+']] ∧ digit.isDigit = true

private theorem scanInteger_signed {blanks sign rest : Text} {digit : Char} (spaces : ∀ c ∈ blanks, isspace c = true)
    (signed : sign ∈ [[], ['-'], ['+']]) (number : digit.isDigit = true) :
    ∃ negative, scanInteger (blanks ++ sign ++ digit :: rest) =
      some (negative, Nat.ofDigitChars 10 (digit :: rest.takeWhile Char.isDigit) 0, rest.dropWhile Char.isDigit) := by
  obtain ⟨space, minus, plus⟩ := isDigit_plain number
  have skipped : (blanks ++ sign ++ digit :: rest).dropWhile isspace = sign ++ digit :: rest := by
    rw [List.append_assoc, List.dropWhile_append_of_pos spaces]
    simp only [List.mem_cons, List.not_mem_nil, or_false] at signed
    rcases signed with rfl | rfl | rfl
    · exact List.dropWhile_cons_of_neg (by simp [space])
    · rfl
    · rfl
  unfold scanInteger
  rw [skipped]
  simp only [List.mem_cons, List.not_mem_nil, or_false] at signed
  rcases signed with rfl | rfl | rfl
  · refine ⟨false, ?_⟩
    simp only [List.nil_append]
    split
    next same => cases same; exact absurd rfl minus
    next same => cases same; exact absurd rfl plus
    next => simp [number]
  · exact ⟨true, by simp [number]⟩
  · exact ⟨false, by simp [number]⟩

private theorem ofDigitChars_lt {digits : Text} (all : ∀ c ∈ digits, c.isDigit = true) (start : Nat) :
    Nat.ofDigitChars 10 digits start < (start + 1) * 10 ^ digits.length := by
  induction digits generalizing start with
  | nil => simp
  | cons c rest ih =>
    obtain ⟨here, later⟩ := List.forall_mem_cons.mp all
    have digit : c.toNat - '0'.toNat ≤ 9 := by
      simp only [Char.isDigit, Bool.and_eq_true, decide_eq_true_eq, UInt32.le_iff_toNat_le] at here
      have upper : c.toNat ≤ 57 := here.2
      have zero : '0'.toNat = 48 := rfl
      omega
    rw [Nat.ofDigitChars_cons, List.length_cons, Nat.pow_succ]
    calc _ < (10 * start + (c.toNat - '0'.toNat) + 1) * 10 ^ rest.length := ih later _
      _ ≤ (10 * (start + 1)) * 10 ^ rest.length := Nat.mul_le_mul_right _ (by omega)
      _ = (start + 1) * (10 ^ rest.length * 10) := by rw [Nat.mul_comm 10, Nat.mul_assoc, Nat.mul_comm 10]

private theorem cStr_signed {blanks sign rest : Text} {digit : Char} (spaces : ∀ c ∈ blanks, isspace c = true)
    (signed : sign ∈ [[], ['-'], ['+']]) (number : digit.isDigit = true) :
    cStr (blanks ++ sign ++ digit :: rest) = blanks ++ sign ++ digit :: cStr rest := by
  have blank : ∀ c ∈ blanks, (decide (c ≠ '\x00')) = true := by
    intro c member
    have space := spaces c member
    simp only [decide_eq_true_eq]
    rintro rfl
    cases space
  have sign : ∀ c ∈ sign, (decide (c ≠ '\x00')) = true := by
    simp only [List.mem_cons, List.not_mem_nil, or_false] at signed
    rcases signed with rfl | rfl | rfl <;> exact List.all_eq_true.mp (by decide)
  have filled : (decide (digit ≠ '\x00')) = true := by
    simp only [decide_eq_true_eq]
    rintro rfl
    cases number
  unfold cStr
  rw [List.append_assoc, List.takeWhile_append_of_pos blank, List.takeWhile_append_of_pos sign,
    List.append_assoc, List.takeWhile_cons_of_pos (by simpa using filled)]

private theorem numberAhead_of_scanned {text : Text} {result : Bool × Nat × Text} (scanned : scanInteger text = some result) :
    NumberAhead text := by
  have shape : text = text.takeWhile isspace ++ text.dropWhile isspace := List.takeWhile_append_dropWhile.symm
  have spaces : ∀ c ∈ text.takeWhile isspace, isspace c = true := fun c member => List.mem_takeWhile_imp member
  have digits {unsigned : Text} {found : Bool × Nat × Text}
      (some : (if (unsigned.takeWhile Char.isDigit).isEmpty then none else some found) = some result) :
      ∃ digit rest, unsigned = digit :: rest ∧ digit.isDigit = true := by
    cases unsigned with
    | nil => cases some
    | cons digit rest =>
      refine ⟨digit, rest, rfl, ?_⟩
      by_contra other
      rw [List.takeWhile_cons_of_neg other] at some
      cases some
  unfold scanInteger at scanned
  dsimp only at scanned
  split at scanned
  next signed =>
    obtain ⟨digit, rest, rfl, number⟩ := digits scanned
    refine ⟨_, ['-'], digit, rest, ?_, spaces, by decide, number⟩
    rw [List.append_assoc, List.singleton_append, ← signed, ← shape]
  next signed =>
    obtain ⟨digit, rest, rfl, number⟩ := digits scanned
    refine ⟨_, ['+'], digit, rest, ?_, spaces, by decide, number⟩
    rw [List.append_assoc, List.singleton_append, ← signed, ← shape]
  next =>
    obtain ⟨digit, rest, bare, number⟩ := digits scanned
    refine ⟨_, [], digit, rest, ?_, spaces, by decide, number⟩
    rw [List.append_nil, ← bare, ← shape]

theorem stoll_ok_iff {text : Text} (short : text.length ≤ 9) :
    (∃ value, stoll text = .ok value) ↔ NumberAhead text := by
  constructor
  · rintro ⟨value, read⟩
    unfold stoll at read
    cases scanned : scanInteger (cStr text) with
    | none => rw [scanned] at read; cases read
    | some result =>
      obtain ⟨blanks, sign, digit, rest, shape, others⟩ := numberAhead_of_scanned scanned
      refine ⟨blanks, sign, digit, rest ++ text.dropWhile (· ≠ '\x00'), ?_, others⟩
      rw [← List.cons_append, ← List.append_assoc, ← shape]
      exact (List.takeWhile_append_dropWhile).symm
  · rintro ⟨blanks, sign, digit, rest, rfl, spaces, signed, number⟩
    obtain ⟨negative, scanned⟩ := @scanInteger_signed blanks sign (cStr rest) digit spaces signed number
    unfold stoll
    rw [cStr_signed spaces signed number, scanned]
    have all : ∀ c ∈ digit :: (cStr rest).takeWhile Char.isDigit, c.isDigit = true :=
      List.forall_mem_cons.mpr ⟨number, fun c member => List.mem_takeWhile_imp member⟩
    have length : (digit :: (cStr rest).takeWhile Char.isDigit).length ≤ 9 := by
      have inner := (List.takeWhile_prefix (l := cStr rest) Char.isDigit).length_le
      have outer := (List.takeWhile_prefix (l := rest) (· ≠ '\x00')).length_le
      simp only [List.length_append, List.length_cons] at short ⊢
      unfold cStr at *
      omega
    have small := ofDigitChars_lt all 0
    have power : 10 ^ (digit :: (cStr rest).takeWhile Char.isDigit).length ≤ 10 ^ 9 :=
      Nat.pow_le_pow_right (by decide) length
    generalize Nat.ofDigitChars 10 (digit :: (cStr rest).takeWhile Char.isDigit) 0 = magnitude at small
    have range : longMin ≤ (if negative then -(magnitude : Int) else magnitude) ∧
        (if negative then -(magnitude : Int) else magnitude) ≤ longMax := by
      unfold longMin longMax
      split <;> omega
    exact ⟨_, if_pos range⟩

/-- A cell that is no time, or has no fraction, or one that begins with a number when it is
cut or filled to nine characters. -/
def ReadableTime (calendar : Calendar) (time : Text) : Prop :=
  calendar.getTime (time.take 19) = none ∨ ∀ fraction, fractionText time = some fraction → NumberAhead fraction

private theorem fractionText_length {time fraction : Text} (cut : fractionText time = some fraction) : fraction.length ≤ 9 := by
  unfold fractionText at cut
  split at cut
  · split at cut
    · cases cut
      rw [List.rightpad, List.length_append, List.length_replicate, List.length_take]
      omega
    · cases cut
  · cases cut

private theorem parseTimestamp_ok_iff {calendar : Calendar} {time : Text} :
    (∃ nanoseconds, parseTimestampToNanoseconds calendar time = .ok nanoseconds) ↔ ReadableTime calendar time := by
  unfold parseTimestampToNanoseconds ReadableTime
  cases calendar.getTime (time.take 19) with
  | none => exact iff_of_true ⟨0, rfl⟩ (.inl rfl)
  | some seconds =>
    cases cut : fractionText time with
    | none =>
      refine iff_of_true ?_ (.inr fun fraction impossible => by cases impossible)
      by_cases before : seconds < 0
      · exact ⟨0, if_pos before⟩
      · exact ⟨_, if_neg before⟩
    | some fraction =>
      have number := stoll_ok_iff (fractionText_length cut)
      simp only [reduceCtorEq, false_or, Option.some.injEq, forall_eq', ← number]
      cases stoll fraction with
      | error exception =>
        exact iff_of_false (fun ⟨_, impossible⟩ => by cases impossible) fun ⟨_, impossible⟩ => by cases impossible
      | ok value =>
        refine iff_of_true ?_ ⟨value, rfl⟩
        by_cases before : seconds < 0
        · exact ⟨0, if_pos before⟩
        · exact ⟨_, if_neg before⟩

section Read

variable {calendar : Calendar} {client : InfluxClient} {status : Int} {response : Text}

/-- The response becomes a list of records, every access is inside of its row, and nothing
is thrown into the server, whatever it has asked for. -/
def ReadsResponse (calendar : Calendar) (client : InfluxClient) (status : Int) (response : Text) : Prop :=
  (∃ records, checkedRecords calendar response = .ok records ∧
    ∀ fluxQuery error, (client.executeFluxReadQuery calendar fluxQuery error
      (.request (.answered status response))).records = .ok records) ∧
  ∀ backend call environment, ∃ page,
    (getHistoryDataInflux (influxReader calendar (.request (.answered status response))) backend call environment
      client).1 = .ok page

theorem getHistoryDataInflux_ok {σ : Type} {reader : HistoryReader σ} {client : σ}
    (reads : ∀ query, ∃ records, (reader.read query client).records = .ok records) (backend : Option InfluxHistoryBackendContext)
    (call : HistoryCall) (environment : UaEnvironment) :
    ∃ page, (getHistoryDataInflux reader backend call environment client).1 = .ok page := by
  unfold getHistoryDataInflux
  cases backend with
  | none => exact ⟨_, rfl⟩
  | some ctx =>
    cases call.nodeId with
    | none => exact ⟨_, rfl⟩
    | some nodeId =>
      dsimp only
      obtain ⟨records, read⟩ := reads (historyQuery ctx nodeId call environment)
      rw [read]
      split
      · exact ⟨_, rfl⟩
      split
      · exact ⟨_, rfl⟩
      split
      · exact ⟨_, rfl⟩
      · exact ⟨_, rfl⟩

/-- A response is read exactly when no time in its rows has a fraction without a number. -/
theorem readsResponse_iff (success : isSuccessStatus status = true) :
    ReadsResponse calendar client status response ↔
      ∀ cells ∈ responseRows response, ∀ cell ∈ cells, cell.1 = ("_time" : Text) → ReadableTime calendar cell.2 := by
  have converts : (∃ records, readRecords calendar response = .ok records) ↔
      ∀ cells ∈ responseRows response, ∀ cell ∈ cells, cell.1 = ("_time" : Text) → ReadableTime calendar cell.2 := by
    simp only [readRecords_ok_iff, TimesConvert, parseTimestamp_ok_iff]
  have answered (fluxQuery : Text) (error : Option Text) :=
    client.executeFluxReadQuery_answered calendar fluxQuery error success response
  rw [← converts]
  constructor
  · rintro ⟨⟨records, _, read⟩, _⟩
    exact ⟨records, (answered [] none).symm.trans (read [] none)⟩
  · rintro ⟨records, read⟩
    refine ⟨⟨records, ?_, fun fluxQuery error => (answered fluxQuery error).trans read⟩, ?_⟩
    · rw [checkedRecords_eq, read]
      rfl
    · apply getHistoryDataInflux_ok
      intro query
      change ∃ records, (client.read calendar query (some []) _).records = .ok records
      unfold InfluxClient.read
      split
      · exact ⟨[], rfl⟩
      · exact ⟨records, (answered _ (some [])).trans read⟩

end Read

/-- A row that ends too early is passed over. -/
theorem truncated_response_read :
    ReadsResponse epochCalendar { config := {} } 200
      ",_time,_value\n,1970-01-01T00:00:00.5Z,1\n,1970-01-0" := by
  have rows : responseRows ",_time,_value\n,1970-01-01T00:00:00.5Z,1\n,1970-01-0" =
      [[([], []), ("_time", "1970-01-01T00:00:00.5Z"), ("_value", "1")]] := by decide +kernel
  have half : ReadableTime epochCalendar "1970-01-01T00:00:00.5Z" :=
    parseTimestamp_ok_iff.mp ⟨500000000, by decide +kernel⟩
  apply (readsResponse_iff (by decide)).mpr
  rw [rows]
  simp only [List.forall_mem_singleton, List.forall_mem_cons]
  exact ⟨fun other => absurd other (by decide), fun _ => half, fun other => absurd other (by decide)⟩

/-- A fraction without a number leaves the reader as an exception. -/
theorem letters_in_fraction_throw : ¬ ∀ (calendar : Calendar) (client : InfluxClient) (status : Int) (response : Text),
    isSuccessStatus status = true → ReadsResponse calendar client status response := by
  intro claim
  obtain ⟨⟨records, read, _⟩, _⟩ := claim epochCalendar { config := {} } 200
    "_time\n1970-01-01T00:00:00.xZ" rfl
  have thrown : checkedRecords epochCalendar "_time\n1970-01-01T00:00:00.xZ" = .error (some .invalidArgument) := by
    decide
  rw [thrown] at read
  cases read

end OpcUaAdapter
