import OpcUaAdapter.InfluxClient
import OpcUaAdapter.Library.Delimited
import OpcUaAdapter.Proofs.CsvLine

/-! Query responses of several tables: their lines as the reader gets them, and what
one line adds once there is a header row. -/

namespace OpcUaAdapter

/-- A table as InfluxDB writes it: the columns after the first, unnamed one, which is
empty in every row. Blank lines after it separate it from the next table. -/
structure CsvTable where
  headers : List CsvCell
  rows : List (List CsvCell)
  blankLines : Nat
  named : headers ≠ []
  aligned : ∀ row ∈ rows, row.length = headers.length
  unbroken : ∀ line ∈ headers :: rows, ∀ cell ∈ line, '\n' ∉ cell.text ∧ '\r' ∉ cell.text
  ended : ∀ line ∈ headers :: rows, ∀ cell ∈ line.getLast?, ∀ c ∈ cell.text.getLast?, isspace c = false

/-- A line of cells after the empty first one, or a blank line. -/
abbrev CsvItem := Option (List CsvCell)

def csvLine : CsvItem → Text
  | none => []
  | some cells => csvRow (CsvCell.empty :: cells)

def cellTexts (cells : List CsvCell) : List Text := [] :: cells.map CsvCell.text

def CsvTable.items (table : CsvTable) : List CsvItem :=
  some table.headers :: table.rows.map some ++ List.replicate table.blankLines none

def lineEnd (carriageReturn : Bool) : Text := if carriageReturn then ['\r'] else []

def rawLine (carriageReturn : Bool) (item : CsvItem) : Text := csvLine item ++ lineEnd carriageReturn

/-- The text of a response, with line feeds or with carriage returns and line feeds. -/
def responseText (carriageReturn : Bool) (tables : List CsvTable) : Text :=
  (tables.flatMap CsvTable.items).flatMap fun item => rawLine carriageReturn item ++ ['\n']

/-- What the lines of a table have in common. -/
structure ProperCells (cells : List CsvCell) : Prop where
  filled : cells ≠ []
  unbroken : ∀ cell ∈ cells, '\n' ∉ cell.text ∧ '\r' ∉ cell.text
  ended : ∀ cell ∈ cells.getLast?, ∀ c ∈ cell.text.getLast?, isspace c = false

theorem CsvTable.proper (table : CsvTable) {cells : List CsvCell} (member : cells ∈ table.headers :: table.rows) :
    ProperCells cells := by
  refine ⟨?_, table.unbroken _ member, table.ended _ member⟩
  rcases List.mem_cons.mp member with rfl | row
  · exact table.named
  · exact List.length_pos_iff.mp (table.aligned _ row ▸ List.length_pos_iff.mpr table.named)

theorem CsvTable.items_proper (table : CsvTable) {cells : List CsvCell} (member : some cells ∈ table.items) :
    ProperCells cells := by
  refine table.proper ?_
  simpa [items] using member

private theorem mem_written {c : Char} {cell : CsvCell} (inside : c ∈ cell.written) : c = '"' ∨ c ∈ cell.text := by
  have doubled : ∀ text : Text, c ∈ CsvCell.doubled text → c = '"' ∨ c ∈ text := by
    intro text member
    obtain ⟨d, source, copy⟩ := List.mem_flatMap.mp member
    split at copy
    next quote => left; simpa using copy
    next => right; rwa [List.mem_singleton.mp copy]
  unfold CsvCell.written at inside
  split at inside
  · rcases List.mem_cons.mp inside with quote | rest
    · exact .inl quote
    · rcases List.mem_append.mp rest with text | quote
      · exact doubled _ text
      · exact .inl (List.mem_singleton.mp quote)
  · exact .inr inside

private theorem mem_csvRow {c : Char} {cells : List CsvCell} (inside : c ∈ csvRow cells) :
    c = ',' ∨ c = '"' ∨ ∃ cell ∈ cells, c ∈ cell.text := by
  unfold csvRow at inside
  induction cells with
  | nil => cases inside
  | cons cell cells ih =>
    have first (member : c ∈ cell.written) : c = ',' ∨ c = '"' ∨ ∃ other ∈ cell :: cells, c ∈ other.text := by
      rcases mem_written member with quote | text
      · exact .inr (.inl quote)
      · exact .inr (.inr ⟨cell, List.mem_cons_self, text⟩)
    cases cells with
    | nil => exact first (by simpa using inside)
    | cons next cells =>
      rw [List.map_cons, List.map_cons, List.intercalate_cons_cons, ← List.map_cons] at inside
      rcases List.mem_append.mp inside with front | later
      · rcases List.mem_append.mp front with here | comma
        · exact first here
        · exact .inl (List.mem_singleton.mp comma)
      · rcases ih later with comma | quote | ⟨other, member, text⟩
        · exact .inl comma
        · exact .inr (.inl quote)
        · exact .inr (.inr ⟨other, List.mem_cons_of_mem _ member, text⟩)

private theorem newline_not_mem_rawLine {item : CsvItem} (proper : ∀ cells ∈ item, ProperCells cells) (carriageReturn : Bool) :
    '\n' ∉ rawLine carriageReturn item := by
  intro inside
  rcases List.mem_append.mp inside with line | ending
  · cases item with
    | none => cases line
    | some cells =>
      rcases mem_csvRow line with comma | quote | ⟨cell, member, text⟩
      · exact absurd comma (by decide)
      · exact absurd quote (by decide)
      · rcases List.mem_cons.mp member with rfl | member
        · cases text
        · exact ((proper cells rfl).unbroken cell member).1 text
  · revert ending
    cases carriageReturn <;> decide

private theorem csvRow_append {first second : List CsvCell} (some : first ≠ []) (more : second ≠ []) :
    csvRow (first ++ second) = csvRow first ++ [','] ++ csvRow second := by
  unfold csvRow
  rw [List.map_append, Delimited.intercalate_append _ (by simpa using some) (by simpa using more)]

private theorem CsvCell.written_ended {cell : CsvCell} (ended : ∀ c ∈ cell.text.getLast?, isspace c = false) :
    ∀ c ∈ cell.written.getLast?, isspace c = false := by
  unfold written
  split
  · intro c last
    rw [← List.cons_append, List.getLast?_concat] at last
    cases last
    rfl
  · exact ended

/-- A line of cells starts with a comma and has no whitespace to trim. -/
theorem ProperCells.line {cells : List CsvCell} (proper : ProperCells cells) :
    csvLine (some cells) = ',' :: csvRow cells ∧ ∀ c ∈ (csvLine (some cells)).getLast?, isspace c = false := by
  refine ⟨csvRow_append (List.cons_ne_nil CsvCell.empty []) proper.filled, ?_⟩
  obtain ⟨before, cell, rfl⟩ := (List.eq_nil_or_concat cells).resolve_left proper.filled
  have last := CsvCell.written_ended (proper.ended cell (by simp))
  have split : csvLine (some (before ++ [cell])) = csvRow (CsvCell.empty :: before) ++ [','] ++ cell.written := by
    rw [csvLine, ← List.cons_append, csvRow_append (List.cons_ne_nil _ _) (List.cons_ne_nil _ _)]
    simp [csvRow]
  intro c final
  rw [List.concat_eq_append, split, List.getLast?_append, List.getLast?_concat] at final
  cases here : cell.written.getLast? with
  | none =>
    rw [here] at final
    cases final
    rfl
  | some d =>
    rw [here] at final
    cases final
    exact last c here

private theorem trim_rawLine {item : CsvItem} (proper : ∀ cells ∈ item, ProperCells cells) (carriageReturn : Bool) :
    trim (rawLine carriageReturn item) = csvLine item := by
  cases item with
  | none => cases carriageReturn <;> rfl
  | some cells =>
    obtain ⟨front, last⟩ := (proper cells rfl).line
    have trimmed : trim (csvLine (some cells)) = csvLine (some cells) := by
      refine trim_eq_self_iff.mpr ⟨?_, last⟩
      rw [front]
      intro c first
      cases first
      rfl
    cases carriageReturn with
    | false => simpa [rawLine, lineEnd] using trimmed
    | true =>
      have start : (csvLine (some cells) ++ ['\r']).dropWhile isspace = csvLine (some cells) ++ ['\r'] := by
        rw [front]
        rfl
      have unspaced : (csvLine (some cells)).dropWhile isspace = csvLine (some cells) := by
        rw [front]
        rfl
      rw [trim, unspaced] at trimmed
      rw [rawLine, lineEnd, if_pos rfl, trim, start, List.rdropWhile_concat_pos _ _ _ rfl, trimmed]

theorem getlines_written {lines : List Text} (unbroken : ∀ line ∈ lines, '\n' ∉ line) :
    getlines (lines.flatMap fun line => line ++ ['\n']) = lines := by
  have joined : (lines.flatMap fun line => line ++ ['\n']) = ['\n'].intercalate (lines ++ [[]]) := by
    clear unbroken
    induction lines with
    | nil => rfl
    | cons line rest ih =>
      rw [List.flatMap_cons, ih, List.cons_append, List.intercalate_cons_of_ne_nil (by simp)]
  have clean : ∀ line ∈ lines ++ [[]], '\n' ∉ line := by
    intro line member
    rcases List.mem_append.mp member with old | new
    · exact unbroken line old
    · rw [List.mem_singleton.mp new]
      exact List.not_mem_nil
  unfold getlines
  rw [joined, List.splitOn_intercalate '\n' clean (by simp), if_pos List.getLast?_concat, List.dropLast_concat]

theorem getlines_responseText (carriageReturn : Bool) (tables : List CsvTable) :
    getlines (responseText carriageReturn tables) = (tables.flatMap CsvTable.items).map (rawLine carriageReturn) := by
  have text : responseText carriageReturn tables =
      ((tables.flatMap CsvTable.items).map (rawLine carriageReturn)).flatMap fun line => line ++ ['\n'] := by
    rw [responseText, List.flatMap_map]
  rw [text, getlines_written]
  intro line member
  obtain ⟨item, inside, rfl⟩ := List.mem_map.mp member
  obtain ⟨table, _, here⟩ := List.mem_flatMap.mp inside
  exact newline_not_mem_rawLine (fun cells same => table.items_proper (same ▸ here)) carriageReturn

/-- The last cell in a column of the given name. -/
def lastCell (name : Text) (cells : List (Text × Text)) : Option Text :=
  ((cells.filter fun cell => cell.1 = name).map Prod.snd).getLast?

def columnText (name : Text) (cells : List (Text × Text)) : Text := (lastCell name cells).getD []

def columnTime (calendar : Calendar) (cells : List (Text × Text)) : Int :=
  (lastCell "_time" cells).elim 0 fun time => (parseTimestampToNanoseconds calendar time).toOption.getD 0

/-- The record of a row, from the columns its header names. -/
def recordOf (calendar : Calendar) (cells : List (Text × Text)) : InfluxRecord :=
  { time := columnText "_time" cells
    timestampNanoseconds := columnTime calendar cells
    measurement := columnText "_measurement" cells
    field := columnText "_field" cells
    value := columnText "_value" cells }

/-- Every time in the row is converted without an exception. -/
def TimesConvert (calendar : Calendar) (cells : List (Text × Text)) : Prop :=
  ∀ cell ∈ cells, cell.1 = ("_time" : Text) → ∃ nanoseconds, parseTimestampToNanoseconds calendar cell.2 = .ok nanoseconds

private theorem lastCell_append (name : Text) (cells : List (Text × Text)) (cell : Text × Text) :
    lastCell name (cells ++ [cell]) = if cell.1 = name then some cell.2 else lastCell name cells := by
  unfold lastCell
  rw [List.filter_append, List.map_append]
  by_cases same : cell.1 = name
  · rw [List.filter_cons_of_pos (by simpa using same), if_pos same]
    exact List.getLast?_concat
  · rw [List.filter_cons_of_neg (by simpa using same), if_neg same]
    simp

private theorem columnText_append (name : Text) (cells : List (Text × Text)) (cell : Text × Text) :
    columnText name (cells ++ [cell]) = if cell.1 = name then cell.2 else columnText name cells := by
  unfold columnText
  rw [lastCell_append]
  split <;> rfl

private theorem columnTime_append (calendar : Calendar) (cells : List (Text × Text)) (cell : Text × Text) :
    columnTime calendar (cells ++ [cell]) =
      if cell.1 = ("_time" : Text) then (parseTimestampToNanoseconds calendar cell.2).toOption.getD 0
      else columnTime calendar cells := by
  unfold columnTime
  rw [lastCell_append]
  split <;> rfl

private theorem readCell_recordOf {calendar : Calendar} (cells : List (Text × Text)) (name value : Text)
    (converts : name = ("_time" : Text) → ∃ nanoseconds, parseTimestampToNanoseconds calendar value = .ok nanoseconds) :
    readCell calendar (recordOf calendar cells) name value = .ok (recordOf calendar (cells ++ [(name, value)])) := by
  unfold readCell recordOf
  simp only [columnText_append, columnTime_append]
  by_cases time : name = ("_time" : Text)
  · obtain ⟨nanoseconds, converted⟩ := converts time
    subst time
    rw [if_pos rfl, if_pos rfl, if_pos rfl, if_neg (by decide), if_neg (by decide), if_neg (by decide), converted]
    rfl
  rw [if_neg time, if_neg time, if_neg time]
  by_cases measurement : name = ("_measurement" : Text)
  · subst measurement
    rw [if_pos rfl, if_pos rfl, if_neg (by decide), if_neg (by decide)]
    rfl
  rw [if_neg measurement, if_neg measurement]
  by_cases field : name = ("_field" : Text)
  · subst field
    rw [if_pos rfl, if_pos rfl, if_neg (by decide)]
    rfl
  rw [if_neg field, if_neg field]
  by_cases named : name = ("_value" : Text)
  · rw [if_pos named, if_pos named]
    rfl
  · rw [if_neg named, if_neg named]
    rfl

def readRow (calendar : Calendar) (cells : List (Text × Text)) : Except StdException InfluxRecord :=
  cells.foldlM (fun record cell => readCell calendar record cell.1 cell.2) {}

theorem readRow_ok {calendar : Calendar} {cells : List (Text × Text)} (converts : TimesConvert calendar cells) :
    readRow calendar cells = .ok (recordOf calendar cells) := by
  unfold readRow
  induction cells using List.reverseRecOn with
  | nil => rfl
  | append_singleton cells cell ih =>
    have before := ih fun other member => converts other (List.mem_append_left _ member)
    rw [List.foldlM_append, before]
    simp only [bind, Except.bind, List.foldlM_cons, List.foldlM_nil]
    rw [readCell_recordOf cells cell.1 cell.2 (converts cell List.mem_concat_self)]
    rfl

theorem readRow_converts {calendar : Calendar} {cells : List (Text × Text)} {record : InfluxRecord}
    (read : readRow calendar cells = .ok record) : TimesConvert calendar cells := by
  unfold readRow at read
  induction cells using List.reverseRecOn generalizing record with
  | nil => intro cell member; cases member
  | append_singleton cells cell ih =>
    rw [List.foldlM_append] at read
    cases front : cells.foldlM (fun record cell => readCell calendar record cell.1 cell.2) {} with
    | error exception => rw [front] at read; cases read
    | ok earlier =>
      intro other member
      rcases List.mem_append.mp member with old | new
      · exact ih front other old
      · cases List.mem_singleton.mp new
        intro time
        rw [front] at read
        simp only [bind, Except.bind, List.foldlM_cons, List.foldlM_nil, readCell, if_pos time] at read
        cases converted : parseTimestampToNanoseconds calendar cell.2 with
        | error exception => rw [converted] at read; cases read
        | ok nanoseconds => exact ⟨nanoseconds, rfl⟩

/-- What the reader makes of a line once it has a header row. -/
def itemRecords (calendar : Calendar) (headers : List Text) : CsvItem → Except StdException (List InfluxRecord)
  | none => .ok []
  | some cells =>
    if (cellTexts cells).length < headers.length then .ok []
    else (readRow calendar (headers.zip (cellTexts cells))).map fun record =>
      if record.time.isEmpty then [] else [record]

private theorem parseCsvLine_csvLine (cells : List CsvCell) : parseCsvLine (csvLine (some cells)) = cellTexts cells :=
  parseCsvLine_csvRow (List.cons_ne_nil CsvCell.empty cells)

theorem ProperCells.content {cells : List CsvCell} (proper : ProperCells cells) :
    ((csvLine (some cells)).isEmpty || (csvLine (some cells)).head? = some '#') = false := by
  rw [proper.line.1]
  rfl

/-- The first line of cells becomes the header row. -/
theorem readLine_header (calendar : Calendar) (carriageReturn : Bool) (records : List InfluxRecord)
    {cells : List CsvCell} (proper : ProperCells cells) :
    readLine calendar [] records (rawLine carriageReturn (some cells)) = .ok (cellTexts cells, records) := by
  have itself : ∀ other ∈ some cells, ProperCells other := by
    intro other same
    cases same
    exact proper
  have line := trim_rawLine itself carriageReturn
  unfold readLine
  simp only [line, proper.content, parseCsvLine_csvLine, Bool.false_eq_true, ite_false, List.isEmpty_nil, ite_true]
  rfl

/-- A header row that has been read is never replaced. -/
theorem readLine_item (calendar : Calendar) (carriageReturn : Bool) {headers : List Text} (named : headers ≠ [])
    (records : List InfluxRecord) {item : CsvItem} (proper : ∀ cells ∈ item, ProperCells cells) :
    readLine calendar headers records (rawLine carriageReturn item) =
      (itemRecords calendar headers item).map fun added => (headers, records ++ added) := by
  have line := trim_rawLine proper carriageReturn
  have some : headers.isEmpty = false := by simpa using named
  unfold readLine
  cases item with
  | none =>
    simp only [line, csvLine, itemRecords, List.isEmpty_nil, Bool.true_or, ite_true, Except.map, List.append_nil]
    rfl
  | some cells =>
    simp only [line, (proper cells rfl).content, parseCsvLine_csvLine, some, itemRecords, Bool.false_eq_true, ite_false]
    split
    next short =>
      simp only [Except.map, List.append_nil]
      rfl
    next =>
      change Except.bind (readRow calendar (headers.zip (cellTexts cells))) _ = _
      cases readRow calendar (headers.zip (cellTexts cells)) with
      | error exception => rfl
      | ok record =>
        simp only [Except.bind, Except.map]
        split
        · simp only [List.append_nil]; rfl
        · rfl

end OpcUaAdapter
