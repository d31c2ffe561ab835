import OpcUaAdapter.Proofs.CsvTables

/-! Reading a response of several tables. The reader keeps the header row it has seen
first, so only the rows of the first table are read under their own header. -/

namespace OpcUaAdapter

/-- The header row the reader keeps and the records it has found. -/
abbrev ReaderState := List Text × List InfluxRecord

def readLines (calendar : Calendar) (state : ReaderState) (lines : List Text) : Except StdException ReaderState :=
  lines.foldlM (fun (headers, records) line => readLine calendar headers records line) state

def readItems (calendar : Calendar) (carriageReturn : Bool) (items : List CsvItem) : Except StdException ReaderState :=
  readLines calendar ([], []) (items.map (rawLine carriageReturn))

def addedBy (calendar : Calendar) (headers : List Text) (item : CsvItem) : List InfluxRecord :=
  (itemRecords calendar headers item).toOption.getD []

private theorem readRecords_responseText (calendar : Calendar) (carriageReturn : Bool) (tables : List CsvTable) :
    readRecords calendar (responseText carriageReturn tables) =
      (readItems calendar carriageReturn (tables.flatMap CsvTable.items)).map Prod.snd := by
  unfold readRecords readItems
  rw [getlines_responseText]
  change Except.bind (readLines calendar ([], []) _) _ = _
  cases readLines calendar ([], []) ((tables.flatMap CsvTable.items).map (rawLine carriageReturn)) <;> rfl

theorem readLines_cons (calendar : Calendar) (state : ReaderState) (line : Text) (lines : List Text) :
    readLines calendar state (line :: lines) =
      (readLine calendar state.1 state.2 line).bind fun next => readLines calendar next lines := rfl

private theorem readLines_iff {calendar : Calendar} {carriageReturn : Bool} {headers : List Text} (named : headers ≠ [])
    {records found : List InfluxRecord} {kept : List Text} {items : List CsvItem}
    (proper : ∀ cells, some cells ∈ items → ProperCells cells) :
    readLines calendar (headers, records) (items.map (rawLine carriageReturn)) = .ok (kept, found) ↔
    (∀ item ∈ items, itemRecords calendar headers item = .ok (addedBy calendar headers item)) ∧
      kept = headers ∧ found = records ++ items.flatMap (addedBy calendar headers) := by
  induction items generalizing records with
  | nil =>
    simp only [List.not_mem_nil, false_implies, implies_true, true_and, List.flatMap_nil, List.append_nil]
    constructor
    · intro same
      cases same
      exact ⟨rfl, rfl⟩
    · rintro ⟨rfl, rfl⟩
      rfl
  | cons item items ih =>
    have here := readLine_item calendar carriageReturn named records
      fun cells same => proper cells (same ▸ List.mem_cons_self)
    have later (records : List InfluxRecord) := @ih records fun cells member =>
      proper cells (List.mem_cons_of_mem _ member)
    rw [List.map_cons, readLines_cons, here]
    cases read : itemRecords calendar headers item with
    | error exception =>
      constructor
      · intro same; cases same
      · rintro ⟨all, _⟩
        have := all item List.mem_cons_self
        rw [read] at this
        cases this
    | ok added =>
      have same : addedBy calendar headers item = added := by rw [addedBy, read]; rfl
      change readLines calendar (headers, records ++ added) _ = _ ↔ _
      rw [later, List.flatMap_cons, same, ← List.append_assoc, List.forall_mem_cons, read, same]
      simp only [true_and]

private theorem cellTexts_ne_nil (cells : List CsvCell) : cellTexts cells ≠ [] := List.cons_ne_nil _ _

theorem readItems_iff {calendar : Calendar} {carriageReturn : Bool} {headers : List CsvCell}
    (header : ProperCells headers)
    {items : List CsvItem} (proper : ∀ cells, some cells ∈ items → ProperCells cells)
    {kept : List Text} {found : List InfluxRecord} :
    readItems calendar carriageReturn (some headers :: items) = .ok (kept, found) ↔
      (∀ item ∈ items, itemRecords calendar (cellTexts headers) item = .ok (addedBy calendar (cellTexts headers) item)) ∧
        kept = cellTexts headers ∧ found = items.flatMap (addedBy calendar (cellTexts headers)) := by
  unfold readItems
  rw [List.map_cons, readLines_cons, readLine_header calendar carriageReturn [] header]
  exact readLines_iff (cellTexts_ne_nil headers) proper

def CsvTable.columns (table : CsvTable) (cells : List CsvCell) : List (Text × Text) :=
  (cellTexts table.headers).zip (cellTexts cells)

def CsvTable.records (calendar : Calendar) (table : CsvTable) : List InfluxRecord :=
  table.rows.map fun row => recordOf calendar (table.columns row)

theorem InfluxClient.executeFluxReadQuery_answered (client : InfluxClient) (calendar : Calendar) (fluxQuery : Text)
    (error : Option Text) {status : Int} (success : isSuccessStatus status = true) (response : Text) :
    (client.executeFluxReadQuery calendar fluxQuery error (.request (.answered status response))).records =
      readRecords calendar response := by
  simp [executeFluxReadQuery, sendRequest, success]

/-- Every data row becomes one record under the header of its own table, and nothing
else becomes a record. -/
structure ReadUnderOwnHeaders (calendar : Calendar) (carriageReturn : Bool) (tables : List CsvTable) : Prop where
  records : ∀ (client : InfluxClient) fluxQuery error status, isSuccessStatus status = true →
    (client.executeFluxReadQuery calendar fluxQuery error
        (.request (.answered status (responseText carriageReturn tables)))).records =
      .ok (tables.flatMap (CsvTable.records calendar))
  headerRows : ∀ earlier table later, tables = earlier ++ table :: later → ∀ headers found,
    readItems calendar carriageReturn (earlier.flatMap CsvTable.items) = .ok (headers, found) →
    (readLine calendar headers found (rawLine carriageReturn (some table.headers))).map Prod.snd = .ok found
  columns : ∀ earlier table later, tables = earlier ++ table :: later → ∀ before row after,
    table.rows = before ++ row :: after → ∀ headers found,
    readItems calendar carriageReturn (earlier.flatMap CsvTable.items ++ some table.headers :: before.map some) =
      .ok (headers, found) → headers = cellTexts table.headers

/-- Only the first table has data rows, each with a time, and the header rows of the
other tables are no records under the header of the first. -/
structure FirstTableOnly (calendar : Calendar) (first : CsvTable) (rest : List CsvTable) : Prop where
  timed : ∀ row ∈ first.rows, TimesConvert calendar (first.columns row) ∧ columnText "_time" (first.columns row) ≠ []
  empty : ∀ table ∈ rest, table.rows = []
  passed : ∀ table ∈ rest, table.headers.length < first.headers.length ∨
    TimesConvert calendar (first.columns table.headers) ∧ columnText "_time" (first.columns table.headers) = []

private theorem readRow_eq_ok_iff {calendar : Calendar} {cells : List (Text × Text)} {record : InfluxRecord} :
    readRow calendar cells = .ok record ↔ TimesConvert calendar cells ∧ record = recordOf calendar cells := by
  constructor
  · intro read
    have converts := readRow_converts read
    rw [readRow_ok converts] at read
    cases read
    exact ⟨converts, rfl⟩
  · rintro ⟨converts, rfl⟩
    exact readRow_ok converts

private theorem length_cellTexts_lt {first second : List CsvCell} :
    (cellTexts first).length < (cellTexts second).length ↔ first.length < second.length := by
  simp only [cellTexts, List.length_cons, List.length_map]
  omega

theorem itemRecords_cells {calendar : Calendar} {table : CsvTable} {cells : List CsvCell} {added : List InfluxRecord} :
    itemRecords calendar (cellTexts table.headers) (some cells) = .ok added ↔
      cells.length < table.headers.length ∧ added = [] ∨
      ¬ cells.length < table.headers.length ∧ TimesConvert calendar (table.columns cells) ∧
        added = if columnText "_time" (table.columns cells) = [] then [] else [recordOf calendar (table.columns cells)] := by
  simp only [itemRecords, length_cellTexts_lt]
  by_cases short : cells.length < table.headers.length
  · rw [if_pos short]
    simp only [short, true_and, not_true_eq_false, false_and, or_false]
    exact ⟨fun same => by cases same; rfl, fun same => by rw [same]⟩
  · rw [if_neg short]
    simp only [short, false_and, not_false_eq_true, true_and, false_or]
    change (readRow calendar (table.columns cells)).map _ = _ ↔ _
    constructor
    · intro same
      cases read : readRow calendar (table.columns cells) with
      | error exception => rw [read] at same; cases same
      | ok record =>
        obtain ⟨converts, rfl⟩ := readRow_eq_ok_iff.mp read
        rw [read] at same
        cases same
        exact ⟨converts, by simp only [recordOf, List.isEmpty_iff]⟩
    · rintro ⟨converts, rfl⟩
      rw [readRow_ok converts]
      simp only [Except.map, recordOf, List.isEmpty_iff]

private theorem itemRecords_eq_nil_iff {calendar : Calendar} {table : CsvTable} {cells : List CsvCell} :
    itemRecords calendar (cellTexts table.headers) (some cells) = .ok [] ↔
      cells.length < table.headers.length ∨
        TimesConvert calendar (table.columns cells) ∧ columnText "_time" (table.columns cells) = [] := by
  rw [itemRecords_cells]
  by_cases short : cells.length < table.headers.length
  · simp only [short, true_or, true_and]
  · simp only [short, false_and, false_or, not_false_eq_true, true_and]
    refine and_congr_right fun _ => ?_
    split
    next empty => simp only [empty]
    next filled => simp only [filled, reduceCtorEq]

private theorem length_addedBy_le (calendar : Calendar) (table : CsvTable) (item : CsvItem) :
    (addedBy calendar (cellTexts table.headers) item).length ≤ 1 := by
  unfold addedBy
  cases read : itemRecords calendar (cellTexts table.headers) item with
  | error exception => exact Nat.zero_le 1
  | ok added =>
    cases item with
    | none => cases read; exact Nat.zero_le 1
    | some cells =>
      rcases itemRecords_cells.mp read with ⟨_, rfl⟩ | ⟨_, _, rfl⟩
      · exact Nat.zero_le 1
      · split <;> simp [Except.toOption]

theorem timed_of_added {calendar : Calendar} {table : CsvTable} {row : List CsvCell}
    (read : itemRecords calendar (cellTexts table.headers) (some row) =
      .ok (addedBy calendar (cellTexts table.headers) (some row)))
    (one : (addedBy calendar (cellTexts table.headers) (some row)).length = 1) :
    TimesConvert calendar (table.columns row) ∧ columnText "_time" (table.columns row) ≠ [] := by
  rcases itemRecords_cells.mp read with ⟨_, empty⟩ | ⟨_, converts, added⟩
  · rw [empty] at one
    cases one
  · refine ⟨converts, fun empty => ?_⟩
    rw [added, if_pos empty] at one
    cases one

private theorem addedBy_eq {calendar : Calendar} {headers : List Text} {item : CsvItem} {added : List InfluxRecord}
    (read : itemRecords calendar headers item = .ok added) : addedBy calendar headers item = added := by
  rw [addedBy, read]
  rfl

private theorem length_one_of_flatMap {α β : Type} {found : α → List β} {items : List α}
    (most : ∀ item ∈ items, (found item).length ≤ 1) (total : (items.flatMap found).length = items.length) :
    ∀ item ∈ items, (found item).length = 1 := by
  have bound : ∀ {items : List α}, (∀ item ∈ items, (found item).length ≤ 1) →
      (items.flatMap found).length ≤ items.length := by
    intro items most
    induction items with
    | nil => exact Nat.le_refl 0
    | cons item items ih =>
      have here := most item List.mem_cons_self
      have later := ih fun other member => most other (List.mem_cons_of_mem _ member)
      rw [List.flatMap_cons, List.length_append, List.length_cons]
      omega
  induction items with
  | nil => intro item member; cases member
  | cons item items ih =>
    obtain ⟨here, later⟩ := List.forall_mem_cons.mp most
    have := bound later
    rw [List.flatMap_cons, List.length_append, List.length_cons] at total
    refine List.forall_mem_cons.mpr ⟨by omega, ih later (by omega)⟩

private theorem lastCell_mem {name cell : Text} {headers cells : List Text}
    (last : lastCell name (headers.zip cells) = some cell) :
    name ∈ headers := by
  have member := List.mem_of_getLast? last
  simp only [List.mem_map, List.mem_filter, decide_eq_true_eq] at member
  obtain ⟨pair, ⟨inside, rfl⟩, _⟩ := member
  exact (List.of_mem_zip inside).1

theorem lastCell_own {name : Text} {headers : List Text} (member : name ∈ headers) :
    lastCell name (headers.zip headers) = some name := by
  have paired : headers.zip headers = headers.map fun header => (header, header) := by
    clear member
    induction headers with
    | nil => rfl
    | cons header headers ih => rw [List.zip_cons_cons, List.map_cons, ih]
  obtain ⟨before, after, rfl⟩ := List.append_of_mem member
  unfold lastCell
  rw [paired]
  have own : ∀ cell ∈ (((before ++ name :: after).map fun header => (header, header)).filter
      fun cell => cell.1 = name).map Prod.snd, cell = name := by
    intro cell inside
    simp only [List.mem_map, List.mem_filter, decide_eq_true_eq] at inside
    obtain ⟨pair, ⟨⟨header, _, rfl⟩, rfl⟩, rfl⟩ := inside
    rfl
  cases last : List.getLast? _ with
  | some cell => rw [own cell (List.mem_of_getLast? last)]
  | none => simp at last

def CsvTable.body (table : CsvTable) : List CsvItem := table.rows.map some ++ List.replicate table.blankLines none

private theorem flatMap_items_cons (first : CsvTable) (tables : List CsvTable) :
    (first :: tables).flatMap CsvTable.items = some first.headers :: (first.body ++ tables.flatMap CsvTable.items) := rfl

private theorem flatMap_items_proper {tables : List CsvTable} {cells : List CsvCell}
    (member : some cells ∈ tables.flatMap CsvTable.items) : ProperCells cells := by
  obtain ⟨table, _, here⟩ := List.mem_flatMap.mp member
  exact table.items_proper here

theorem readItems_tables_iff {calendar : Calendar} {carriageReturn : Bool} {first : CsvTable} {items tail : List CsvItem}
    {tables : List CsvTable} (part : items ++ tail = (first :: tables).flatMap CsvTable.items) (some_line : items ≠ [])
    {kept : List Text} {found : List InfluxRecord} :
    readItems calendar carriageReturn items = .ok (kept, found) ↔
      (∀ item ∈ items.tail, itemRecords calendar (cellTexts first.headers) item =
        .ok (addedBy calendar (cellTexts first.headers) item)) ∧
      kept = cellTexts first.headers ∧ found = items.tail.flatMap (addedBy calendar (cellTexts first.headers)) := by
  obtain ⟨item, items, rfl⟩ := List.exists_cons_of_ne_nil some_line
  rw [flatMap_items_cons, List.cons_append] at part
  injection part with same part
  subst same
  refine readItems_iff (first.proper List.mem_cons_self) fun cells member => ?_
  have inside : some cells ∈ (first :: tables).flatMap CsvTable.items := by
    rw [flatMap_items_cons, ← part]
    exact List.mem_cons_of_mem _ (List.mem_append_left _ member)
  exact flatMap_items_proper inside

private theorem flatMap_body {added : CsvItem → List InfluxRecord} (blank : added none = []) (table : CsvTable) :
    table.body.flatMap added = table.rows.flatMap fun row => added (some row) := by
  rw [CsvTable.body, List.flatMap_append, List.flatMap_map, List.flatMap_replicate, blank]
  simp

theorem flatMap_rows {added : CsvItem → List InfluxRecord} (blank : added none = []) {tables : List CsvTable}
    (passed : ∀ table ∈ tables, added (some table.headers) = []) :
    (tables.flatMap CsvTable.items).flatMap added =
      (tables.flatMap CsvTable.rows).flatMap fun row => added (some row) := by
  induction tables with
  | nil => rfl
  | cons table tables ih =>
    obtain ⟨here, later⟩ := List.forall_mem_cons.mp passed
    rw [flatMap_items_cons, List.flatMap_cons, List.flatMap_cons, List.flatMap_append, List.flatMap_append, here,
      List.nil_append, flatMap_body blank, ih later]

theorem FirstTableOnly.reads {calendar : Calendar} {first : CsvTable} {rest : List CsvTable}
    (only : FirstTableOnly calendar first rest) :
    ∀ item ∈ first.body ++ rest.flatMap CsvTable.items,
      itemRecords calendar (cellTexts first.headers) item = .ok (addedBy calendar (cellTexts first.headers) item) := by
  have known {item : CsvItem} {added : List InfluxRecord}
      (read : itemRecords calendar (cellTexts first.headers) item = .ok added) :
      itemRecords calendar (cellTexts first.headers) item = .ok (addedBy calendar (cellTexts first.headers) item) := by
    rw [addedBy_eq read, read]
  intro item member
  cases item with
  | none => exact known rfl
  | some cells =>
    rcases List.mem_append.mp member with own | later
    · have row : cells ∈ first.rows := by simpa [CsvTable.body] using own
      refine known (itemRecords_cells.mpr (.inr ⟨?_, (only.timed cells row).1, rfl⟩))
      exact Nat.not_lt_of_le (first.aligned cells row).ge
    · obtain ⟨table, inRest, here⟩ := List.mem_flatMap.mp later
      have header : cells = table.headers := by simpa [CsvTable.items, only.empty table inRest] using here
      subst header
      exact known (itemRecords_eq_nil_iff.mpr (only.passed table inRest))

private theorem FirstTableOnly.addedBy_row {calendar : Calendar} {first : CsvTable} {rest : List CsvTable}
    (only : FirstTableOnly calendar first rest) {row : List CsvCell} (member : row ∈ first.rows) :
    addedBy calendar (cellTexts first.headers) (some row) = [recordOf calendar (first.columns row)] := by
  obtain ⟨converts, filled⟩ := only.timed row member
  refine addedBy_eq (itemRecords_cells.mpr (.inr ⟨?_, converts, (if_neg filled).symm⟩))
  exact Nat.not_lt_of_le (first.aligned row member).ge

private theorem FirstTableOnly.addedBy_header {calendar : Calendar} {first : CsvTable} {rest : List CsvTable}
    (only : FirstTableOnly calendar first rest) {table : CsvTable} (member : table ∈ rest) :
    addedBy calendar (cellTexts first.headers) (some table.headers) = [] :=
  addedBy_eq (itemRecords_eq_nil_iff.mpr (only.passed table member))

theorem FirstTableOnly.rows {calendar : Calendar} {first : CsvTable} {rest : List CsvTable}
    (only : FirstTableOnly calendar first rest) {table : CsvTable} {earlier later : List CsvTable}
    (split : first :: rest = earlier ++ table :: later) (some_row : table.rows ≠ []) : earlier = [] ∧ table = first := by
  cases earlier with
  | nil => injection split with same _; exact ⟨rfl, same.symm⟩
  | cons other earlier =>
    injection split with _ split
    exact absurd (only.empty table (split ▸ List.mem_append_right _ List.mem_cons_self)) some_row

/-- What each line of the response adds, when only the first table has data rows. -/
theorem FirstTableOnly.read {calendar : Calendar} {first : CsvTable} {rest : List CsvTable}
    (only : FirstTableOnly calendar first rest) (carriageReturn : Bool) :
    ReadUnderOwnHeaders calendar carriageReturn (first :: rest) := by
  have reads := only.reads
  refine ⟨?_, ?_, ?_⟩
  · have whole : readItems calendar carriageReturn ((first :: rest).flatMap CsvTable.items) = .ok (_, _) :=
      (readItems_tables_iff (List.append_nil _) (List.cons_ne_nil _ _)).mpr ⟨reads, rfl, rfl⟩
    have later : rest.flatMap CsvTable.rows = [] := List.flatMap_eq_nil_iff.mpr only.empty
    have laterRecords : rest.flatMap (CsvTable.records calendar) = [] :=
      List.flatMap_eq_nil_iff.mpr fun table member => by rw [CsvTable.records, only.empty table member]; rfl
    have found : (first.body ++ rest.flatMap CsvTable.items).flatMap (addedBy calendar (cellTexts first.headers)) =
        first.records calendar := by
      rw [List.flatMap_append, flatMap_body rfl, flatMap_rows rfl fun table member => only.addedBy_header member,
        later, List.flatMap_nil, List.append_nil, CsvTable.records, List.map_eq_flatMap]
      exact List.flatMap_congr fun row member => only.addedBy_row member
    intro client fluxQuery error status success
    rw [client.executeFluxReadQuery_answered calendar fluxQuery error success, readRecords_responseText, whole, Except.map]
    change Except.ok ((first.body ++ rest.flatMap CsvTable.items).flatMap _) =
      Except.ok (first.records calendar ++ rest.flatMap (CsvTable.records calendar))
    rw [found, laterRecords, List.append_nil]
  · intro earlier table later split headers found read
    have proper := table.proper List.mem_cons_self
    cases earlier with
    | nil =>
      cases read
      rw [readLine_header calendar carriageReturn [] proper]
      rfl
    | cons other earlier =>
      injection split with same split
      subst same
      have part : (first :: earlier).flatMap CsvTable.items ++ (table :: later).flatMap CsvTable.items =
          (first :: rest).flatMap CsvTable.items := by
        rw [← List.flatMap_append, split]
        rfl
      obtain ⟨_, rfl, rfl⟩ := (readItems_tables_iff part (List.cons_ne_nil _ _)).mp read
      have member : table ∈ rest := split ▸ List.mem_append_right _ List.mem_cons_self
      rw [readLine_item calendar carriageReturn (cellTexts_ne_nil _) _ fun cells same => by cases same; exact proper,
        itemRecords_eq_nil_iff.mpr (only.passed table member), Except.map, List.append_nil]
      rfl
  · intro earlier table later split before row after rows headers found read
    obtain ⟨rfl, rfl⟩ := only.rows split (by rw [rows]; exact List.append_ne_nil_of_right_ne_nil _ (List.cons_ne_nil _ _))
    have part : (some table.headers :: before.map some) ++
        ((row :: after).map some ++ List.replicate table.blankLines none ++ rest.flatMap CsvTable.items) =
          (table :: rest).flatMap CsvTable.items := by
      rw [flatMap_items_cons, CsvTable.body, rows, List.map_append]
      simp only [List.cons_append, List.append_assoc]
    exact ((readItems_tables_iff part (List.cons_ne_nil _ _)).mp read).2.1

/-- The whole response is read without an exception, so each of its lines is. -/
theorem ReadUnderOwnHeaders.lines {calendar : Calendar} {carriageReturn : Bool} {first : CsvTable} {rest : List CsvTable}
    (own : ReadUnderOwnHeaders calendar carriageReturn (first :: rest)) :
    (∀ item ∈ first.body ++ rest.flatMap CsvTable.items,
      itemRecords calendar (cellTexts first.headers) item = .ok (addedBy calendar (cellTexts first.headers) item)) ∧
    (first :: rest).flatMap (CsvTable.records calendar) =
      (first.body ++ rest.flatMap CsvTable.items).flatMap (addedBy calendar (cellTexts first.headers)) := by
  have records := own.records { config := {} } [] none 200 rfl
  rw [InfluxClient.executeFluxReadQuery_answered _ _ _ _ rfl, readRecords_responseText] at records
  cases read : readItems calendar carriageReturn ((first :: rest).flatMap CsvTable.items) with
  | error exception => rw [read] at records; cases records
  | ok state =>
    rw [read] at records
    injection records with expected
    obtain ⟨reads, _, found⟩ :=
      (readItems_tables_iff (List.append_nil ((first :: rest).flatMap CsvTable.items)) (List.cons_ne_nil _ _)).mp read
    exact ⟨reads, expected.symm.trans found⟩

theorem ReadUnderOwnHeaders.before {calendar : Calendar} {carriageReturn : Bool} {first : CsvTable} {rest : List CsvTable}
    (own : ReadUnderOwnHeaders calendar carriageReturn (first :: rest)) {items tail : List CsvItem}
    (part : items ++ tail = (first :: rest).flatMap CsvTable.items) (line : items ≠ []) :
    readItems calendar carriageReturn items =
      .ok (cellTexts first.headers, items.tail.flatMap (addedBy calendar (cellTexts first.headers))) := by
  refine (readItems_tables_iff part line).mpr ⟨fun item member => own.lines.1 item ?_, rfl, rfl⟩
  have inside : item ∈ ((first :: rest).flatMap CsvTable.items).tail := by
    rw [← part, List.tail_append_of_ne_nil line]
    exact List.mem_append_left _ member
  exact inside

theorem ReadUnderOwnHeaders.passed {calendar : Calendar} {carriageReturn : Bool} {first : CsvTable} {rest : List CsvTable}
    (own : ReadUnderOwnHeaders calendar carriageReturn (first :: rest)) {table : CsvTable} (member : table ∈ rest) :
    itemRecords calendar (cellTexts first.headers) (some table.headers) = .ok [] := by
  obtain ⟨earlier, later, rfl⟩ := List.append_of_mem member
  have part : (first :: earlier).flatMap CsvTable.items ++ (table :: later).flatMap CsvTable.items =
      (first :: (earlier ++ table :: later)).flatMap CsvTable.items := List.flatMap_append.symm
  have start := own.before part (List.cons_ne_nil _ _)
  have header := own.headerRows (first :: earlier) table later rfl _ _ start
  rw [readLine_item calendar carriageReturn (cellTexts_ne_nil _) _ fun cells same => by
    cases same; exact table.proper List.mem_cons_self] at header
  cases read : itemRecords calendar (cellTexts first.headers) (some table.headers) with
  | error exception => rw [read] at header; cases header
  | ok added =>
    rw [read] at header
    injection header with same
    rw [List.append_right_eq_self.mp same]

/-- As many records as data rows, and at most one from each. -/
theorem ReadUnderOwnHeaders.one {calendar : Calendar} {carriageReturn : Bool} {first : CsvTable} {rest : List CsvTable}
    (own : ReadUnderOwnHeaders calendar carriageReturn (first :: rest)) :
    ∀ row ∈ (first :: rest).flatMap CsvTable.rows,
      (addedBy calendar (cellTexts first.headers) (some row)).length = 1 := by
  refine length_one_of_flatMap (fun row _ => length_addedBy_le calendar first (some row)) ?_
  have records := own.lines.2
  rw [List.flatMap_append, flatMap_body rfl, flatMap_rows rfl fun table member => addedBy_eq (own.passed member),
    ← List.flatMap_append, ← List.flatMap_cons] at records
  rw [← records]
  simp only [List.length_flatMap, CsvTable.records, List.length_map]

theorem ReadUnderOwnHeaders.timed {calendar : Calendar} {carriageReturn : Bool} {first : CsvTable} {rest : List CsvTable}
    (own : ReadUnderOwnHeaders calendar carriageReturn (first :: rest)) {table : CsvTable}
    (member : table ∈ first :: rest) {row : List CsvCell} (inside : row ∈ table.rows) :
    TimesConvert calendar (first.columns row) ∧ columnText "_time" (first.columns row) ≠ [] := by
  refine timed_of_added (own.lines.1 _ ?_) (own.one row (List.mem_flatMap.mpr ⟨table, member, inside⟩))
  have line : some row ∈ table.body := List.mem_append_left _ (List.mem_map_of_mem inside)
  rcases List.mem_cons.mp member with rfl | later
  · exact List.mem_append_left _ line
  · exact List.mem_append_right _ (List.mem_flatMap.mpr ⟨table, later, List.mem_cons_of_mem _ line⟩)

/-- A later table with a data row would be read under its own header, and its header
row would be a record too. -/
theorem ReadUnderOwnHeaders.empty {calendar : Calendar} {carriageReturn : Bool} {first : CsvTable} {rest : List CsvTable}
    (own : ReadUnderOwnHeaders calendar carriageReturn (first :: rest)) {table : CsvTable} (member : table ∈ rest) :
    table.rows = [] := by
  cases rows : table.rows with
  | nil => rfl
  | cons row after =>
    exfalso
    have header := itemRecords_eq_nil_iff.mp (own.passed member)
    obtain ⟨_, filled⟩ := own.timed (List.mem_cons_of_mem _ member) (rows ▸ List.mem_cons_self)
    obtain ⟨earlier, later, rfl⟩ := List.append_of_mem member
    have part : ((first :: earlier).flatMap CsvTable.items ++ [some table.headers]) ++
        (table.body ++ later.flatMap CsvTable.items) =
          (first :: (earlier ++ table :: later)).flatMap CsvTable.items := by
      rw [← List.cons_append, List.flatMap_append, flatMap_items_cons table, List.append_assoc, List.singleton_append]
    have same : cellTexts first.headers = cellTexts table.headers :=
      own.columns (first :: earlier) table later rfl [] row after rows _ _ (own.before part (List.cons_ne_nil _ _))
    have named : ("_time" : Text) ∈ cellTexts first.headers := by
      cases last : lastCell "_time" (first.columns row) with
      | none => exact absurd (by rw [columnText, last]; rfl) filled
      | some cell => exact lastCell_mem last
    rcases header with short | ⟨_, empty⟩
    · have lengths := congrArg List.length same
      simp only [cellTexts, List.length_cons, List.length_map] at lengths
      omega
    · rw [CsvTable.columns, ← same, columnText, lastCell_own named] at empty
      exact absurd empty (by decide)

theorem ReadUnderOwnHeaders.only {calendar : Calendar} {carriageReturn : Bool} {first : CsvTable} {rest : List CsvTable}
    (own : ReadUnderOwnHeaders calendar carriageReturn (first :: rest)) : FirstTableOnly calendar first rest where
  timed _ := own.timed List.mem_cons_self
  empty _ := own.empty
  passed _ member := itemRecords_eq_nil_iff.mp (own.passed member)

theorem tables_read_iff (calendar : Calendar) (carriageReturn : Bool) (first : CsvTable) (rest : List CsvTable) :
    ReadUnderOwnHeaders calendar carriageReturn (first :: rest) ↔ FirstTableOnly calendar first rest :=
  ⟨ReadUnderOwnHeaders.only, fun only => only.read carriageReturn⟩

section Counterexample

def epochCalendar : Calendar :=
  ⟨fun _ => [], fun text => if text = "1970-01-01T00:00:00" then some 0 else none⟩

def epochText : Text := "1970-01-01T00:00:00Z"

def plainCell (text : Text) : CsvCell :=
  if plain : ',' ∉ text ∧ '"' ∉ text then ⟨text, false, fun _ => plain⟩ else CsvCell.empty

private theorem ended_of_all {lines : List (List CsvCell)}
    (trimmed : (lines.all fun line => line.getLast?.all fun cell => cell.text.getLast?.all fun c => !isspace c) = true) :
    ∀ line ∈ lines, ∀ cell ∈ line.getLast?, ∀ c ∈ cell.text.getLast?, isspace c = false := by
  intro line member cell last c ending
  have cells := Option.all_eq_true _ _ |>.mp (List.all_eq_true.mp trimmed line member) cell last
  have plain := Option.all_eq_true _ _ |>.mp cells c ending
  simpa using plain

def numberTable : CsvTable where
  headers := [plainCell "_time", plainCell "_value"]
  rows := [[plainCell epochText, plainCell "1"]]
  blankLines := 1
  named := by decide
  aligned := by decide
  unbroken := by decide
  ended := ended_of_all (by decide)

def unitTable : CsvTable where
  headers := [plainCell "_time", plainCell "unit", plainCell "_value"]
  rows := [[plainCell epochText, plainCell "mm", plainCell "2"]]
  blankLines := 1
  named := by decide
  aligned := by decide
  unbroken := by decide
  ended := ended_of_all (by decide)

/-- The header row of the second table is a record, and the unit is read as the value. -/
theorem second_table_read_under_first_header :
    (InfluxClient.executeFluxReadQuery { config := {} } epochCalendar [] none
      (.request (.answered 200 (responseText true [numberTable, unitTable])))).records = .ok
        [{ time := epochText, value := "1" }, { time := "_time", value := "unit" }, { time := epochText, value := "mm" }] ∧
    ¬ ReadUnderOwnHeaders epochCalendar true [numberTable, unitTable] :=
  ⟨by decide +kernel, fun own => absurd (own.empty List.mem_cons_self) (by decide)⟩

end Counterexample

end OpcUaAdapter
