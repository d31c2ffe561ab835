import OpcUaAdapter.InfluxClient
import OpcUaAdapter.Library.Quoted
import OpcUaAdapter.Proofs.TimestampRoundTrip

/-! The text of a history query, which is a string of a JSON body and has string literals
of its own: which of the configured strings can be told from the text around them. -/

namespace OpcUaAdapter

/-- The escapes that `escapeJson` writes stand for the same in JSON and in Flux. The
others of JSON, such as a code of four digits, are never written. -/
def letterMeaning : Char → Option Char
  | '\\' => some '\\'
  | '"' => some '"'
  | 'n' => some '\n'
  | 'r' => some '\r'
  | 't' => some '\t'
  | _ => none

/-- A string of JSON. It must not contain control characters. -/
def jsonQuoting : Quoting Char where
  quote := '"'
  mark := '\\'
  decode := letterMeaning
  refuses c _ := c.toNat < 0x20

/-- A string literal of Flux. A dollar sign and an opening brace start an expression in it. -/
def fluxQuoting : Quoting Char where
  quote := '"'
  mark := '\\'
  decode := letterMeaning
  refuses c next := c = '$' && next = some '\x7b'

def jsonCode : Char → Option Char
  | '\\' => some '\\'
  | '"' => some '"'
  | '\n' => some 'n'
  | '\r' => some 'r'
  | '\t' => some 't'
  | _ => none

private theorem jsonCode_none {c : Char} (mark : c ≠ '\\') (quote : c ≠ '"') (newline : c ≠ '\n') (feed : c ≠ '\r')
    (tab : c ≠ '\t') : jsonCode c = none := by
  unfold jsonCode
  split
  next => exact absurd rfl mark
  next => exact absurd rfl quote
  next => exact absurd rfl newline
  next => exact absurd rfl feed
  next => exact absurd rfl tab
  next => rfl

theorem letterMeaning_jsonCode (c d : Char) (coded : jsonCode c = some d) : letterMeaning d = some c := by
  unfold jsonCode at coded
  split at coded
  all_goals cases coded
  all_goals rfl

private theorem json_codes : jsonQuoting.Codes jsonCode := ⟨by decide, rfl, rfl, letterMeaning_jsonCode⟩

private theorem flux_codes : fluxQuoting.Codes jsonCode := ⟨by decide, rfl, rfl, letterMeaning_jsonCode⟩

private theorem escapeJson_eq (input : Text) : escapeJson input = fluxQuoting.escape jsonCode input := by
  refine List.flatMap_congr fun c _ => ?_
  split
  all_goals try rfl
  next mark quote newline feed tab => rw [jsonCode_none mark quote newline feed tab]

def Printable (text : Text) : Prop := ∀ c ∈ text, jsonCode c = none → ¬ c.toNat < 0x20

instance : DecidablePred Printable := fun text =>
  decidable_of_iff ((text.all fun c => jsonCode c = none → ¬ c.toNat < 0x20) = true) (by simp [Printable, imp_iff_not_or])

private theorem json_fine {text : Text} (printable : Printable text) : jsonQuoting.fine jsonCode text = true := by
  induction text with
  | nil => rfl
  | cons c rest ih =>
    obtain ⟨here, later⟩ := List.forall_mem_cons.mp printable
    rw [Quoting.fine, ih later, Bool.and_true]
    cases coded : jsonCode c with
    | some d => rfl
    | none => simpa [jsonQuoting] using here coded

def interpolation : Text := ['$', '\x7b']

private theorem head_escape (rest : Text) :
    (fluxQuoting.escape jsonCode rest ++ [fluxQuoting.quote]).head? = some '\x7b' ↔ rest.head? = some '\x7b' := by
  cases rest with
  | nil => decide
  | cons c rest =>
    cases coded : jsonCode c with
    | some d =>
      have brace : c ≠ '\x7b' := by
        rintro rfl
        cases coded
      rw [Quoting.escape_coded coded]
      exact iff_of_false (by simp [fluxQuoting]) (by simpa using brace)
    | none => rw [Quoting.escape_bare coded, List.cons_append, List.head?_cons, List.head?_cons]

theorem flux_fine_iff (text : Text) : fluxQuoting.fine jsonCode text = true ↔ ¬ interpolation <:+: text := by
  induction text with
  | nil => exact iff_of_true rfl (by decide)
  | cons c rest ih =>
    have head : interpolation <+: c :: rest ↔ c = '$' ∧ rest.head? = some '\x7b' := by
      cases rest <;> simp [interpolation, List.cons_prefix_cons, eq_comm]
    rw [Quoting.fine, Bool.and_eq_true, ih, List.infix_cons_iff, not_or, head, ← head_escape rest]
    refine and_congr_left fun _ => ?_
    by_cases dollar : c = '$'
    · subst dollar
      simp [fluxQuoting, jsonCode]
    · simp [fluxQuoting, dollar]

/-- The literals from a given one on, each with the text behind it: a key and a value for
each tag. -/
def tagParts (value : Text) : List TagInformation → List (Text × Text)
  | [] => [(value, ")")]
  | tag :: tags => (value, ") |> filter(fn: (r) => r[") :: (tag.key, "] == ") :: tagParts tag.value tags

def fieldParts (value fieldKey : Text) (tags : List TagInformation) : List (Text × Text) :=
  if fieldKey.isEmpty then tagParts value tags
  else (value, ") |> filter(fn: (r) => r._field == ") :: tagParts fieldKey tags

def tagTexts (count : Nat) : List Text :=
  (List.replicate count [(") |> filter(fn: (r) => r[" : Text), "] == "]).flatten ++ [(")" : Text)]

def queryTexts (fieldEmpty : Bool) (count : Nat) : List Text :=
  [("from(bucket: " : Text), ") |> range(start: time(v: ", "), stop: time(v: ",
    ")) |> filter(fn: (r) => r._measurement == "] ++
  (if fieldEmpty then [] else [(") |> filter(fn: (r) => r._field == " : Text)]) ++ tagTexts count

def queryValues (config : InfluxConfig) (start stop fieldKey : Text) (tags : List TagInformation) : List Text :=
  [config.bucket, start, stop, config.measurement] ++ (if fieldKey.isEmpty then [] else [fieldKey]) ++
    tags.flatMap fun tag => [tag.key, tag.value]

def unquoted (text : Text) : Bool := text.all fun c => c ≠ '"' ∧ ¬ c.toNat < 0x20

private theorem queryTexts_unquoted (fieldEmpty : Bool) (count : Nat) :
    ∀ text ∈ queryTexts fieldEmpty count, unquoted text = true := by
  unfold queryTexts tagTexts
  refine List.forall_mem_append.mpr ⟨List.forall_mem_append.mpr ⟨by decide, ?_⟩,
    List.forall_mem_append.mpr ⟨?_, by decide⟩⟩
  · cases fieldEmpty <;> decide
  · intro text member
    obtain ⟨texts, repeated, inside⟩ := List.mem_flatten.mp member
    rw [List.eq_of_mem_replicate repeated] at inside
    clear member repeated
    revert text
    decide

theorem queryTexts_plain (fieldEmpty : Bool) (count : Nat) :
    ∀ text ∈ queryTexts fieldEmpty count, ∀ c ∈ text, c ≠ '"' ∧ ¬ c.toNat < 0x20 :=
  fun text member => forall_of_all (queryTexts_unquoted fieldEmpty count text member)

private theorem tagParts_texts (value : Text) (tags : List TagInformation) :
    (tagParts value tags).map Prod.snd = tagTexts tags.length := by
  induction tags generalizing value with
  | nil => rfl
  | cons tag tags ih =>
    simp only [tagParts, List.map_cons, ih, tagTexts, List.length_cons, List.replicate_succ, List.flatten_cons,
      List.cons_append, List.nil_append]

private theorem tagParts_values (value : Text) (tags : List TagInformation) :
    (tagParts value tags).map Prod.fst = value :: tags.flatMap fun tag => [tag.key, tag.value] := by
  induction tags generalizing value with
  | nil => rfl
  | cons tag tags ih =>
    simp only [tagParts, List.map_cons, ih, List.flatMap_cons, List.cons_append, List.nil_append]

theorem quotes_apart {before opening after between closing closed key value rest : Text}
    (opens : before ++ opening = after ++ ['"']) (separates : between = '"' :: (closed ++ ['"'])) :
    before ++ (opening ++ key ++ between ++ value ++ '"' :: closing ++ rest) =
      after ++ '"' :: (key ++ '"' :: (closed ++ '"' :: (value ++ '"' :: (closing ++ rest)))) := by
  have front : before ++ (opening ++ key) = after ++ '"' :: key := by
    rw [← List.append_assoc, opens, List.append_assoc, List.singleton_append]
  rw [separates]
  simp only [← List.append_assoc] at front ⊢
  rw [front]
  simp only [List.append_assoc, List.cons_append, List.nil_append]

private theorem quote_apart {before opening after closing key rest : Text} (opens : before ++ opening = after ++ ['"']) :
    before ++ (opening ++ key ++ '"' :: closing ++ rest) = after ++ '"' :: (key ++ '"' :: (closing ++ rest)) := by
  have front : before ++ (opening ++ key) = after ++ '"' :: key := by
    rw [← List.append_assoc, opens, List.append_assoc, List.singleton_append]
  rw [List.append_assoc, ← List.append_assoc before, front, List.append_assoc, List.cons_append, List.cons_append]

theorem fluxTagFilter_written (tag : TagInformation) (rest : Text) :
    (")" : Text) ++ (fluxTagFilter tag ++ rest) =
      (") |> filter(fn: (r) => r[" : Text) ++ '"' :: (escapeJson tag.key ++ '"' :: (("] == " : Text) ++
        '"' :: (escapeJson tag.value ++ '"' :: ((")" : Text) ++ rest)))) :=
  quotes_apart (by decide) (by decide)

private theorem tagParts_written (value : Text) (tags : List TagInformation) :
    (tagParts value tags).flatMap (fun part => '"' :: (escapeJson part.1 ++ '"' :: part.2)) =
      '"' :: (escapeJson value ++ '"' :: (")" ++ tags.flatMap fluxTagFilter)) := by
  induction tags generalizing value with
  | nil => simp only [tagParts, List.flatMap_cons, List.flatMap_nil, List.append_nil]
  | cons tag tags ih =>
    rw [tagParts, List.flatMap_cons, List.flatMap_cons, List.flatMap_cons, ih, fluxTagFilter_written]
    simp only [List.append_assoc, List.cons_append]

private theorem fluxFieldFilter_written (fieldKey rest : Text) (filled : fieldKey.isEmpty = false) :
    (")" : Text) ++ (fluxFieldFilter fieldKey ++ rest) =
      (") |> filter(fn: (r) => r._field == " : Text) ++ '"' :: (escapeJson fieldKey ++ '"' :: ((")" : Text) ++ rest)) := by
  rw [fluxFieldFilter, filled]
  exact quote_apart (by decide)

private theorem fieldParts_written (value fieldKey : Text) (tags : List TagInformation) :
    (fieldParts value fieldKey tags).flatMap (fun part => '"' :: (escapeJson part.1 ++ '"' :: part.2)) =
      '"' :: (escapeJson value ++ '"' :: (")" ++ (fluxFieldFilter fieldKey ++ tags.flatMap fluxTagFilter))) := by
  unfold fieldParts
  cases filled : fieldKey.isEmpty with
  | true =>
    rw [if_pos rfl, tagParts_written, fluxFieldFilter, if_pos filled, List.nil_append]
  | false =>
    rw [if_neg (by decide), List.flatMap_cons, tagParts_written, fluxFieldFilter_written _ _ filled]
    simp only [List.append_assoc, List.cons_append]

private theorem fieldParts_texts (value fieldKey : Text) (tags : List TagInformation) :
    (fieldParts value fieldKey tags).map Prod.snd =
      (if fieldKey.isEmpty then [] else [(") |> filter(fn: (r) => r._field == " : Text)]) ++ tagTexts tags.length := by
  unfold fieldParts
  split
  · exact tagParts_texts value tags
  · rw [List.map_cons, tagParts_texts, List.singleton_append]

private theorem fieldParts_values (value fieldKey : Text) (tags : List TagInformation) :
    (fieldParts value fieldKey tags).map Prod.fst =
      value :: (if fieldKey.isEmpty then [] else [fieldKey]) ++ tags.flatMap fun tag => [tag.key, tag.value] := by
  unfold fieldParts
  split
  · exact tagParts_values value tags
  · rw [List.map_cons, tagParts_values, List.cons_append, List.singleton_append]

def queryParts (config : InfluxConfig) (start stop fieldKey : Text) (tags : List TagInformation) : List (Text × Text) :=
  (config.bucket, ") |> range(start: time(v: ") :: (start, "), stop: time(v: ") ::
    (stop, ")) |> filter(fn: (r) => r._measurement == ") :: fieldParts config.measurement fieldKey tags

private theorem queryParts_texts (config : InfluxConfig) (start stop fieldKey : Text) (tags : List TagInformation) :
    ("from(bucket: " : Text) :: (queryParts config start stop fieldKey tags).map Prod.snd =
      queryTexts fieldKey.isEmpty tags.length := by
  rw [queryParts, List.map_cons, List.map_cons, List.map_cons, fieldParts_texts]
  simp only [queryTexts, List.cons_append, List.nil_append]

private theorem queryParts_values (config : InfluxConfig) (start stop fieldKey : Text) (tags : List TagInformation) :
    (queryParts config start stop fieldKey tags).map Prod.fst = queryValues config start stop fieldKey tags := by
  rw [queryParts, List.map_cons, List.map_cons, List.map_cons, fieldParts_values]
  simp only [queryValues, List.cons_append, List.nil_append]

section Head

variable {opening quoteEnd range time stopped filtered measured before first second third closing bucket start
  stop value rest : Text}

theorem head_apart (opens : opening = before ++ ['"'])
    (one : quoteEnd ++ (range ++ time) = '"' :: (first ++ ['"']))
    (two : quoteEnd ++ (stopped ++ time) = '"' :: (second ++ ['"']))
    (three : quoteEnd ++ (filtered ++ measured) = '"' :: (third ++ ['"'])) (closes : quoteEnd = '"' :: closing) :
    opening ++ bucket ++ quoteEnd ++ range ++ (time ++ start ++ quoteEnd) ++ stopped ++ (time ++ stop ++ quoteEnd) ++
        filtered ++ measured ++ value ++ quoteEnd ++ rest =
      before ++ '"' :: (bucket ++ '"' :: (first ++ '"' :: (start ++ '"' :: (second ++ '"' :: (stop ++ '"' ::
        (third ++ '"' :: (value ++ '"' :: (closing ++ rest)))))))) := by
  have apart {middle later name : Text} (text : Text) (closes : quoteEnd ++ (middle ++ later) = '"' :: (name ++ ['"'])) :
      quoteEnd ++ (middle ++ (later ++ text)) = '"' :: (name ++ '"' :: text) := by
    rw [← List.append_assoc middle, ← List.append_assoc quoteEnd, closes, List.cons_append, List.append_assoc,
      List.singleton_append]
  simp only [List.append_assoc, List.cons_append, List.nil_append, apart _ one, apart _ two, apart _ three, opens]
  rw [closes, List.cons_append]

end Head

private theorem escapeJson_bare {text : Text} (bare : ∀ c ∈ text, jsonCode c = none) : escapeJson text = text := by
  rw [escapeJson_eq]
  induction text with
  | nil => rfl
  | cons c rest ih =>
    obtain ⟨here, later⟩ := List.forall_mem_cons.mp bare
    rw [Quoting.escape_bare here, ih later]

theorem query_written {calendar : Calendar} {start stop : Int} (config : InfluxConfig) (fieldKey : Text)
    (tags : List TagInformation)
    (startBare : ∀ c ∈ formatRfc3339FromNanoseconds calendar start, jsonCode c = none)
    (stopBare : ∀ c ∈ formatRfc3339FromNanoseconds calendar stop, jsonCode c = none) :
    buildFluxReadQuery config (timeExpression calendar start) (timeExpression calendar stop) fieldKey tags =
      fluxQuoting.write jsonCode "from(bucket: " (queryParts config (formatRfc3339FromNanoseconds calendar start)
        (formatRfc3339FromNanoseconds calendar stop) fieldKey tags) := by
  have parts : fluxQuoting.write jsonCode "from(bucket: " (queryParts config
      (formatRfc3339FromNanoseconds calendar start) (formatRfc3339FromNanoseconds calendar stop) fieldKey tags) =
      ("from(bucket: " : Text) ++ (queryParts config (formatRfc3339FromNanoseconds calendar start)
        (formatRfc3339FromNanoseconds calendar stop) fieldKey tags).flatMap
          fun part => '"' :: (escapeJson part.1 ++ '"' :: part.2) := by
    simp only [Quoting.write, escapeJson_eq]
    rfl
  rw [parts, queryParts, List.flatMap_cons, List.flatMap_cons, List.flatMap_cons, fieldParts_written,
    escapeJson_bare startBare, escapeJson_bare stopBare]
  unfold buildFluxReadQuery timeExpression
  rw [List.append_assoc _ _ (tags.flatMap fluxTagFilter)]
  have opens : ("from(bucket: \"" : Text) = "from(bucket: " ++ ['"'] := by decide
  have one : ("\")" : Text) ++ ((" |> range(start: " : Text) ++ ("time(v: \"" : Text)) =
      '"' :: ((") |> range(start: time(v: " : Text) ++ ['"']) := by decide
  have two : ("\")" : Text) ++ ((", stop: " : Text) ++ ("time(v: \"" : Text)) =
      '"' :: (("), stop: time(v: " : Text) ++ ['"']) := by decide
  have three : ("\")" : Text) ++ ((")" : Text) ++ (" |> filter(fn: (r) => r._measurement == \"" : Text)) =
      '"' :: ((")) |> filter(fn: (r) => r._measurement == " : Text) ++ ['"']) := by decide
  have closes : ("\")" : Text) = '"' :: (")" : Text) := by decide
  refine (head_apart opens one two three closes).trans ?_
  simp only [List.append_assoc, List.cons_append]

/-- Times from 1970 on are written with digits, dashes, colons and the letter `T`. -/
def Calendar.Plain (calendar : Calendar) : Prop :=
  ∀ seconds, 0 ≤ seconds → seconds ≤ longMax.tdiv 1000000000 →
    ∀ c ∈ calendar.putTime seconds, c.isDigit = true ∨ c ∈ ['-', 'T', ':']

private theorem timestamp_plain {calendar : Calendar} (plain : calendar.Plain) {nanoseconds : Int}
    (represented : nanoseconds ≤ longMax) :
    ∀ c ∈ formatRfc3339FromNanoseconds calendar nanoseconds, jsonCode c = none ∧ c ≠ '$' ∧ ¬ c.toNat < 0x20 := by
  have digit {c : Char} (numeric : c.isDigit = true) : jsonCode c = none ∧ c ≠ '$' ∧ ¬ c.toNat < 0x20 := by
    refine ⟨jsonCode_none ?_ ?_ ?_ ?_ ?_, ?_, ?_⟩
    iterate 6
      rintro rfl
      cases numeric
    simp only [Char.isDigit, Bool.and_eq_true, decide_eq_true_eq, UInt32.le_iff_toNat_le] at numeric
    exact fun control => absurd (numeric.1.trans control.le) (by decide)
  -- a time before the epoch is written as the epoch
  obtain ⟨count, bounded, shape⟩ : ∃ count : Nat, (count : Int) ≤ longMax ∧
      formatRfc3339FromNanoseconds calendar nanoseconds = formatRfc3339FromNanoseconds calendar count := by
    refine ⟨nanoseconds.toNat, ?_, ?_⟩
    · unfold longMax at *
      omega
    · have same : (if nanoseconds < 0 then 0 else nanoseconds) =
          if (nanoseconds.toNat : Int) < 0 then 0 else (nanoseconds.toNat : Int) := by
        split_ifs <;> omega
      simp only [formatRfc3339FromNanoseconds, same]
  have bound : ((count / 1000000000 : Nat) : Int) ≤ longMax.tdiv 1000000000 := by
    rw [Int.tdiv_eq_ediv_of_nonneg (by decide)]
    unfold longMax at *
    omega
  rw [shape, formatRfc3339_eq]
  intro c member
  rcases List.mem_append.mp member with time | member
  · rcases plain _ (Int.natCast_nonneg _) bound c time with numeric | sign
    · exact digit numeric
    · have all : (['-', 'T', ':'].all fun c => jsonCode c = none ∧ c ≠ '$' ∧ ¬ c.toNat < 0x20) = true := by decide
      exact forall_of_all all c sign
  rcases List.mem_cons.mp member with rfl | member
  · decide
  rcases List.mem_append.mp member with fraction | zulu
  · exact digit (nineDigits_digit fraction)
  · rw [List.mem_singleton.mp zulu]
    decide

def queryStrings (config : InfluxConfig) (fieldKey : Text) (tags : List TagInformation) : List Text :=
  [config.bucket, config.measurement, fieldKey] ++ tags.flatMap fun tag => [tag.key, tag.value]

section Request

variable (curl : Curl) (calendar : Calendar) (config : InfluxConfig) (start stop : Int) (fieldKey : Text)
  (tags : List TagInformation)

/-- The request is made, the string of its body is the query, and the literals of the query
stand for the given strings, with a text around them that does not depend on these. -/
def QueryIntact : Prop :=
  let query := HistoryRead.readRangeUnixNanoseconds start stop fieldKey tags
  query.invalidRange = false ∧
    jsonQuoting.scan false (queryRequest curl config (query.fluxQuery calendar config)).body =
      some ([("\x7b" : Text), ":", ",", ":", "\x7d"], [("query" : Text), query.fluxQuery calendar config, "type", "flux"]) ∧
    fluxQuoting.scan false (query.fluxQuery calendar config) =
      some (queryTexts fieldKey.isEmpty tags.length, queryValues config (formatRfc3339FromNanoseconds calendar start)
        (formatRfc3339FromNanoseconds calendar stop) fieldKey tags)

variable {curl calendar config start stop fieldKey tags}

private theorem queryParts_fine {startText stopText : Text} (first : fluxQuoting.fine jsonCode startText = true)
    (second : fluxQuoting.fine jsonCode stopText = true) :
    ((queryParts config startText stopText fieldKey tags).all fun part => fluxQuoting.fine jsonCode part.1) =
      (queryStrings config fieldKey tags).all fun text => fluxQuoting.fine jsonCode text := by
  have all : ((queryParts config startText stopText fieldKey tags).all fun part => fluxQuoting.fine jsonCode part.1) =
      ((queryParts config startText stopText fieldKey tags).map Prod.fst).all fun text =>
        fluxQuoting.fine jsonCode text := by
    rw [List.all_map]
    rfl
  rw [all, queryParts_values]
  simp only [queryValues, queryStrings, List.all_append, List.all_cons, List.all_nil, first, second, Bool.true_and,
    Bool.and_true]
  by_cases empty : fieldKey.isEmpty = true
  · have none : fluxQuoting.fine jsonCode fieldKey = true := by
      rw [List.isEmpty_iff.mp empty]
      rfl
    simp [empty, none]
  · simp [empty, Bool.and_assoc]

private theorem query_printable {startText stopText : Text} (startPlain : Printable startText) (stopPlain : Printable stopText)
    (printable : ∀ text ∈ queryStrings config fieldKey tags, Printable text) :
    Printable (fluxQuoting.write jsonCode "from(bucket: " (queryParts config startText stopText fieldKey tags)) := by
  have texts := queryTexts_plain fieldKey.isEmpty tags.length
  rw [← queryParts_texts config startText stopText] at texts
  obtain ⟨before, behind⟩ := List.forall_mem_cons.mp texts
  have values : ∀ text ∈ queryValues config startText stopText fieldKey tags, Printable text := by
    simp only [queryStrings, queryValues, List.forall_mem_append, List.forall_mem_cons] at printable ⊢
    obtain ⟨⟨bucket, measurement, field, none⟩, others⟩ := printable
    refine ⟨⟨⟨bucket, startPlain, stopPlain, measurement, none⟩, ?_⟩, others⟩
    split
    · exact none
    · exact List.forall_mem_singleton.mpr field
  rw [← queryParts_values] at values
  refine Quoting.write_forall (fun coded => by cases coded) (fun coded => by cases coded) ?_
    (fun c member _ => (before c member).2) ?_ ?_
  · intro c d coded _
    unfold jsonCode at coded
    split at coded
    all_goals cases coded
    all_goals decide
  · intro part member c inside bare
    exact fun _ => values part.1 (List.mem_map_of_mem member) c inside bare
  · intro part member c inside _
    exact (behind part.2 (List.mem_map_of_mem member) c inside).2

theorem query_body (curl : Curl) (config : InfluxConfig) {query : Text} (printable : Printable query) :
    jsonQuoting.scan false (queryRequest curl config query).body =
      some ([("\x7b" : Text), ":", ",", ":", "\x7d"], [("query" : Text), query, "type", "flux"]) := by
  have start : ("\x7b\"query\":\"" : Text) = '\x7b' :: '"' :: ("query" ++ '"' :: (":" ++ ['"'])) := by decide
  have stop : ("\",\"type\":\"flux\"\x7d" : Text) =
      '"' :: ("," ++ '"' :: ("type" ++ '"' :: (":" ++ '"' :: ("flux" ++ '"' :: "\x7d")))) := by decide
  have shape : (queryRequest curl config query).body =
      jsonQuoting.write jsonCode "\x7b" [("query", ":"), (query, ","), ("type", ":"), ("flux", "\x7d")] := by
    have escaped := escapeJson_eq query
    refine (congrArg₂ (fun before behind => before ++ escapeJson query ++ behind) start stop).trans ?_
    simp only [Quoting.write, List.flatMap_cons, List.flatMap_nil, List.append_nil, escaped, List.cons_append,
      List.append_assoc, List.nil_append]
    rfl
  have unquoted : ∀ part ∈ [(("query" : Text), (":" : Text)), (query, ","), ("type", ":"), ("flux", "\x7d")],
      jsonQuoting.quote ∉ part.2 := by
    simp only [List.forall_mem_cons]
    exact ⟨by decide, by decide, by decide, by decide, fun _ none => by cases none⟩
  rw [shape, Quoting.scan_write json_codes (by decide) unquoted, if_pos]
  · rfl
  · simp only [List.all_cons, List.all_nil, json_fine printable, Bool.true_and, Bool.and_true]
    decide

theorem query_scanned (plain : calendar.Plain) (order : start < stop) (represented : stop ≤ longMax) :
    fluxQuoting.scan false
        ((HistoryRead.readRangeUnixNanoseconds start stop fieldKey tags).fluxQuery calendar config) =
      if (queryStrings config fieldKey tags).all fun text => fluxQuoting.fine jsonCode text then
        some (queryTexts fieldKey.isEmpty tags.length, queryValues config (formatRfc3339FromNanoseconds calendar start)
          (formatRfc3339FromNanoseconds calendar stop) fieldKey tags)
      else none := by
  have startPlain := timestamp_plain plain (Int.le_trans (Int.le_of_lt order) represented)
  have stopPlain := timestamp_plain plain represented
  have unquoted := queryTexts_plain fieldKey.isEmpty tags.length
  rw [← queryParts_texts config (formatRfc3339FromNanoseconds calendar start)
    (formatRfc3339FromNanoseconds calendar stop)] at unquoted
  obtain ⟨before, behind⟩ := List.forall_mem_cons.mp unquoted
  have scanned := Quoting.scan_write flux_codes (fun member => (before _ member).1 rfl)
    (fun part member quote => (behind part.2 (List.mem_map_of_mem member) _ quote).1 rfl)
  have fine {text : Text} (free : ∀ c ∈ text, c ≠ '$') : fluxQuoting.fine jsonCode text = true := by
    refine (flux_fine_iff text).mpr fun inside => free '$' (inside.subset ?_) rfl
    decide
  have condition : ((queryParts config (formatRfc3339FromNanoseconds calendar start)
      (formatRfc3339FromNanoseconds calendar stop) fieldKey tags).all fun part => fluxQuoting.fine jsonCode part.1) =
        (queryStrings config fieldKey tags).all fun text => fluxQuoting.fine jsonCode text :=
    queryParts_fine (fine fun c member => (startPlain c member).2.1) (fine fun c member => (stopPlain c member).2.1)
  rw [queryParts_texts, queryParts_values, condition] at scanned
  rw [← scanned, HistoryRead.fluxQuery, query_written config fieldKey tags (fun c member => (startPlain c member).1)
    (fun c member => (stopPlain c member).1)]

/-- A request keeps its strings apart from the rest of the query exactly when no string
contains a dollar sign followed by an opening brace. -/
theorem queryIntact_iff (plain : calendar.Plain) (order : start < stop) (represented : stop ≤ longMax)
    (printable : ∀ text ∈ queryStrings config fieldKey tags, Printable text) :
    QueryIntact curl calendar config start stop fieldKey tags ↔
      ∀ text ∈ queryStrings config fieldKey tags, ¬ interpolation <:+: text := by
  have startPlain := timestamp_plain plain (Int.le_trans (Int.le_of_lt order) represented)
  have stopPlain := timestamp_plain plain represented
  have written := query_written config fieldKey tags (fun c member => (startPlain c member).1)
    (fun c member => (stopPlain c member).1)
  have body := query_body curl config (written ▸ query_printable (fun c member _ => (startPlain c member).2.2)
    (fun c member _ => (stopPlain c member).2.2) printable)
  have scanned := @query_scanned calendar config start stop fieldKey tags plain order represented
  have accepted : (HistoryRead.readRangeUnixNanoseconds start stop fieldKey tags).invalidRange = false := by
    simpa [HistoryRead.invalidRange] using order
  have condition : ((queryStrings config fieldKey tags).all fun text => fluxQuoting.fine jsonCode text) = true ↔
      ∀ text ∈ queryStrings config fieldKey tags, ¬ interpolation <:+: text := by
    simp only [List.all_eq_true, flux_fine_iff]
  rw [← condition]
  constructor
  · rintro ⟨_, _, kept⟩
    rw [scanned] at kept
    by_contra unfit
    rw [if_neg unfit] at kept
    cases kept
  · intro fit
    exact ⟨accepted, body, scanned.trans (if_pos fit)⟩

end Request

private theorem newYearCalendar_plain : newYearCalendar.Plain := by
  intro seconds _ _
  exact forall_of_all (by decide : ("2024-01-01T00:00:00".toList.all fun c => c.isDigit = true ∨ c ∈ ['-', 'T', ':']) = true)

/-- Backslashes, quotes and lone dollar signs are kept apart. -/
theorem quoted_bucket_intact :
    QueryIntact ⟨some⟩ newYearCalendar { bucket := "a\\\"b$" } 1704067200000000000 1704067200500000000 "value"
      [⟨"host", "plc \"1\"", []⟩] := by
  have fine : ∀ text ∈ queryStrings { bucket := "a\\\"b$" } "value" [⟨"host", "plc \"1\"", []⟩],
      fluxQuoting.fine jsonCode text = true := by decide
  apply (queryIntact_iff newYearCalendar_plain (by decide) (by decide) (by decide)).mpr
  exact fun text member => (flux_fine_iff text).mp (fine text member)

/-- The value of a tag becomes part of the query. -/
theorem interpolated_tag_changes_query : ¬ ∀ (curl : Curl) (calendar : Calendar) (config : InfluxConfig)
    (start stop : Int) (fieldKey : Text) (tags : List TagInformation), calendar.Plain → start < stop →
      stop ≤ longMax → (∀ text ∈ queryStrings config fieldKey tags, Printable text) →
        QueryIntact curl calendar config start stop fieldKey tags := by
  intro claim
  have intact := claim ⟨some⟩ newYearCalendar {} 1704067200000000000 1704067200500000000 "value"
    [⟨"host", "$\x7br.x\x7d", []⟩] newYearCalendar_plain (by decide) (by decide) (by decide)
  have kept := intact.2.2
  rw [query_scanned newYearCalendar_plain (by decide) (by decide)] at kept
  exact absurd kept (by decide)

end OpcUaAdapter
