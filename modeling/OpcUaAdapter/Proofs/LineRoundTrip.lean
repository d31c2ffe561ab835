import OpcUaAdapter.LineReader

/-! What a reader recovers from a line. Backslashes are not escaped themselves, so an
identifier that ends with one protects the separator meant to end it. -/

namespace OpcUaAdapter

private theorem escapeLineProtocolIdentifier_eq (input : Text) :
    escapeLineProtocolIdentifier input = Delimited.escape '\\' needsBackslash input := by
  unfold escapeLineProtocolIdentifier
  induction input with
  | nil => rfl
  | cons c rest ih =>
    rw [List.flatMap_cons, ih, Delimited.escape]
    split <;> rfl

abbrev tokensOf (line : Text) : Text × List (Char × Text) := Delimited.pieces '\\' needsBackslash line

private theorem tokensOf_separator {c : Char} (separator : needsBackslash c = true) (rest : Text) :
    (tokensOf (c :: rest)).2 = (c, (tokensOf rest).1) :: (tokensOf rest).2 := by
  rw [tokensOf, Delimited.pieces_special separator]

private theorem tokensOf_identifier_iff (identifier rest : Text) {c : Char} (separator : needsBackslash c = true)
    (property : List (Char × Text) → Prop) :
    ((tokensOf (escapeLineProtocolIdentifier identifier ++ c :: rest)).1 = identifier ∧
        property (tokensOf (escapeLineProtocolIdentifier identifier ++ c :: rest)).2) ↔
      identifier.getLast? ≠ some '\\' ∧ property (tokensOf (c :: rest)).2 := by
  rw [escapeLineProtocolIdentifier_eq]
  exact Delimited.pieces_token_and_iff (by decide) identifier rest separator property

private theorem readTags_field_iff {influxFieldName name : Text} {tokens : List (Char × Text)} :
    readTags ((' ', influxFieldName) :: tokens) = some ([], name) ↔
      influxFieldName = name ∧ ∃ value rest, tokens = ('=', value) :: rest := by
  constructor
  · intro read
    unfold readTags at read
    split at read
    next same => cases same; cases read; exact ⟨rfl, _, _, rfl⟩
    next same => cases same
    next => cases read
  · rintro ⟨rfl, value, rest, rfl⟩
    rfl

private theorem readTags_tag_iff {key value name other : Text} {tokens : List (Char × Text)} {tags : List (Text × Text)} :
    readTags ((',', key) :: tokens) = some ((name, value) :: tags, other) ↔
      key = name ∧ ∃ rest, tokens = ('=', value) :: rest ∧ readTags rest = some (tags, other) := by
  constructor
  · intro read
    unfold readTags at read
    split at read
    next same => cases same
    next same =>
      cases same
      obtain ⟨_, later, same⟩ := Option.map_eq_some_iff.mp read
      cases same
      exact ⟨rfl, _, rfl, later⟩
    next => cases read
  · rintro ⟨rfl, rest, rfl, later⟩
    simp [readTags, later]

def Ended (identifier : Text) : Prop := identifier.getLast? ≠ some '\\'

def lineTail (tags : List TagInformation) (influxFieldName valueAndTime : Text) : Text :=
  tags.flatMap tagText ++ ' ' :: (escapeLineProtocolIdentifier influxFieldName ++ '=' :: valueAndTime)

private theorem lineTail_separates (tags : List TagInformation) (influxFieldName valueAndTime : Text) :
    ∃ c rest, lineTail tags influxFieldName valueAndTime = c :: rest ∧ needsBackslash c = true := by
  cases tags with
  | nil => exact ⟨_, _, rfl, rfl⟩
  | cons => exact ⟨_, _, rfl, rfl⟩

private theorem readTags_lineTail_iff (tags : List TagInformation) (influxFieldName valueAndTime : Text) :
    readTags (tokensOf (lineTail tags influxFieldName valueAndTime)).2 =
        some (tags.map fun tag => (tag.key, tag.value), influxFieldName) ↔
      (∀ tag ∈ tags, Ended tag.key ∧ Ended tag.value) ∧ Ended influxFieldName := by
  induction tags with
  | nil =>
    have field := tokensOf_identifier_iff influxFieldName valueAndTime (rfl : needsBackslash '=' = true)
      (fun tokens => ∃ value rest, tokens = ('=', value) :: rest)
    rw [lineTail, List.flatMap_nil, List.nil_append, tokensOf_separator rfl, List.map_nil,
      readTags_field_iff, field, tokensOf_separator rfl]
    simp [Ended]
  | cons tag tags ih =>
    obtain ⟨c, rest, shape, separator⟩ := lineTail_separates tags influxFieldName valueAndTime
    have text : lineTail (tag :: tags) influxFieldName valueAndTime =
        ',' :: (escapeLineProtocolIdentifier tag.key ++
          '=' :: (escapeLineProtocolIdentifier tag.value ++ c :: rest)) := by
      rw [← shape]
      simp [lineTail, tagText]
    have value := tokensOf_identifier_iff tag.value rest separator
      (fun tokens => readTags tokens = some (tags.map fun tag => (tag.key, tag.value), influxFieldName))
    rw [← shape, ih, shape] at value
    have key := tokensOf_identifier_iff tag.key (escapeLineProtocolIdentifier tag.value ++ c :: rest)
      (rfl : needsBackslash '=' = true) (fun tokens => ∃ rest, tokens = ('=', tag.value) :: rest ∧
        readTags rest = some (tags.map fun tag => (tag.key, tag.value), influxFieldName))
    rw [text, tokensOf_separator rfl, List.map_cons, readTags_tag_iff, key, tokensOf_separator rfl]
    simp only [List.cons.injEq, Prod.mk.injEq, true_and, and_assoc, exists_and_left, exists_eq_left', value]
    simp [Ended, and_assoc]

def lineIdentifiers (config : InfluxConfig) (influxFieldName : Text) (tags : List TagInformation) : List Text :=
  config.measurement :: (mergedTags config tags).flatMap (fun tag => [tag.key, tag.value]) ++ [influxFieldName]

private theorem splitInfluxRequest_plain {c : Char} (plain : c ≠ ' ') {rest : Text}
    (unprotected : c = '\\' → rest.head? ≠ some ' ') :
    splitInfluxRequest (c :: rest) = (c :: (splitInfluxRequest rest).1, (splitInfluxRequest rest).2) := by
  rw [splitInfluxRequest.eq_def]
  split
  next same => cases same
  next same => cases same; exact absurd rfl (unprotected rfl)
  next same => cases same; exact absurd rfl plain
  next same => cases same; rfl

/-- The split goes past a text without finding its space. -/
def Passed (text : Text) : Prop :=
  ∀ rest, splitInfluxRequest (text ++ rest) = (text ++ (splitInfluxRequest rest).1, (splitInfluxRequest rest).2)

theorem Passed.append {first second : Text} (before : Passed first) (after : Passed second) :
    Passed (first ++ second) := by
  intro rest
  rw [List.append_assoc, before, after, List.append_assoc]

theorem Passed.cons {c : Char} (plain : c ≠ ' ') (unmarked : c ≠ '\\') {text : Text} (passed : Passed text) :
    Passed (c :: text) := by
  intro rest
  rw [List.cons_append, splitInfluxRequest_plain plain (fun same => absurd same unmarked), passed]
  rfl

private theorem passed_identifier {identifier : Text} (ended : Ended identifier) :
    Passed (escapeLineProtocolIdentifier identifier) := by
  intro rest
  rw [escapeLineProtocolIdentifier_eq]
  induction identifier with
  | nil => rfl
  | cons c text ih =>
    have later : Ended text := by
      cases text with
      | nil => simp [Ended]
      | cons => simpa [Ended] using ended
    by_cases separator : needsBackslash c = true
    · rw [Delimited.escape, if_pos separator, List.cons_append, List.cons_append]
      by_cases space : c = ' '
      · rw [space, splitInfluxRequest, ih later]
        rfl
      · have bare : c ≠ '\\' := by rintro rfl; cases separator
        rw [splitInfluxRequest_plain (by decide) (fun _ => by simpa using space),
          splitInfluxRequest_plain space (fun same => absurd same bare), ih later]
        rfl
    · rw [Delimited.escape, if_neg separator, List.cons_append, splitInfluxRequest_plain, ih later]
      · rfl
      · rintro rfl
        exact separator (by decide)
      · rintro rfl space
        cases text with
        | nil => exact ended rfl
        | cons d text => exact absurd (Delimited.escape_head (by decide) space) (by decide)

private theorem passed_tags {tags : List TagInformation} (ended : ∀ tag ∈ tags, Ended tag.key ∧ Ended tag.value) :
    Passed (tags.flatMap tagText) := by
  induction tags with
  | nil => exact fun rest => rfl
  | cons tag tags ih =>
    have first := ended tag (by simp)
    have text : Passed (tagText tag) :=
      .cons (by decide) (by decide)
        ((passed_identifier first.1).append (.cons (by decide) (by decide) (passed_identifier first.2)))
    rw [List.flatMap_cons]
    exact text.append (ih fun tag member => ended tag (by simp [member]))

private theorem buildLineProtocol_eq (config : InfluxConfig) (influxFieldName : Text) (fieldValue : FieldValue)
    (tags : List TagInformation) (timestampNanoseconds : Option Int) :
    buildLineProtocol config influxFieldName fieldValue tags timestampNanoseconds =
      escapeLineProtocolIdentifier config.measurement ++
        lineTail (mergedTags config tags) influxFieldName
          (valueText fieldValue ++ timestampText timestampNanoseconds) := by
  simp [buildLineProtocol, seriesText, fieldText, lineTail]

private theorem readLineHead_iff {line measurement influxFieldName : Text} {tags : List (Text × Text)} :
    readLineHead line = some ⟨measurement, tags, influxFieldName⟩ ↔
      (tokensOf line).1 = measurement ∧ readTags (tokensOf line).2 = some (tags, influxFieldName) := by
  simp only [readLineHead, Option.map_eq_some_iff, LineHead.mk.injEq, Prod.exists]
  constructor
  · rintro ⟨tags, influxFieldName, read, same, rfl, rfl⟩
    exact ⟨same, read⟩
  · rintro ⟨same, read⟩
    exact ⟨tags, influxFieldName, read, same, rfl, rfl⟩

private theorem ended_lineIdentifiers_iff {config : InfluxConfig} {influxFieldName : Text} {tags : List TagInformation} :
    (∀ identifier ∈ lineIdentifiers config influxFieldName tags, Ended identifier) ↔
      Ended config.measurement ∧ (∀ tag ∈ mergedTags config tags, Ended tag.key ∧ Ended tag.value) ∧
        Ended influxFieldName := by
  simp only [lineIdentifiers, List.cons_append, List.forall_mem_cons, List.forall_mem_append,
    List.forall_mem_flatMap]
  simp

/-- A reader recovers the measurement, the merged tags and the field name, and the first
bare space separates series and field, exactly when no identifier ends with a backslash. -/
theorem line_read_back_iff (config : InfluxConfig) (influxFieldName : Text) (fieldValue : FieldValue)
    (tags : List TagInformation) (timestampNanoseconds : Option Int) :
    (readLineHead (buildLineProtocol config influxFieldName fieldValue tags timestampNanoseconds) =
          some ⟨config.measurement, (mergedTags config tags).map fun tag => (tag.key, tag.value), influxFieldName⟩ ∧
        splitInfluxRequest (buildLineProtocol config influxFieldName fieldValue tags timestampNanoseconds) =
          (seriesText config tags, fieldText influxFieldName fieldValue timestampNanoseconds)) ↔
      ∀ identifier ∈ lineIdentifiers config influxFieldName tags, Ended identifier := by
  obtain ⟨c, rest, shape, separator⟩ := lineTail_separates (mergedTags config tags) influxFieldName
    (valueText fieldValue ++ timestampText timestampNanoseconds)
  have read := tokensOf_identifier_iff config.measurement rest separator (fun tokens => readTags tokens =
    some ((mergedTags config tags).map fun tag => (tag.key, tag.value), influxFieldName))
  rw [← shape, ← buildLineProtocol_eq, readTags_lineTail_iff, ← readLineHead_iff] at read
  rw [read, ended_lineIdentifiers_iff]
  refine ⟨fun both => both.1, fun ended => ⟨ended, ?_⟩⟩
  have series : Passed (seriesText config tags) := (passed_identifier ended.1).append (passed_tags ended.2.1)
  rw [buildLineProtocol, series, splitInfluxRequest.eq_def]
  simp

example :
    readLineHead (buildLineProtocol { measurement := "a b" } "x=y" ⟨"1", false⟩ [⟨"k,", "\\ v", []⟩] none) =
      some ⟨"a b", [("k,", "\\ v")], "x=y"⟩ := by
  decide

/-- A unit that ends with a backslash swallows the separator after it. -/
theorem trailing_backslash_misread :
    ¬ ∀ (config : InfluxConfig) (influxFieldName : Text) (fieldValue : FieldValue) (tags : List TagInformation)
      (timestampNanoseconds : Option Int),
      readLineHead (buildLineProtocol config influxFieldName fieldValue tags timestampNanoseconds) =
          some ⟨config.measurement, (mergedTags config tags).map fun tag => (tag.key, tag.value), influxFieldName⟩ ∧
        splitInfluxRequest (buildLineProtocol config influxFieldName fieldValue tags timestampNanoseconds) =
          (seriesText config tags, fieldText influxFieldName fieldValue timestampNanoseconds) := by
  intro recovers
  have read := (recovers { measurement := "m" } "f" ⟨"1", false⟩ [⟨"unit", "a\\", []⟩] none).1
  revert read
  decide

end OpcUaAdapter
