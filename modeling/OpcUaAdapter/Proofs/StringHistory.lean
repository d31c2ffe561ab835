import OpcUaAdapter.LineReader
import OpcUaAdapter.Proofs.HistoryPaging

/-! String values on their way into the history and back. The database undoes two of
the four escapes of a string literal, and a text that reads as a number comes back as one. -/

namespace OpcUaAdapter

universe u v

def escapeStringChar (c : Char) : Text :=
  match c with
  | '\\' => ['\\', '\\']
  | '"' => ['\\', '"']
  | '\n' => ['\\', 'n']
  | '\r' => ['\\', 'r']
  | c => [c]

private theorem escapeLineProtocolStringValue_eq (input : Text) :
    escapeLineProtocolStringValue input = trim (input.flatMap escapeStringChar) := rfl

def storedChar (c : Char) : Text :=
  match c with
  | '\n' => ['\\', 'n']
  | '\r' => ['\\', 'r']
  | c => [c]

private theorem literalBody_plain {c : Char} (quote : c ≠ '"') (mark : c ≠ '\\') (rest : Text) :
    literalBody (c :: rest) = (literalBody rest).map (c :: ·) := by
  rw [literalBody]
  · intro other same
    exact absurd same mark
  · intro other same
    exact absurd same mark
  · exact quote

private theorem literalBody_char (c : Char) (rest : Text) :
    literalBody (escapeStringChar c ++ rest) = (literalBody rest).map (storedChar c ++ ·) := by
  unfold escapeStringChar
  split
  next => simp [literalBody, storedChar]
  next => simp [literalBody, storedChar]
  next => simp [literalBody, storedChar, Function.comp_def]
  next => simp [literalBody, storedChar, Function.comp_def]
  next mark quote newline feed =>
    rw [List.cons_append, List.nil_append, literalBody_plain quote mark]
    simp [storedChar]

private theorem storedString_escaped (input : Text) :
    storedString ('"' :: (input.flatMap escapeStringChar ++ ['"'])) = some (input.flatMap storedChar) := by
  rw [storedString]
  induction input with
  | nil => rfl
  | cons c rest ih =>
    rw [List.flatMap_cons, List.append_assoc, literalBody_char, ih]
    rfl

private theorem escapeStringChar_ends {c : Char} (plain : isspace c = false) :
    (∃ first rest, escapeStringChar c = first :: rest ∧ isspace first = false) ∧
      ∃ front last, escapeStringChar c = front ++ [last] ∧ isspace last = false := by
  unfold escapeStringChar
  split
  next => exact ⟨⟨_, _, rfl, rfl⟩, ['\\'], '\\', rfl, rfl⟩
  next => exact ⟨⟨_, _, rfl, rfl⟩, ['\\'], '"', rfl, rfl⟩
  next => exact ⟨⟨_, _, rfl, rfl⟩, ['\\'], 'n', rfl, rfl⟩
  next => exact ⟨⟨_, _, rfl, rfl⟩, ['\\'], 'r', rfl, rfl⟩
  next => exact ⟨⟨_, _, rfl, plain⟩, [], c, rfl, plain⟩

private theorem trim_escaped {input : Text} (trimmed : trim input = input) :
    escapeLineProtocolStringValue input = input.flatMap escapeStringChar := by
  obtain ⟨first, last⟩ := trim_eq_self_iff.mp trimmed
  rw [escapeLineProtocolStringValue_eq, trim_eq_self_iff]
  constructor
  · cases input with
    | nil => simp
    | cons c rest =>
      obtain ⟨⟨head, tail, shape, plain⟩, _⟩ := escapeStringChar_ends (first c rfl)
      simpa [shape] using plain
  · rcases List.eq_nil_or_concat input with rfl | ⟨front, c, rfl⟩
    · simp
    · obtain ⟨_, before, final, shape, plain⟩ := escapeStringChar_ends (last c (by simp))
      simpa [shape] using plain

theorem storedString_valueText {input : Text} (trimmed : trim input = input) :
    storedString (valueText ⟨input, true⟩) = some (input.flatMap storedChar) := by
  rw [← storedString_escaped, ← trim_escaped trimmed]
  rfl

private theorem storedChar_plain {c : Char} (newline : c ≠ '\n') (feed : c ≠ '\r') : storedChar c = [c] := by
  unfold storedChar
  split
  next => exact absurd rfl newline
  next => exact absurd rfl feed
  next => rfl

private theorem flatMap_storedChar {input : Text} (newline : '\n' ∉ input) (feed : '\r' ∉ input) :
    input.flatMap storedChar = input := by
  induction input with
  | nil => rfl
  | cons c rest ih =>
    rw [List.mem_cons, not_or] at newline feed
    rw [List.flatMap_cons, storedChar_plain (Ne.symm newline.1) (Ne.symm feed.1), ih newline.2 feed.2]
    rfl

private theorem lineBreak_not_mem_stored (input : Text) :
    '\n' ∉ input.flatMap storedChar ∧ '\r' ∉ input.flatMap storedChar := by
  have char (c : Char) : '\n' ∉ storedChar c ∧ '\r' ∉ storedChar c := by
    unfold storedChar
    split
    next => decide
    next => decide
    next newline feed =>
      simp only [List.mem_singleton]
      exact ⟨fun same => newline same.symm, fun same => feed same.symm⟩
  constructor
  · intro inside
    obtain ⟨c, _, escaped⟩ := List.mem_flatMap.mp inside
    exact (char c).1 escaped
  · intro inside
    obtain ⟨c, _, escaped⟩ := List.mem_flatMap.mp inside
    exact (char c).2 escaped

private theorem recordVariant_string_iff {value text : Text} :
    recordVariant value = .scalar .string text ↔ parseNumberValue value = none ∧ cStr value = text := by
  unfold recordVariant
  split
  next number parsed =>
    constructor
    · intro same
      cases same
    · rintro ⟨none, _⟩
      rw [parsed] at none
      cases none
  next none =>
    constructor
    · intro same
      cases same
      exact ⟨none, rfl⟩
    · rintro ⟨_, rfl⟩
      rfl

/-- The string contains no character that the history loses, and does not read as a number. -/
structure PlainText (text : Text) : Prop where
  newline : '\n' ∉ text
  feed : '\r' ∉ text
  terminator : '\x00' ∉ text
  number : parseNumberValue text = none

private theorem stored_read_back_iff {text : Text} :
    recordVariant (text.flatMap storedChar) = .scalar .string text ↔ PlainText text := by
  rw [recordVariant_string_iff]
  constructor
  · rintro ⟨number, same⟩
    have inside : text ⊆ text.flatMap storedChar := by
      conv_lhs => rw [← same]
      exact (List.takeWhile_prefix _).subset
    have newline : '\n' ∉ text := fun here => (lineBreak_not_mem_stored text).1 (inside here)
    have feed : '\r' ∉ text := fun here => (lineBreak_not_mem_stored text).2 (inside here)
    rw [flatMap_storedChar newline feed] at number same
    exact ⟨newline, feed, cStr_eq_self_iff.mp same, number⟩
  · intro plain
    rw [flatMap_storedChar plain.newline plain.feed]
    exact ⟨plain.number, cStr_eq_self_iff.mpr plain.terminator⟩

/-- The words that are not written read as numbers too. -/
theorem PlainText.checkValue {text : Text} (plain : PlainText text) : checkValue text true = true := by
  have read {word : Text} (parsed : (parseNumberValue word).isSome = true) : text ≠ word := by
    rintro rfl
    simp [plain.number] at parsed
  have words : ¬ (text = "NaN" ∨ text = "nan" ∨ text = "inf" ∨ text = "-inf") := by
    rintro (same | same | same | same)
    · exact read (by decide) same
    · exact read (by decide) same
    · exact read (by decide) same
    · exact read (by decide) same
  simpa [OpcUaAdapter.checkValue, not_or, and_assoc] using words

section ReadBack
variable {σ : Type u} {τ : Type v} (member : HistoryClient σ) (reader : HistoryReader τ)
  {ctx : InfluxHistoryBackendContext} {nodeId : UaNodeId} {value : UaDataValue} {text : Text} {now : Int}
  {writer : σ} {database : τ} {request : PageRequest} {environment : UaEnvironment}

private theorem string_history_handed (connected : ctx.hasClient = true) (sound : member.hasFundamentalError writer = false)
    (present : value.hasValue = true) (scalar : value.value = .scalar .string text) :
    (serverSetHistoryDataInflux member (some ctx) (some nodeId) true (some value) now writer).handed =
      if checkValue text true then
        [⟨ctx.influxFieldName, ⟨text, true⟩, commonTags ctx (member.addExtraTags writer) nodeId,
          some (valueTimestamp value now)⟩]
      else [] := by
  have converted : variantToStrings value.value = if checkValue text true then some [⟨text, true⟩] else none := by
    rw [scalar]
    rfl
  by_cases kept : checkValue text true = true
  · rw [if_pos kept] at converted ⊢
    simp only [serverSetHistoryDataInflux, present, connected, sound, converted, Bool.not_true, Bool.or_self,
      Bool.false_eq_true, ite_false]
    rfl
  · rw [if_neg kept] at converted ⊢
    simp only [serverSetHistoryDataInflux, present, connected, sound, converted, Bool.not_true, Bool.or_self,
      Bool.false_eq_true, ite_false]

private theorem historyPage_single {call : HistoryCall} (memory : environment.arrayAllocated = true) (record : InfluxRecord) :
    (historyPage call environment 0 (call.arrange [record])).dataValues = [recordDataValue record] := by
  have arranged : call.arrange [record] = [record] := by
    unfold HistoryCall.arrange
    split <;> rfl
  have limit : pageLimit call 1 = 1 := Nat.le_antisymm (pageLimit_le call 1) (pageLimit_pos call Nat.one_pos)
  rw [arranged]
  simp [historyPage, limit, memory]

/-- A read that finds one record returns the value made of it. -/
theorem getHistoryDataInflux_single {record : InfluxRecord} (memory : environment.arrayAllocated = true)
    (records : (reader.read (historyQuery ctx request.nodeId (request.call none) environment) database).records =
      .ok [record])
    (error : (reader.read (historyQuery ctx request.nodeId (request.call none) environment) database).readError = []) :
    ∃ page, (getHistoryDataInflux reader (some ctx) (request.call none) environment database).1 = .ok page ∧
      page.dataValues = [recordDataValue record] := by
  refine ⟨historyPage (request.call none) environment 0 ((request.call none).arrange [record]), ?_,
    historyPage_single memory record⟩
  have fresh : parseContinuationPointOffset none = .ok 0 := rfl
  rw [getHistoryDataInflux_call fresh]
  simp only [records, error, Except.map, List.isEmpty_nil, ite_true]

/-- Writing a string and reading its record back is the identity exactly for plain texts.
The database is assumed to store the literal as the line protocol reads it, and to return it. -/
theorem string_history_read_back_iff (record : InfluxRecord) (trimmed : trim text = text)
    (connected : ctx.hasClient = true) (sound : member.hasFundamentalError writer = false)
    (present : value.hasValue = true) (scalar : value.value = .scalar .string text)
    (memory : environment.arrayAllocated = true)
    (delivers : ∀ point ∈ (serverSetHistoryDataInflux member (some ctx) (some request.nodeId) true (some value) now
        writer).handed, ∀ stored ∈ storedString (valueText point.fieldValue),
      (reader.read (historyQuery ctx request.nodeId (request.call none) environment) database).records =
        .ok [{ record with value := stored }])
    (error : (reader.read (historyQuery ctx request.nodeId (request.call none) environment) database).readError = []) :
    ((∃ point, (serverSetHistoryDataInflux member (some ctx) (some request.nodeId) true (some value) now writer).handed =
          [point]) ∧
        ∃ page, (getHistoryDataInflux reader (some ctx) (request.call none) environment database).1 = .ok page ∧
          page.dataValues.map UaDataValue.value = [.scalar .string text]) ↔
      PlainText text := by
  rw [string_history_handed member connected sound present scalar] at delivers ⊢
  by_cases kept : checkValue text true = true
  · rw [if_pos kept] at delivers ⊢
    have records := delivers _ List.mem_cons_self _ (storedString_valueText trimmed)
    obtain ⟨page, answered, values⟩ := getHistoryDataInflux_single reader memory records error
    rw [← stored_read_back_iff]
    constructor
    · rintro ⟨_, other, again, same⟩
      rw [answered] at again
      cases again
      rw [values] at same
      exact List.head_eq_of_cons_eq same
    · intro same
      refine ⟨⟨_, rfl⟩, page, answered, ?_⟩
      rw [values]
      exact congrArg (fun variant => [variant]) same
  · rw [if_neg kept]
    constructor
    · rintro ⟨⟨_, handed⟩, _⟩
      cases handed
    · intro plain
      exact absurd plain.checkValue kept

end ReadBack

section Demo

theorem string_history_read_back_of_word :
    (∃ point, (serverSetHistoryDataInflux takingClient (some demoContext) (some demoRequest.nodeId) true
          (some ⟨true, .scalar .string "on", none, none⟩) unixEpoch ()).handed = [point]) ∧
      ∃ page, (getHistoryDataInflux (demoReader [{ value := "on" }]) (some demoContext) (demoRequest.call none)
          ⟨0, 0, true, true⟩ ()).1 = .ok page ∧
        page.dataValues.map UaDataValue.value = [.scalar .string "on"] :=
  (string_history_read_back_iff takingClient (demoReader [{ value := "on" }]) {} (by decide) rfl rfl rfl rfl rfl
    (by
      intro point handed stored read
      cases List.mem_singleton.mp handed
      cases read
      rfl) rfl).mpr ⟨by decide, by decide, by decide, by decide⟩

/-- The string `42` comes back as a number. -/
theorem numeral_history_not_read_back :
    ¬ ∀ (member : HistoryClient Unit) (reader : HistoryReader Unit) (ctx : InfluxHistoryBackendContext)
      (request : PageRequest) (text : Text) (now : Int) (environment : UaEnvironment), trim text = text →
      ctx.hasClient = true → member.hasFundamentalError () = false → environment.arrayAllocated = true →
      (∀ point ∈ (serverSetHistoryDataInflux member (some ctx) (some request.nodeId) true
          (some ⟨true, .scalar .string text, none, none⟩) now ()).handed,
        ∀ stored ∈ storedString (valueText point.fieldValue), ∀ query,
          reader.read query () = { records := .ok [{ value := stored }], client := () }) →
      (∃ point, (serverSetHistoryDataInflux member (some ctx) (some request.nodeId) true
          (some ⟨true, .scalar .string text, none, none⟩) now ()).handed = [point]) ∧
        ∃ page, (getHistoryDataInflux reader (some ctx) (request.call none) environment ()).1 = .ok page ∧
          page.dataValues.map UaDataValue.value = [.scalar .string text] := by
  intro identity
  obtain ⟨_, page, answered, values⟩ := identity takingClient (demoReader [{ value := "42" }]) demoContext demoRequest
    "42" 0 ⟨0, 0, true, true⟩ (by decide) rfl rfl rfl (by
      intro point handed stored read query
      cases List.mem_singleton.mp handed
      cases read
      rfl)
  cases answered
  cases values

end Demo
end OpcUaAdapter
