import OpcUaAdapter.InfluxClient
import OpcUaAdapter.LineReader
import OpcUaAdapter.Proofs.DecimalText

/-! The number on a line and the unit its request announces. The number is always in
nanoseconds, the unit comes from the configuration. -/

namespace OpcUaAdapter

private theorem readDecimal_intText {value : Int} (nonnegative : 0 ≤ value) : readDecimal (intText value) = some value := by
  obtain ⟨magnitude, rfl⟩ := Int.eq_ofNat_of_zero_le nonnegative
  simp [readDecimal, intText, scanInteger_digits]

private theorem textAfter_append {separator : Char} (front : Text) {text : Text} (absent : separator ∉ text) :
    textAfter separator (front ++ separator :: text) = text := by
  have others : ∀ c ∈ text.reverse, decide (c ≠ separator) = true := by
    intro c member
    apply decide_eq_true
    rintro rfl
    exact absent (List.mem_reverse.mp member)
  simp only [textAfter, List.rtakeWhile, List.reverse_append, List.reverse_cons, List.append_assoc,
    List.takeWhile_append_of_pos others]
  simp

section Query

def unreserved (c : Char) : Bool := c.isAlphanum || c = '-' || c = '.' || c = '_' || c = '~'

/-- What the manual of `curl_easy_escape` promises. -/
structure Curl.Documented (curl : Curl) : Prop where
  kept : ∀ value, (∀ c ∈ value, unreserved c = true) → curl.escape value = some value
  encoded : ∀ value result, curl.escape value = some result → ∀ c ∈ result, unreserved c = true ∨ c = '%'

private theorem Curl.Documented.not_mem {curl : Curl} (documented : curl.Documented) {c : Char}
    (reserved : unreserved c = false) (plain : c ≠ '%') (value : Text) : c ∉ urlEncode curl value := by
  intro inside
  unfold urlEncode at inside
  cases escaped : curl.escape value with
  | none => simp [escaped] at inside
  | some result =>
    rcases documented.encoded value result escaped c (by simpa [escaped] using inside) with safe | percent
    · simp [reserved] at safe
    · exact plain percent

def announcedUnit (request : HttpRequest) : Option Int :=
  (queryParameter "precision" (textAfter '?' request.url)).bind unitNanoseconds

private theorem writeQuery_eq (curl : Curl) (config : InfluxConfig) :
    writeQuery curl config = ['&'].intercalate
      ["org=" ++ urlEncode curl config.org, "bucket=" ++ urlEncode curl config.bucket,
        "precision=" ++ urlEncode curl config.precision] := by
  have bucket : "&bucket=".toList = '&' :: "bucket=".toList := by decide
  have precision : "&precision=".toList = '&' :: "precision=".toList := by decide
  unfold writeQuery
  simp only [bucket, precision, List.intercalate_cons_cons, List.intercalate_singleton, List.append_assoc,
    List.cons_append, List.nil_append]

private theorem queryParameter_precision {curl : Curl} (documented : curl.Documented) (config : InfluxConfig) :
    queryParameter "precision" (writeQuery curl config) = some (urlEncode curl config.precision) := by
  have clean (value : Text) : '&' ∉ urlEncode curl value := documented.not_mem rfl (by decide) value
  have name : "precision".toList ++ ['='] = "precision=".toList := by decide
  have size : "precision".toList.length = 9 := by decide
  have org : List.isPrefixOf "precision=".toList ("org=".toList ++ urlEncode curl config.org) = false := by
    simp [List.isPrefixOf]
  have bucket : List.isPrefixOf "precision=".toList ("bucket=".toList ++ urlEncode curl config.bucket) = false := by
    simp [List.isPrefixOf]
  have own : List.isPrefixOf "precision=".toList ("precision=".toList ++ urlEncode curl config.precision) = true := by
    simp
  have value : ("precision=".toList ++ urlEncode curl config.precision).drop (9 + 1) =
      urlEncode curl config.precision := by
    simp
  rw [writeQuery_eq, queryParameter, List.splitOn_intercalate '&' (by simp [clean]) (by simp)]
  simp only [name, size, List.findSome?_cons, org, bucket, own, value, Bool.false_eq_true, ite_false, ite_true]

def schemaPrecisions : List Text := ["s", "ms", "us", "ns"]

private theorem textAfter_writeRequest {curl : Curl} (documented : curl.Documented) (config : InfluxConfig) (payload : Text) :
    textAfter '?' (writeRequest curl config payload).url = writeQuery curl config := by
  have clean (value : Text) : '?' ∉ urlEncode curl value := documented.not_mem rfl (by decide) value
  have absent : '?' ∉ writeQuery curl config := by
    unfold writeQuery
    simp [clean]
  have some : (writeQuery curl config).isEmpty = false := by
    unfold writeQuery
    simp
  simp only [writeRequest, httpRequest, some, Bool.false_eq_true, ite_false]
  exact textAfter_append _ absent

private theorem announcedUnit_eq {curl : Curl} (documented : curl.Documented) {config : InfluxConfig}
    (admitted : config.precision ∈ schemaPrecisions) (payload : Text) :
    announcedUnit (writeRequest curl config payload) = unitNanoseconds config.precision := by
  have plain : (schemaPrecisions.all fun precision => precision.all unreserved) = true := rfl
  have kept := documented.kept _ (List.all_eq_true.mp (List.all_eq_true.mp plain _ admitted))
  rw [announcedUnit, textAfter_writeRequest documented, queryParameter_precision documented, urlEncode, kept]
  rfl

private theorem unitNanoseconds_admitted {precision : Text} (admitted : precision ∈ schemaPrecisions) :
    ∃ unit, unitNanoseconds precision = some unit ∧ 1 ≤ unit ∧ (unit = 1 ↔ precision = "ns") := by
  simp only [schemaPrecisions, List.mem_cons, List.not_mem_nil, or_false] at admitted
  rcases admitted with rfl | rfl | rfl | rfl
  · exact ⟨10 ^ 9, by decide, by decide, by decide⟩
  · exact ⟨10 ^ 6, by decide, by decide, by decide⟩
  · exact ⟨10 ^ 3, by decide, by decide, by decide⟩
  · exact ⟨1, by decide, by decide, by decide⟩

private theorem mul_eq_floor_iff {value unit : Int} (nonnegative : 0 ≤ value) (positive : 1 ≤ unit) :
    value * unit = value / unit * unit ↔ unit = 1 ∨ value = 0 := by
  rw [Int.mul_eq_mul_right_iff (by omega)]
  constructor
  · intro same
    by_contra neither
    rw [not_or] at neither
    have smaller : value / unit < value := Int.ediv_lt_self_of_pos_of_ne_one (by omega) neither.1
    omega
  · rintro (rfl | rfl)
    · simp
    · simp

end Query

/-- The number on the line, read in the unit the request around it announces, is the
timestamp rounded down to that unit exactly when the unit is the nanosecond or the timestamp zero. -/
theorem written_instant_iff {curl : Curl} (documented : curl.Documented) {config : InfluxConfig}
    (admitted : config.precision ∈ schemaPrecisions) (payload influxFieldName : Text) (fieldValue : FieldValue)
    (tags : List TagInformation) {timestampNanoseconds : Int} (nonnegative : 0 ≤ timestampNanoseconds) :
    (∃ number unit,
        readDecimal (textAfter ' ' (buildLineProtocol config influxFieldName fieldValue tags timestampNanoseconds)) =
          some number ∧
        announcedUnit (writeRequest curl config payload) = some unit ∧
        number * unit = timestampNanoseconds / unit * unit) ↔
      config.precision = "ns" ∨ timestampNanoseconds = 0 := by
  obtain ⟨unit, known, positive, nanosecond⟩ := unitNanoseconds_admitted admitted
  have line : buildLineProtocol config influxFieldName fieldValue tags timestampNanoseconds =
      buildLineProtocol config influxFieldName fieldValue tags none ++ ' ' :: intText timestampNanoseconds := by
    simp [buildLineProtocol, fieldText, timestampText]
  rw [line, textAfter_append _ (not_mem_intText rfl (by decide) _), readDecimal_intText nonnegative,
    announcedUnit_eq documented admitted, known, ← nanosecond, ← mul_eq_floor_iff nonnegative positive]
  simp

def upperHex (digit : Nat) : Char := (Nat.digitChar (digit % 16)).toUpper

/-- `curl_easy_escape` for one byte characters. -/
def percentEscape (value : Text) : Text :=
  value.flatMap fun c => if unreserved c then [c] else ['%', upperHex (c.toNat / 16), upperHex c.toNat]

private theorem unreserved_upperHex (digit : Nat) : unreserved (upperHex digit) = true := by
  have small : ∀ digit < 16, unreserved (Nat.digitChar digit).toUpper = true := by decide
  exact small _ (Nat.mod_lt _ (by decide))

private theorem percentEscape_documented : (⟨fun value => some (percentEscape value)⟩ : Curl).Documented := by
  refine ⟨fun value safe => ?_, fun value result escaped c member => ?_⟩
  · have same : ∀ c ∈ value, (if unreserved c then [c] else ['%', upperHex (c.toNat / 16), upperHex c.toNat]) = [c] :=
      fun c member => if_pos (safe c member)
    simp [percentEscape, List.flatMap_congr same]
  · cases escaped
    obtain ⟨d, _, inside⟩ := List.mem_flatMap.mp member
    split at inside
    next safe => exact .inl (List.mem_singleton.mp inside ▸ safe)
    next =>
      simp only [List.mem_cons, List.not_mem_nil, or_false] at inside
      rcases inside with rfl | rfl | rfl
      · exact .inr rfl
      · exact .inl (unreserved_upperHex _)
      · exact .inl (unreserved_upperHex _)

theorem written_instant_in_nanoseconds :
    ∃ number unit,
      readDecimal (textAfter ' '
          (buildLineProtocol { precision := "ns" } "f" ⟨"1", false⟩ [] (some 1500000000))) = some number ∧
        announcedUnit (writeRequest ⟨fun value => some (percentEscape value)⟩ { precision := "ns" } []) = some unit ∧
        number * unit = 1500000000 / unit * unit :=
  (written_instant_iff percentEscape_documented (by decide) [] "f" ⟨"1", false⟩ [] (by decide)).mpr (.inl rfl)

/-- With milliseconds announced, the number of nanoseconds is read as milliseconds. -/
theorem millisecond_precision_misread :
    ¬ ∀ (curl : Curl) (config : InfluxConfig) (payload influxFieldName : Text) (fieldValue : FieldValue)
      (tags : List TagInformation) (timestampNanoseconds : Int),
      curl.Documented → config.precision ∈ schemaPrecisions → 0 ≤ timestampNanoseconds →
      ∃ number unit,
        readDecimal (textAfter ' ' (buildLineProtocol config influxFieldName fieldValue tags timestampNanoseconds)) =
            some number ∧
          announcedUnit (writeRequest curl config payload) = some unit ∧
          number * unit = timestampNanoseconds / unit * unit := by
  intro denotes
  obtain ⟨number, unit, written, announced, same⟩ := denotes ⟨fun value => some (percentEscape value)⟩
    { precision := "ms" } [] "f" ⟨"1", false⟩ [] 1500000 percentEscape_documented (by decide) (by decide)
  have nano : readDecimal (textAfter ' '
    (buildLineProtocol { precision := "ms" } "f" ⟨"1", false⟩ [] (some 1500000))) = some 1500000 := by decide
  rw [nano] at written
  rw [announcedUnit_eq percentEscape_documented (by decide)] at announced
  cases written
  cases announced
  revert same
  decide

end OpcUaAdapter
