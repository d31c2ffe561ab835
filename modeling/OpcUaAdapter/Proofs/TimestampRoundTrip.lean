import OpcUaAdapter.Proofs.DecimalText
import OpcUaAdapter.Proofs.HistoryWindow

/-! A timestamp on its way through the database: as nanoseconds, as text whose fraction
the database may shorten, and back. -/

namespace OpcUaAdapter

/-- Time and text of a count of seconds belong together; the text has nineteen characters
and is made of digits, dashes, colons and the letter `T`. -/
structure Calendar.InverseAt (calendar : Calendar) (seconds : Int) : Prop where
  length : (calendar.putTime seconds).length = 19
  plain : ∀ c ∈ calendar.putTime seconds, c.isDigit = true ∨ c ∈ ['-', 'T', ':']
  read : calendar.getTime (calendar.putTime seconds) = some seconds

/-- Zeros at the end of the fraction may be gone, and the dot with the last digit. -/
def Shortened (full text : Text) : Prop :=
  ∃ start fraction zeros, full = start ++ '.' :: (fraction ++ zeros ++ ['Z']) ∧ (∀ c ∈ zeros, c = '0') ∧
    text = start ++ (if fraction = [] then [] else '.' :: fraction) ++ ['Z']

private theorem find_none {c : Char} {text : Text} (absent : c ∉ text) : find [c] text = none := by
  induction text with
  | nil => rfl
  | cons d rest ih =>
    obtain ⟨other, absent⟩ := not_or.mp (List.mem_cons.not.mp absent)
    simp [find, other, ih absent]

private theorem find_first {c : Char} {front : Text} (absent : c ∉ front) (back : Text) :
    find [c] (front ++ c :: back) = some front.length := by
  induction front with
  | nil => simp [find]
  | cons d rest ih =>
    obtain ⟨other, absent⟩ := not_or.mp (List.mem_cons.not.mp absent)
    simp [find, other, ih absent]

section Fraction

variable {nanoseconds : Nat} (small : nanoseconds < 1000000000)

def nineDigits (nanoseconds : Nat) : Text := (Nat.toDigits 10 nanoseconds).leftpad 9 '0'

theorem nineDigits_digit {c : Char} (member : c ∈ nineDigits nanoseconds) : c.isDigit = true := by
  rcases List.mem_append.mp member with zero | digit
  · exact (List.eq_of_mem_replicate zero) ▸ rfl
  · exact Nat.isDigit_of_mem_toDigits (by decide) (by decide) digit

private theorem nineDigits_value : Nat.ofDigitChars 10 (nineDigits nanoseconds) 0 = nanoseconds := by
  rw [nineDigits, List.leftpad, Nat.ofDigitChars_append, Nat.ofDigitChars_replicate_zero, Nat.mul_zero]
  exact Nat.ofDigitChars_ten_toDigits

include small

private theorem nineDigits_length : (nineDigits nanoseconds).length = 9 := by
  have short : (Nat.toDigits 10 nanoseconds).length ≤ 9 :=
    (Nat.length_toDigits_le_iff (by decide) (by decide)).mpr small
  rw [nineDigits, List.leftpad, List.length_append, List.length_replicate]
  omega

private theorem stoll_nineDigits : stoll (nineDigits nanoseconds) = .ok (nanoseconds : Int) := by
  have digits : ∀ c ∈ nineDigits nanoseconds, c.isDigit = true := fun c member => nineDigits_digit member
  have value := @nineDigits_value nanoseconds
  have length := nineDigits_length small
  have terminated : cStr (nineDigits nanoseconds) = nineDigits nanoseconds := by
    refine cStr_eq_self_iff.mpr fun member => ?_
    have digit := digits _ member
    cases digit
  have scanned : scanInteger (nineDigits nanoseconds) = some (false, nanoseconds, []) := by
    generalize nineDigits nanoseconds = text at digits value length
    cases text with
    | nil => cases length
    | cons c rest =>
      obtain ⟨space, minus, plus⟩ := isDigit_plain (digits c List.mem_cons_self)
      exact (scanInteger_of_digits space minus plus digits).trans (by rw [value])
  unfold stoll
  rw [terminated, scanned]
  have range : longMin ≤ (nanoseconds : Int) ∧ (nanoseconds : Int) ≤ longMax := by
    simp only [longMin, longMax]
    omega
  simp [range]

end Fraction

variable {calendar : Calendar}

theorem formatRfc3339_eq (nanoseconds : Nat) :
    formatRfc3339FromNanoseconds calendar nanoseconds =
      calendar.putTime ((nanoseconds / 1000000000 : Nat) : Int) ++
        '.' :: (nineDigits (nanoseconds % 1000000000) ++ ['Z']) := by
  have positive : ¬ (nanoseconds : Int) < 0 := by omega
  unfold formatRfc3339FromNanoseconds
  rw [if_neg positive]
  rfl

section Reading

variable {seconds : Int} {nanoseconds : Nat} (utc : calendar.InverseAt seconds) (small : nanoseconds < 1000000000)
  {text : Text}

include utc

theorem Calendar.InverseAt.absent : '.' ∉ calendar.putTime seconds ∧ 'Z' ∉ calendar.putTime seconds := by
  constructor
  · intro member
    exact absurd (utc.plain _ member) (by decide)
  · intro member
    exact absurd (utc.plain _ member) (by decide)

theorem shortened_fraction
    (shortened : Shortened (calendar.putTime seconds ++ '.' :: (nineDigits nanoseconds ++ ['Z'])) text) :
    ∃ fraction, (∃ count, fraction ++ List.replicate count '0' = nineDigits nanoseconds) ∧
      text = calendar.putTime seconds ++ (if fraction = [] then [] else '.' :: fraction) ++ ['Z'] := by
  obtain ⟨start, fraction, zeros, full, all, rfl⟩ := shortened
  have bare : '.' ∉ nineDigits nanoseconds ++ ['Z'] := by
    have inside : '.' ∉ nineDigits nanoseconds := fun member => by cases nineDigits_digit member
    simpa using inside
  obtain ⟨rfl, _, rest⟩ := (List.append_cons_inj_of_notMem utc.absent.1 bare).mp full
  refine ⟨fraction, ⟨zeros.length, ?_⟩, rfl⟩
  rw [← List.eq_replicate_of_mem all]
  exact (List.append_cancel_right rest).symm

include small

private theorem fractionText_shortened {fraction : Text} {count : Nat}
    (digits : fraction ++ List.replicate count '0' = nineDigits nanoseconds) :
    fractionText (calendar.putTime seconds ++ (if fraction = [] then [] else '.' :: fraction) ++ ['Z']) =
      if fraction = [] then none else some (nineDigits nanoseconds) := by
  obtain ⟨dot, zulu⟩ := utc.absent
  by_cases whole : fraction = []
  · have absent : '.' ∉ calendar.putTime seconds ++ ['Z'] := by simpa using dot
    rw [if_pos whole, if_pos whole, List.append_nil, fractionText, find_none absent]
  · have digit : ∀ c ∈ fraction, c.isDigit = true := by
      intro c member
      exact nineDigits_digit (digits ▸ List.mem_append_left _ member)
    have bare : 'Z' ∉ calendar.putTime seconds ++ '.' :: fraction := by
      have inside : 'Z' ∉ fraction := fun member => by cases digit _ member
      simpa using ⟨zulu, inside⟩
    have first := find_first dot (fraction ++ ['Z'])
    have second := find_first bare []
    have length : fraction.length + count = 9 := by
      rw [← nineDigits_length small, ← digits, List.length_append, List.length_replicate]
    have filled : 0 < fraction.length := List.length_pos_iff.mpr whole
    have shape : calendar.putTime seconds ++ '.' :: fraction ++ ['Z'] =
        calendar.putTime seconds ++ '.' :: (fraction ++ ['Z']) := by simp
    rw [if_neg whole, if_neg whole, fractionText, second, shape, first]
    dsimp only
    rw [if_pos (by simp only [List.length_append, List.length_cons]; omega)]
    have behind : (calendar.putTime seconds ++ '.' :: (fraction ++ ['Z'])).drop ((calendar.putTime seconds).length + 1) =
        fraction ++ ['Z'] := by
      simp [List.drop_append]
    have size : (calendar.putTime seconds ++ '.' :: fraction).length - (calendar.putTime seconds).length - 1 =
        fraction.length := by
      rw [List.length_append, List.length_cons]
      omega
    have missing : 9 - fraction.length = count := by omega
    rw [behind, size, List.take_left, List.take_of_length_le (by omega), List.rightpad, missing, digits]

theorem checkedTimestamp_shortened
    (shortened : Shortened (calendar.putTime seconds ++ '.' :: (nineDigits nanoseconds ++ ['Z'])) text)
    (positive : 0 ≤ seconds) :
    checkedTimestamp calendar text =
        .ok ((signed64 (seconds * 1000000000)).bind fun product => signed64 (product + nanoseconds)) ∧
      parseTimestampToNanoseconds calendar text = .ok (seconds * 1000000000 + nanoseconds) := by
  obtain ⟨fraction, ⟨count, digits⟩, rfl⟩ := shortened_fraction utc shortened
  have start : (calendar.putTime seconds ++ (if fraction = [] then [] else '.' :: fraction) ++ ['Z']).take 19 =
      calendar.putTime seconds := by
    rw [List.append_assoc, ← utc.length, List.take_left]
  have after : ¬ seconds < 0 := by omega
  unfold checkedTimestamp parseTimestampToNanoseconds
  rw [start, utc.read, fractionText_shortened utc small digits]
  by_cases whole : fraction = []
  · have zero : nanoseconds = 0 := by
      rw [← @nineDigits_value nanoseconds, ← digits, whole, List.nil_append, Nat.ofDigitChars_replicate_zero, Nat.mul_zero]
    simp [whole, zero, after, bind, Except.bind, pure, Except.pure]
  · simp only [if_neg whole, stoll_nineDigits small]
    simp [after, bind, Except.bind, pure, Except.pure]

end Reading

private theorem unixNanoseconds_monotone {value later : Int} (order : value ≤ later) :
    uaDateTimeToUnixNanoseconds value ≤ uaDateTimeToUnixNanoseconds later := by
  unfold uaDateTimeToUnixNanoseconds unixEpoch
  split_ifs <;> omega

theorem uaDateTime_clamped (value : Int) :
    unixNanosecondsToUaDateTime (uaDateTimeToUnixNanoseconds value) = max unixEpoch (min value lastUaDateTime) := by
  have range := unixNanoseconds_range value
  have ticks := Int.tdiv_eq_ediv_of_nonneg (b := 100) range.1
  unfold unixNanosecondsToUaDateTime
  rw [ticks]
  unfold uaDateTimeToUnixNanoseconds lastUaDateTime unixEpoch longMax
  split_ifs <;> omega

private theorem checkedUaDateTime_eq {nanoseconds : Int} (range : 0 ≤ nanoseconds ∧ nanoseconds ≤ longMax) :
    checkedUaDateTime nanoseconds = some (unixNanosecondsToUaDateTime nanoseconds) := by
  unfold checkedUaDateTime unixNanosecondsToUaDateTime
  split
  · rfl
  · apply if_pos
    have ticks := Int.tdiv_eq_ediv_of_nonneg (b := 100) range.1
    rw [ticks]
    unfold longMin unixEpoch
    unfold longMax at *
    omega

theorem timestamp_reads_back {nanoseconds : Int} (range : 0 ≤ nanoseconds ∧ nanoseconds ≤ longMax)
    (utc : calendar.InverseAt (nanoseconds.tdiv 1000000000)) {text : Text}
    (shortened : Shortened (formatRfc3339FromNanoseconds calendar nanoseconds) text) :
    checkedTimestamp calendar text = .ok (some nanoseconds) ∧
      parseTimestampToNanoseconds calendar text = .ok nanoseconds := by
  obtain ⟨positive, bounded⟩ := range
  obtain ⟨count, rfl⟩ := Int.eq_ofNat_of_zero_le positive
  have small : count % 1000000000 < 1000000000 := Nat.mod_lt _ (by decide)
  rw [formatRfc3339_eq] at shortened
  have seconds : (count : Int).tdiv 1000000000 = ((count / 1000000000 : Nat) : Int) := rfl
  rw [seconds] at utc
  obtain ⟨checked, parsed⟩ := checkedTimestamp_shortened utc small shortened (Int.natCast_nonneg _)
  have whole : ((count / 1000000000 : Nat) : Int) * 1000000000 + ((count % 1000000000 : Nat) : Int) = (count : Int) := by
    omega
  have product : signed64 (((count / 1000000000 : Nat) : Int) * 1000000000) =
      some (((count / 1000000000 : Nat) : Int) * 1000000000) := by
    apply if_pos
    unfold longMin
    unfold longMax at *
    omega
  have sum : signed64 (count : Int) = some (count : Int) := by
    apply if_pos
    unfold longMin
    omega
  constructor
  · rw [checked, product, Option.bind_some, whole, sum]
  · rw [parsed, whole]

/-- A source timestamp survives its way through the database up to the clamping. -/
theorem source_timestamp_survives {value : Int} (represented : longMin ≤ value ∧ value ≤ longMax)
    (utc : calendar.InverseAt ((uaDateTimeToUnixNanoseconds value).tdiv 1000000000)) {text : Text}
    (shortened : Shortened (formatRfc3339FromNanoseconds calendar (uaDateTimeToUnixNanoseconds value)) text) :
    checkedUnixNanoseconds value = some (uaDateTimeToUnixNanoseconds value) ∧
      0 ≤ uaDateTimeToUnixNanoseconds value ∧
      checkedTimestamp calendar text = .ok (some (uaDateTimeToUnixNanoseconds value)) ∧
      parseTimestampToNanoseconds calendar text = .ok (uaDateTimeToUnixNanoseconds value) ∧
      checkedUaDateTime (uaDateTimeToUnixNanoseconds value) = some (max unixEpoch (min value lastUaDateTime)) ∧
      unixNanosecondsToUaDateTime (uaDateTimeToUnixNanoseconds value) = max unixEpoch (min value lastUaDateTime) ∧
      ∀ later, value ≤ later → uaDateTimeToUnixNanoseconds value ≤ uaDateTimeToUnixNanoseconds later := by
  have range := unixNanoseconds_range value
  obtain ⟨checked, parsed⟩ := timestamp_reads_back range utc shortened
  refine ⟨checkedUnixNanoseconds_eq represented.2, range.1, checked, parsed, ?_, uaDateTime_clamped value, ?_⟩
  · rw [checkedUaDateTime_eq range, uaDateTime_clamped]
  · exact fun later order => unixNanoseconds_monotone order

/-- The calendar of one second in the year 2024. -/
def newYearCalendar : Calendar where
  putTime _ := "2024-01-01T00:00:00".toList
  getTime text := if text = "2024-01-01T00:00:00".toList then some 1704067200 else none

/-- Half a second of 2024 comes back as it was, from a fraction of one digit. -/
theorem new_year_survives :
    parseTimestampToNanoseconds newYearCalendar "2024-01-01T00:00:00.5Z".toList = .ok 1704067200500000000 ∧
      unixNanosecondsToUaDateTime 1704067200500000000 = 133485408005000000 := by
  have utc : newYearCalendar.InverseAt ((uaDateTimeToUnixNanoseconds 133485408005000000).tdiv 1000000000) :=
    ⟨rfl, forall_of_all (by decide), rfl⟩
  have shortened : Shortened (formatRfc3339FromNanoseconds newYearCalendar
      (uaDateTimeToUnixNanoseconds 133485408005000000)) "2024-01-01T00:00:00.5Z".toList :=
    ⟨"2024-01-01T00:00:00".toList, ['5'], "00000000".toList, by decide +kernel, forall_of_all (by decide), rfl⟩
  have survives := source_timestamp_survives (by decide) utc shortened
  exact ⟨survives.2.2.2.1, survives.2.2.2.2.2.1⟩

end OpcUaAdapter
