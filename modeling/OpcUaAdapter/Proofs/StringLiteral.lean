import OpcUaAdapter.Library.Quoted
import OpcUaAdapter.LineProtocol

/-! The string literal of a line: one literal that is closed by its last character and
stands for the string without the blanks around it. -/

namespace OpcUaAdapter

/-- A string literal of the line protocol, where the letters `n` and `r` stand for line breaks. -/
def lineQuoting : Quoting Char where
  quote := '"'
  mark := '\\'
  decode
    | '\\' => some '\\'
    | '"' => some '"'
    | 'n' => some '\n'
    | 'r' => some '\r'
    | _ => none
  refuses _ _ := false

@[simp] theorem lineQuoting_quote : lineQuoting.quote = '"' := rfl

@[simp] theorem lineQuoting_mark : lineQuoting.mark = '\\' := rfl

def lineCode : Char → Option Char
  | '\\' => some '\\'
  | '"' => some '"'
  | '\n' => some 'n'
  | '\r' => some 'r'
  | _ => none

private theorem lineCode_none {c : Char} (mark : c ≠ '\\') (quote : c ≠ '"') (newline : c ≠ '\n') (feed : c ≠ '\r') :
    lineCode c = none := by
  unfold lineCode
  split
  next => exact absurd rfl mark
  next => exact absurd rfl quote
  next => exact absurd rfl newline
  next => exact absurd rfl feed
  next => rfl

private theorem lineCode_codes : lineQuoting.Codes lineCode where
  different := by decide
  quote := rfl
  mark := rfl
  decode c d coded := by
    unfold lineCode at coded
    split at coded
    all_goals cases coded
    all_goals rfl

private theorem escapeLineProtocolStringValue_escape (input : Text) :
    escapeLineProtocolStringValue input = trim (lineQuoting.escape lineCode input) := by
  unfold escapeLineProtocolStringValue Quoting.escape
  refine congrArg trim (List.flatMap_congr fun c _ => ?_)
  split
  all_goals try rfl
  next mark quote newline feed => rw [lineCode_none mark quote newline feed]

/-- What is trimmed of a string: line breaks are not, as they are escaped first. -/
def isBlank (c : Char) : Bool := c = ' ' || c = '\t' || c = '\x0b' || c = '\x0c'

def trimBlanks (value : Text) : Text := (value.dropWhile isBlank).rdropWhile isBlank

private theorem isspace_bare {c : Char} (bare : lineCode c = none) : isspace c = isBlank c := by
  have newline : c ≠ '\n' := by rintro rfl; cases bare
  have feed : c ≠ '\r' := by rintro rfl; cases bare
  simp [isspace, isBlank, newline, feed]

private theorem coded_plain {c d : Char} (coded : lineCode c = some d) : isBlank c = false ∧ isspace d = false := by
  unfold lineCode at coded
  split at coded
  all_goals cases coded
  all_goals exact ⟨rfl, rfl⟩

private theorem dropWhile_escape (input : Text) :
    (lineQuoting.escape lineCode input).dropWhile isspace = lineQuoting.escape lineCode (input.dropWhile isBlank) := by
  induction input with
  | nil => rfl
  | cons c rest ih =>
    cases coded : lineCode c with
    | some d =>
      rw [Quoting.escape_coded coded, List.dropWhile_cons_of_neg (by decide), List.dropWhile_cons_of_neg,
        Quoting.escape_coded coded]
      simp [(coded_plain coded).1]
    | none =>
      rw [Quoting.escape_bare coded, List.dropWhile_cons, List.dropWhile_cons, isspace_bare coded]
      split
      · exact ih
      · rw [Quoting.escape_bare coded]

private theorem rdropWhile_escape (input : Text) :
    (lineQuoting.escape lineCode input).rdropWhile isspace =
      lineQuoting.escape lineCode (input.rdropWhile isBlank) := by
  induction input using List.reverseRecOn with
  | nil => rfl
  | append_singleton front c ih =>
    rw [Quoting.escape_append]
    cases coded : lineCode c with
    | some d =>
      obtain ⟨filled, plain⟩ := coded_plain coded
      rw [List.rdropWhile_concat_neg _ _ _ (by simp [filled]), Quoting.escape_append, Quoting.escape_coded coded]
      change (_ ++ ([lineQuoting.mark] ++ [d])).rdropWhile isspace = _
      rw [← List.append_assoc, List.rdropWhile_concat_neg _ _ _ (by simp [plain]), List.append_assoc]
      rfl
    | none =>
      rw [Quoting.escape_bare coded]
      change (_ ++ [c]).rdropWhile isspace = _
      rw [List.rdropWhile_concat, List.rdropWhile_concat, isspace_bare coded]
      split
      · exact ih
      · rw [Quoting.escape_append, Quoting.escape_bare coded]
        rfl

theorem escapeLineProtocolStringValue_trimmed (input : Text) :
    escapeLineProtocolStringValue input = lineQuoting.escape lineCode (trimBlanks input) := by
  rw [escapeLineProtocolStringValue_escape, trim, dropWhile_escape, rdropWhile_escape]
  rfl

private theorem lineBreak_not_mem_escape (input : Text) :
    '\n' ∉ lineQuoting.escape lineCode input ∧ '\r' ∉ lineQuoting.escape lineCode input := by
  induction input with
  | nil => exact ⟨List.not_mem_nil, List.not_mem_nil⟩
  | cons c rest ih =>
    cases coded : lineCode c with
    | some d =>
      have plain := (coded_plain coded).2
      have newline : d ≠ '\n' := by rintro rfl; cases plain
      have feed : d ≠ '\r' := by rintro rfl; cases plain
      rw [Quoting.escape_coded coded]
      simp [ih, newline.symm, feed.symm]
    | none =>
      have newline : c ≠ '\n' := by rintro rfl; cases coded
      have feed : c ≠ '\r' := by rintro rfl; cases coded
      rw [Quoting.escape_bare coded]
      simp [ih, newline.symm, feed.symm]

private theorem lineQuoting_fine (value : Text) : lineQuoting.fine lineCode value = true := by
  induction value with
  | nil => rfl
  | cons c rest ih =>
    rw [Quoting.fine, ih, Bool.and_true, Bool.or_eq_true]
    exact .inr rfl

/-- The value that is written for a string is one literal, which ends with the text. It has
no line break in it and stands for the string without the blanks around it. -/
theorem string_value_reads_back (config : InfluxConfig) (influxFieldName input : Text)
    (tags : List TagInformation) (timestampNanoseconds : Option Int) :
    ∃ value, buildLineProtocol config influxFieldName ⟨input, true⟩ tags timestampNanoseconds =
        seriesText config tags ++ ' ' ::
          (escapeLineProtocolIdentifier influxFieldName ++ '=' :: (value ++ timestampText timestampNanoseconds)) ∧
      lineQuoting.scan false value = some ([[], []], [trimBlanks input]) ∧ '\n' ∉ value ∧ '\r' ∉ value := by
  have shape : valueText ⟨input, true⟩ = lineQuoting.write lineCode [] [(trimBlanks input, [])] := by
    rw [valueText, if_pos rfl, escapeLineProtocolStringValue_trimmed]
    simp [Quoting.write]
  have scanned : lineQuoting.scan false (lineQuoting.write lineCode [] [(trimBlanks input, [])]) = _ :=
    Quoting.scan_write lineCode_codes List.not_mem_nil (by simp)
  obtain ⟨newline, feed⟩ := lineBreak_not_mem_escape (trimBlanks input)
  refine ⟨valueText ⟨input, true⟩, rfl, ?_, ?_, ?_⟩
  · rw [shape, scanned, if_pos (by simp [lineQuoting_fine])]
    rfl
  · rw [shape]
    simp [Quoting.write, newline]
  · rw [shape]
    simp [Quoting.write, feed]

end OpcUaAdapter
