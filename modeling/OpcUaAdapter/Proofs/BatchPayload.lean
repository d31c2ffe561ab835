import OpcUaAdapter.Library.Delimited
import OpcUaAdapter.LineProtocol
import OpcUaAdapter.Proofs.DecimalText

/-! The payload of a batch as a text of lines. Newlines are escaped in string values
only; one in a measurement, a tag or a field name breaks the record it stands in. -/

namespace OpcUaAdapter

private theorem newline_mem_identifier {input : Text} : '\n' ∈ escapeLineProtocolIdentifier input ↔ '\n' ∈ input := by
  unfold escapeLineProtocolIdentifier
  induction input with
  | nil => rfl
  | cons c rest ih =>
    rw [List.flatMap_cons, List.mem_append, List.mem_cons, ih]
    have head : '\n' ∈ (if needsBackslash c then ['\\', c] else [c]) ↔ '\n' = c := by
      split <;> simp
    rw [head]

private theorem trim_subset (value : Text) : trim value ⊆ value :=
  List.Subset.trans (List.rdropWhile_prefix _ _).subset (List.dropWhile_suffix _).subset

private theorem newline_not_mem_stringValue (input : Text) : '\n' ∉ escapeLineProtocolStringValue input := by
  intro inside
  obtain ⟨c, _, escaped⟩ := List.mem_flatMap.mp (trim_subset _ inside)
  split at escaped
  next => simp at escaped
  next => simp at escaped
  next => simp at escaped
  next => simp at escaped
  next _ _ _ plain _ => exact plain (List.mem_singleton.mp escaped).symm

/-- No text that is written unprotected into the line of a point contains a newline. -/
structure PendingWritePoint.NewlineFree (config : InfluxConfig) (point : PendingWritePoint) : Prop where
  measurement : '\n' ∉ config.measurement
  tags : ∀ tag ∈ mergedTags config point.tags, '\n' ∉ tag.key ∧ '\n' ∉ tag.value
  field : '\n' ∉ point.influxFieldName
  value : point.fieldValue.isString = false → '\n' ∉ point.fieldValue.value

private theorem newline_not_mem_valueText {fieldValue : FieldValue} :
    '\n' ∉ valueText fieldValue ↔ (fieldValue.isString = false → '\n' ∉ fieldValue.value) := by
  cases text : fieldValue.isString with
  | true => simp [valueText, text, newline_not_mem_stringValue]
  | false => simp [valueText, text]

private theorem newline_not_mem_line {config : InfluxConfig} {point : PendingWritePoint} :
    '\n' ∉ point.line config ↔ point.NewlineFree config := by
  have timestamp : '\n' ∉ timestampText point.timestampNanoseconds := by
    cases point.timestampNanoseconds with
    | none => simp [timestampText]
    | some value => simpa [timestampText] using not_mem_intText rfl (by decide) value
  have tag (tagInfo : TagInformation) : '\n' ∉ tagText tagInfo ↔ '\n' ∉ tagInfo.key ∧ '\n' ∉ tagInfo.value := by
    simp [tagText, newline_mem_identifier]
  have parts : '\n' ∉ point.line config ↔
      '\n' ∉ config.measurement ∧ (∀ tag ∈ mergedTags config point.tags, '\n' ∉ tag.key ∧ '\n' ∉ tag.value) ∧
        '\n' ∉ point.influxFieldName ∧ '\n' ∉ valueText point.fieldValue := by
    simp only [← tag]
    simp [PendingWritePoint.line, buildLineProtocol, seriesText, fieldText, newline_mem_identifier, timestamp]
  rw [parts, newline_not_mem_valueText]
  exact ⟨fun ⟨measurement, tags, field, value⟩ => ⟨measurement, tags, field, value⟩,
    fun ⟨measurement, tags, field, value⟩ => ⟨measurement, tags, field, value⟩⟩

theorem batchPayload_eq (config : InfluxConfig) (batch : List PendingWritePoint) :
    batchPayload config batch = ['\n'].intercalate (batch.map (PendingWritePoint.line config)) := by
  induction batch with
  | nil => rfl
  | cons point rest ih =>
    cases rest with
    | nil => simp [batchPayload]
    | cons next rest =>
      rw [batchPayload, ih, List.map_cons, List.map_cons, List.map_cons, List.intercalate_cons_cons]
      simp

/-- The payload has exactly the lines of the points exactly when no identifier of a point
contains a newline. -/
theorem payload_lines_iff (config : InfluxConfig) {batch : List PendingWritePoint} (nonempty : batch ≠ []) :
    ((batchPayload config batch).count '\n' = batch.length - 1 ∧
        (batchPayload config batch).splitOn '\n' = batch.map (PendingWritePoint.line config)) ↔
      ∀ point ∈ batch, point.NewlineFree config := by
  have lines : batch.map (PendingWritePoint.line config) ≠ [] := by simpa using nonempty
  have counted := Delimited.count_intercalate_iff '\n' lines
  rw [List.length_map, ← batchPayload_eq] at counted
  have clean : (∀ line ∈ batch.map (PendingWritePoint.line config), '\n' ∉ line) ↔
      ∀ point ∈ batch, point.NewlineFree config := by
    simp [newline_not_mem_line]
  rw [counted, clean]
  refine ⟨fun both => both.1, fun free => ⟨free, ?_⟩⟩
  rw [batchPayload_eq]
  exact List.splitOn_intercalate '\n' (clean.mpr free) lines

def demoTagged (value : Text) : PendingWritePoint := ⟨"f", ⟨"1", false⟩, [⟨"unit", value, []⟩], none⟩

theorem payload_lines_of_two_points :
    (batchPayload { measurement := "m" } [demoTagged "V", demoTagged "A"]).splitOn '\n' =
      [(demoTagged "V").line { measurement := "m" }, (demoTagged "A").line { measurement := "m" }] := by
  refine ((payload_lines_iff { measurement := "m" } (by simp)).mpr fun point member => ?_).2
  apply newline_not_mem_line.mp
  revert point
  decide

/-- A unit with a line break makes two lines of one point. -/
theorem newline_in_tag_splits_line :
    ¬ ∀ (config : InfluxConfig) (batch : List PendingWritePoint), batch ≠ [] →
      (batchPayload config batch).count '\n' = batch.length - 1 ∧
        (batchPayload config batch).splitOn '\n' = batch.map (PendingWritePoint.line config) := by
  intro lines
  have counted := (lines { measurement := "m" } [demoTagged "V\nm f=2"] (by simp)).1
  revert counted
  decide

end OpcUaAdapter
