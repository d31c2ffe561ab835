import OpcUaAdapter.FluxRead

/-! Lines of comma separated cells. A cell may be written between quotes, with the
quotes in it doubled, and must be when it contains a comma or a quote. -/

namespace OpcUaAdapter

structure CsvCell where
  text : Text
  quoted : Bool
  plain : quoted = false → ',' ∉ text ∧ '"' ∉ text

namespace CsvCell

def empty : CsvCell := ⟨[], false, by simp⟩

def doubled (text : Text) : Text := text.flatMap fun c => if c = '"' then ['"', '"'] else [c]

def written (cell : CsvCell) : Text := if cell.quoted then '"' :: (doubled cell.text ++ ['"']) else cell.text

end CsvCell

def csvRow (cells : List CsvCell) : Text := [','].intercalate (cells.map CsvCell.written)

private theorem csvCells_inside {c : Char} (quote : c ≠ '"') (current rest : Text) :
    csvCells true current (c :: rest) = csvCells true (current ++ [c]) rest := by
  rw [csvCells]
  · simp [quote]
  · intro _ _ same
    exact absurd same quote

private theorem csvCells_outside {c : Char} (comma : c ≠ ',') (quote : c ≠ '"') (current rest : Text) :
    csvCells false current (c :: rest) = csvCells false (current ++ [c]) rest := by
  simp [csvCells, comma, quote]

private theorem csvCells_comma (current rest : Text) :
    csvCells false current (',' :: rest) = current :: csvCells false [] rest := by
  simp [csvCells]

private theorem csvCells_text {text : Text} (plain : ',' ∉ text ∧ '"' ∉ text) (current rest : Text) :
    csvCells false current (text ++ rest) = csvCells false (current ++ text) rest := by
  induction text generalizing current with
  | nil => simp
  | cons c text ih =>
    simp only [List.mem_cons, not_or] at plain
    rw [List.cons_append, csvCells_outside (Ne.symm plain.1.1) (Ne.symm plain.2.1), ih ⟨plain.1.2, plain.2.2⟩]
    simp

private theorem csvCells_closing {rest : Text} (next : ∀ c ∈ rest.head?, c ≠ '"') (current : Text) :
    csvCells true current ('"' :: rest) = csvCells false current rest := by
  cases rest with
  | nil => simp [csvCells]
  | cons c rest =>
    have other : c ≠ '"' := next c rfl
    rw [csvCells]
    · simp
    · intro _ _ _ same
      exact other (List.cons.inj same).1

private theorem csvCells_doubled (text : Text) {rest : Text} (next : ∀ c ∈ rest.head?, c ≠ '"') (current : Text) :
    csvCells true current (CsvCell.doubled text ++ '"' :: rest) = csvCells false (current ++ text) rest := by
  induction text generalizing current with
  | nil => simpa [CsvCell.doubled] using csvCells_closing next current
  | cons c text ih =>
    rw [CsvCell.doubled, List.flatMap_cons, ← CsvCell.doubled]
    by_cases quote : c = '"'
    · subst quote
      rw [if_pos rfl]
      simp only [List.cons_append, List.nil_append]
      rw [csvCells, ih]
      simp
    · rw [if_neg quote, List.append_assoc, List.singleton_append, csvCells_inside quote, ih]
      simp

private theorem csvCells_written (cell : CsvCell) {rest : Text} (next : ∀ c ∈ rest.head?, c ≠ '"') :
    csvCells false [] (cell.written ++ rest) = csvCells false cell.text rest := by
  unfold CsvCell.written
  cases quoted : cell.quoted with
  | false => simpa using csvCells_text (cell.plain quoted) [] rest
  | true =>
    have inside := csvCells_doubled cell.text next []
    simpa [csvCells] using inside

/-- The cells of a line are read back, whichever of them stand between quotes. -/
theorem parseCsvLine_csvRow {cells : List CsvCell} (nonempty : cells ≠ []) :
    parseCsvLine (csvRow cells) = cells.map CsvCell.text := by
  unfold parseCsvLine csvRow
  induction cells with
  | nil => exact absurd rfl nonempty
  | cons cell cells ih =>
    cases cells with
    | nil =>
      have read := @csvCells_written cell [] (by simp)
      simpa [csvCells] using read
    | cons other cells =>
      have later := ih (List.cons_ne_nil _ _)
      rw [List.map_cons, List.map_cons, List.intercalate_cons_cons, List.append_assoc,
        csvCells_written cell (by simp), List.singleton_append, csvCells_comma, ← List.map_cons, later]
      rfl

/-- Which cells stand between quotes makes no difference to what is read, and a line is
written in one way only as far as its cells go. -/
theorem written_cells_recovered {cells : List CsvCell} (nonempty : cells ≠ []) :
    parseCsvLine (csvRow cells) = cells.map CsvCell.text ∧ (parseCsvLine (csvRow cells)).length = cells.length ∧
      (∀ others : List CsvCell, others.map CsvCell.text = cells.map CsvCell.text →
        parseCsvLine (csvRow others) = parseCsvLine (csvRow cells)) ∧
      ∀ others : List CsvCell, others ≠ [] → csvRow others = csvRow cells →
        others.map CsvCell.text = cells.map CsvCell.text := by
  have read := parseCsvLine_csvRow nonempty
  refine ⟨read, ?_, ?_, ?_⟩
  · rw [read, List.length_map]
  · intro others same
    have filled : others ≠ [] := fun empty => nonempty (List.map_eq_nil_iff.mp (same.symm.trans (by rw [empty]; rfl)))
    rw [read, parseCsvLine_csvRow filled, same]
  · intro others filled same
    rw [← read, ← same, parseCsvLine_csvRow filled]

/-- An empty cell, an empty cell between quotes, and one with a comma and quotes. -/
theorem mixed_cells_recovered :
    parseCsvLine ",\"\",\"a,\"\"b\"\"\"" = ["", "", "a,\"b\""] :=
  (@written_cells_recovered [⟨"", false, by decide⟩, ⟨"", true, nofun⟩, ⟨"a,\"b\"", true, nofun⟩]
    (List.cons_ne_nil _ _)).1

end OpcUaAdapter
