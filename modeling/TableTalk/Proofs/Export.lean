import TableTalk.Export
import TableTalk.Proofs.Except
import TableTalk.Proofs.Text.Symbols

/-! Exported tables of texts: the fields are the texts themselves, line by line under the names of
the columns. -/
namespace TableTalk
open TableTalk.Text

namespace Csv

theorem doubleQuotes_map (field : List Char) :
    doubleQuotes (field.map Symbol.char) = (doubleQuotes field).map Symbol.char := by
  induction field with
  | nil => rfl
  | cons c rest ih =>
    by_cases hc : c = '"' <;> simp [doubleQuotes, hc, ih]

theorem writeField_map (field : List Char) :
    writeField (field.map Symbol.char) = (writeField field).map Symbol.char := by
  have hneeds : needsQuotes (field.map Symbol.char) = needsQuotes field := by
    simp [needsQuotes, List.any_map, Function.comp_def]
  rw [writeField, hneeds, writeField]
  split
  · simp [quoteField, doubleQuotes_map]
  · rfl

theorem writeFurther_map (fields : List (List Char)) :
    writeFurther (fields.map (fun field => field.map Symbol.char)) =
      (writeFurther fields).map Symbol.char := by
  induction fields with
  | nil => rfl
  | cons field rest ih => simp [writeFurther, writeField_map, ih]

theorem writeRecord_map (fields : List (List Char)) :
    writeRecord (fields.map (fun field => field.map Symbol.char)) =
      (writeRecord fields).map Symbol.char := by
  match fields with
  | [] | [[]] => rfl
  | (c :: field) :: rest | [] :: next :: rest =>
    simp [writeRecord, ← writeField_map, ← writeFurther_map]

/-- Records without halves are written as those of characters are. -/
theorem writeRecords_symbols (records : List (List String)) :
    writeRecords (records.map (fun fields => fields.map symbols)) = symbols (write records) := by
  rw [write, symbols_ofList]
  induction records with
  | nil => rfl
  | cons fields rest ih =>
    have hfields : fields.map symbols =
        (fields.map String.toList).map (fun field => field.map Symbol.char) := by
      rw [List.map_map]
      rfl
    rw [List.map_cons, writeRecords, List.flatMap_cons, ← writeRecords, ih, hfields,
      writeRecord_map, ← List.map_append]
    rfl

end Csv

/-- A row of texts under the names of their columns. -/
def Row.ofTexts (columns texts : List String) : Row := columns.zip (texts.map Cell.text)

variable {columns texts : List String} {lines : List (List String)} {P : String → Prop}

theorem Row.columns_ofTexts (h : texts.length = columns.length) :
    (Row.ofTexts columns texts).columns = columns := by
  have hle : columns.length ≤ (texts.map Cell.text).length := by
    rw [List.length_map]
    exact Nat.le_of_eq h.symm
  rw [Row.columns, Row.ofTexts, List.map_fst_zip hle]

theorem Row.exists_ofTexts {row : Row} (h : ∀ entry ∈ row, ∃ s, entry.2 = .text s ∧ P s) :
    ∃ texts, row = Row.ofTexts row.columns texts ∧ texts.length = row.columns.length ∧
      ∀ text ∈ texts, P text := by
  induction row with
  | nil => exact ⟨[], rfl, rfl, by simp⟩
  | cons entry rest ih =>
    obtain ⟨name, cell⟩ := entry
    rw [List.forall_mem_cons] at h
    obtain ⟨⟨s, rfl, hs⟩, hrest⟩ := h
    obtain ⟨texts, hrow, hlength, htexts⟩ := ih hrest
    refine ⟨s :: texts, ?_, ?_, List.forall_mem_cons.mpr ⟨hs, htexts⟩⟩
    · exact congrArg ((name, Cell.text s) :: ·) hrow
    · exact congrArg Nat.succ hlength

/-- Rows of texts under the same columns, as lines of texts. -/
theorem Table.exists_ofTexts {table : Table} (hcolumns : ∀ row ∈ table, row.columns = columns)
    (htexts : ∀ row ∈ table, ∀ entry ∈ row, ∃ s, entry.2 = .text s ∧ P s) :
    ∃ lines : List (List String), table = lines.map (Row.ofTexts columns) ∧
      ∀ texts ∈ lines, texts.length = columns.length ∧ ∀ text ∈ texts, P text := by
  induction table with
  | nil => exact ⟨[], rfl, by simp⟩
  | cons row rest ih =>
    rw [List.forall_mem_cons] at hcolumns htexts
    obtain ⟨texts, hrow, htext⟩ := Row.exists_ofTexts htexts.1
    obtain ⟨lines, rfl, hlines⟩ := ih hcolumns.2 htexts.2
    rw [hcolumns.1] at hrow htext
    exact ⟨texts :: lines, by rw [List.map_cons, ← hrow], List.forall_mem_cons.mpr ⟨htext, hlines⟩⟩

namespace Export

theorem lookup_ofTexts (hnodup : columns.Nodup) {column text : String}
    (h : (column, text) ∈ columns.zip texts) :
    (Row.ofTexts columns texts).lookup column = some (.text text) := by
  induction columns generalizing texts with
  | nil => cases h
  | cons name rest ih =>
    rw [List.nodup_cons] at hnodup
    cases texts with
    | nil => cases h
    | cons first others =>
      rw [List.zip_cons_cons, List.mem_cons, Prod.mk.injEq] at h
      rw [Row.ofTexts, List.map_cons, List.zip_cons_cons, List.lookup_cons, ← Row.ofTexts]
      rcases h with ⟨rfl, rfl⟩ | hmem
      · simp
      · have hne : column ≠ name := fun heq => hnodup.1 (heq ▸ (List.of_mem_zip hmem).1)
        have hbeq : (column == name) = false := by simpa using hne
        simp only [hbeq]
        exact ih hnodup.2 hmem

theorem rowFields_ofTexts (hnodup : columns.Nodup) (hlength : texts.length = columns.length)
    (asFloat : String → Bool) :
    rowFields (columns.map (fun column => (column, asFloat column))) (Row.ofTexts columns texts) =
      .ok (texts.map symbols) := by
  have hfields : List.Forall₂
      (fun column text => fieldText (asFloat column)
        (((Row.ofTexts columns texts).lookup column).getD (.float (0 / 0))) = .ok (symbols text))
      columns texts := by
    rw [List.forall₂_iff_zip]
    refine ⟨hlength.symm, ?_⟩
    intro column text hmem
    rw [lookup_ofTexts hnodup hmem]
    cases asFloat column <;> rfl
  rw [rowFields, Except.mapM_eq_ok_iff, List.forall₂_map_left_iff, List.forall₂_map_right_iff]
  exact hfields

theorem rows_ofTexts (hne : lines ≠ []) (hnodup : columns.Nodup)
    (hlength : ∀ texts ∈ lines, texts.length = columns.length) :
    rows (lines.map (Row.ofTexts columns)) = .ok (symbols (Csv.write (columns :: lines))) := by
  have hcolumns : Table.columns (lines.map (Row.ofTexts columns)) = columns := by
    cases lines with
    | nil => exact absurd rfl hne
    | cons texts rest => exact Row.columns_ofTexts (hlength texts List.mem_cons_self)
  have hfields : (lines.map (Row.ofTexts columns)).mapM (rowFields (columns.map fun column =>
      (column, asFloats (columnCells (lines.map (Row.ofTexts columns)) column)))) =
      .ok (lines.map fun texts => texts.map symbols) := by
    rw [Except.mapM_eq_ok_iff, List.forall₂_map_left_iff, List.forall₂_map_right_iff,
      List.forall₂_same]
    intro texts htexts
    exact rowFields_ofTexts hnodup (hlength texts htexts) _
  have hempty : (lines.map (Row.ofTexts columns)).isEmpty = false := by simpa using hne
  unfold rows
  rw [hempty, hcolumns]
  simp only [hfields, Except.ok_bind, ← Csv.writeRecords_symbols, List.map_cons]
  rfl

end Export
end TableTalk
