import TableTalk.Proofs.Csv.Ragged
import TableTalk.Proofs.Ingest.MergedColumns
import TableTalk.Proofs.Ingest.WellFormed

/-! Tables from delimited lines, whatever bytes they are read from. All rows have the same columns in
the same order and every cell is a text, also where a line has less fields than there are columns. -/
namespace TableTalk
open TableTalk.Text

namespace Ingest

/-- The cells of a line under names, from some field of it on. A field that it has not is an empty
text. -/
def lineCells (names : List String) (labels : Nat) (line : List String) : List (String × Cell) :=
  names.zipIdx.map fun entry => (entry.1, .text (line.getD (labels + entry.2) ""))

/-- Rows of texts under the columns of their dataset, made of lines that stand in the file. -/
structure IsTextTable (bytes : List UInt8) (dataset : Dataset) : Prop where
  ne_nil : dataset.rows ≠ []
  columns : ∀ row ∈ dataset.rows, row.columns = dataset.columns.map Prod.fst
  texts : ∀ row ∈ dataset.rows, ∀ entry ∈ row, ∃ text, entry.2 = .text text
  lines : ∃ sheet labels lines, Csv.read bytes = .ok sheet ∧ Csv.HasLines bytes lines ∧
    dataset.rows = (lines.filter fun line =>
        decide (line.length ≤ labels + (Csv.Header.names sheet.header).length)).map
      fun line => cleanRow (lineCells (Csv.Header.names sheet.header) labels line)

variable {settings : Settings} {bytes : List UInt8} {filename : String} {dataset : Dataset}
  {names line : List String} {labels width : Nat} {cells : List (String × Cell)}

theorem map_fst_lineCells (names : List String) (labels : Nat) (line : List String) :
    (lineCells names labels line).map Prod.fst = names := by
  rw [lineCells, List.map_map]
  exact List.zipIdx_map_fst 0 names

/-- Under their names the fields of a line that was filled up are its own, and empty. -/
theorem zip_filled (hnames : names.length ≤ width) (hline : line.length ≤ width) :
    (names.zip ((line ++ List.replicate (width - line.length) "").drop
      (width - names.length))).map (fun entry => (entry.1, Cell.text entry.2)) =
        lineCells names (width - names.length) line := by
  have hlength : (line ++ List.replicate (width - line.length) "").length = width := by
    rw [List.length_append, List.length_replicate]
    omega
  apply List.ext_getElem
  · simp only [lineCells, List.length_map, List.length_zip, List.length_drop, hlength,
      List.length_zipIdx]
    omega
  · intro index hindex hindex'
    simp only [lineCells, List.getElem_map, List.getElem_zip, List.getElem_drop,
      List.getElem_zipIdx, Nat.zero_add, Prod.mk.injEq, true_and, Cell.text.injEq]
    rw [List.getElem_append]
    split
    next hown => exact List.getElem_eq_getD ""
    next hmissing =>
      have hnone := List.getElem?_eq_none (Nat.le_of_not_lt hmissing)
      rw [List.getElem_replicate, List.getD_eq_getElem?_getD, hnone]
      rfl

/-- The rows of a sheet are those of the lines that stand in its file and are no longer than the
sheet is wide. -/
theorem exists_rows_eq {sheet : Csv.Sheet} (h : Csv.read bytes = .ok sheet) :
    ∃ labels lines, Csv.HasLines bytes lines ∧
      (sheet.records.map fun cells => cells.map fun entry => (entry.1, Cell.text entry.2)) =
        (lines.filter fun line =>
            decide (line.length ≤ labels + (Csv.Header.names sheet.header).length)).map
          (lineCells (Csv.Header.names sheet.header) labels) := by
  obtain ⟨width, lines, hlines, hwidth, hfill⟩ := Csv.exists_hasLines_of_read h
  rw [← Csv.Header.length_names] at hwidth
  refine ⟨width - (Csv.Header.names sheet.header).length, lines, hlines, ?_⟩
  rw [Nat.sub_add_cancel hwidth, Csv.Sheet.records_eq_map, hfill, Csv.fill, List.map_map,
    List.map_map]
  apply List.map_congr_left
  intro line hline
  have hshort : line.length ≤ width := by simpa using (List.mem_filter.mp hline).2
  have hlength : (line ++ List.replicate (width - line.length) "").length = width := by
    rw [List.length_append, List.length_replicate]
    omega
  rw [Function.comp_apply, Function.comp_apply, hlength]
  exact zip_filled hwidth hshort

/-- The columns of a row are settled by the names alone. -/
theorem columns_cleanRow_lineCells (names : List String) (labels : Nat) (line : List String) :
    (cleanRow (lineCells names labels line)).columns =
      (cleanRow (lineCells names labels [])).columns := by
  apply Row.columns_ofCells_congr
  have hnames (line : List String) : cleanNames (lineCells names labels line) =
      names.map ColumnName.normalize := by
    rw [cleanNames, ← Function.comp_def ColumnName.normalize Prod.fst, ← List.map_map,
      map_fst_lineCells]
  rw [map_fst_cleaned, map_fst_cleaned, hnames, hnames]

theorem text_of_mem_cleanRow {entry : String × Cell}
    (h : entry ∈ cleanRow (lineCells names labels line)) : ∃ text, entry.2 = .text text := by
  obtain ⟨given, hgiven, rfl⟩ := mem_cleanRow h
  obtain ⟨_, -, rfl⟩ := List.mem_map.mp hgiven
  exact ⟨_, rfl⟩

/-- Whatever the bytes, a file that is read as delimited lines gives a table of texts. -/
theorem ofFile_isTextTable (hname : isJsonName filename = false)
    (h : ofFile settings bytes filename = .ok dataset) : IsTextTable bytes dataset := by
  obtain ⟨records, hrecords, hbuild⟩ := ofFile_eq_ok h
  rw [Ingest.records, if_neg (by simp [hname])] at hrecords
  obtain ⟨sheet, hsheet, rfl⟩ := csvRecords_eq_ok hrecords
  obtain ⟨labels, lines, hlines, hcells⟩ := exists_rows_eq hsheet
  have hrows := Dataset.rows_of_build hbuild
  rw [hcells, List.map_map] at hrows
  have hrow : ∀ row ∈ dataset.rows, ∃ line,
      row = cleanRow (lineCells (Csv.Header.names sheet.header) labels line) := by
    intro row hmem
    rw [hrows] at hmem
    obtain ⟨line, -, rfl⟩ := List.mem_map.mp hmem
    exact ⟨line, rfl⟩
  obtain ⟨first, rest, hfirst, hcolumns⟩ := (ofFile_isWellFormed h).1.schema
  refine ⟨by rw [hfirst]; exact List.cons_ne_nil _ _, fun row hmem => ?_, fun row hmem => ?_,
    sheet, labels, lines, hsheet, hlines, hrows⟩
  · obtain ⟨line, rfl⟩ := hrow row hmem
    obtain ⟨other, rfl⟩ := hrow first (hfirst ▸ List.mem_cons_self)
    rw [hcolumns, columns_cleanRow_lineCells _ _ line, columns_cleanRow_lineCells _ _ other]
  · obtain ⟨line, rfl⟩ := hrow row hmem
    exact fun entry hentry => text_of_mem_cleanRow hentry

/-- Fields with delimiters and a line end in quotes, two names that become one, a short line, a blank
one and one that is too long. -/
def raggedBytes : List UInt8 := Utf8.encode
  ("Name;Note;Price;price\n\"Lovelace; Ada\";\"two\nlines\";3;4\nBo\n\n" ++
    "Cy;1;2;3;4\n").toList

theorem ofFile_isTextTable_ragged :
    isJsonName "people.txt" = false ∧
      ∃ dataset, ofFile {} raggedBytes "people.txt" = .ok dataset ∧
        dataset.rows.map (fun row => row.map fun entry => (entry.1, entry.2.renderText)) =
          [[("name", .ok (symbols "Lovelace; Ada")), ("note", .ok (symbols "two\nlines")),
              ("price", .ok (symbols "4"))],
            [("name", .ok (symbols "Bo")), ("note", .ok (symbols "")),
              ("price", .ok (symbols ""))]] ∧
        IsTextTable raggedBytes dataset := by
  have hname : isJsonName "people.txt" = false := by decide +kernel
  have hshown : (ofFile {} raggedBytes "people.txt").map
      (fun dataset => dataset.rows.map fun row => row.map fun entry =>
        (entry.1, entry.2.renderText)) =
      .ok [[("name", .ok (symbols "Lovelace; Ada")), ("note", .ok (symbols "two\nlines")),
          ("price", .ok (symbols "4"))],
        [("name", .ok (symbols "Bo")), ("note", .ok (symbols "")),
          ("price", .ok (symbols ""))]] := by decide +kernel
  obtain ⟨dataset, hfile, hrows⟩ := Except.map_eq_ok_iff.mp hshown
  exact ⟨hname, dataset, hfile, hrows, ofFile_isTextTable hname hfile⟩

end Ingest
end TableTalk
