import Mathlib.Data.Bool.AllAny
import TableTalk.Proofs.ColumnName
import TableTalk.Proofs.Csv.Header
import TableTalk.Proofs.Csv.PlainSheet
import TableTalk.Proofs.Export
import TableTalk.Proofs.Ingest.Records

/-! Datasets from exported tables. A table of plain texts under plain names is the same table again
after its export was read, if the export is small enough for the delimiter to be guessed from all of
it. -/
namespace TableTalk
open TableTalk.Text

/-- Rows of plain texts under the same two or more distinct plain names. -/
structure Table.IsPlain (columns : List String) (table : Table) : Prop where
  size : 2 ≤ columns.length
  nodup : columns.Nodup
  names : ∀ column ∈ columns, column ≠ "" ∧ ∀ c ∈ column.toList, ColumnName.IsNameChar c
  rows : ∀ row ∈ table, row.columns = columns
  cells : ∀ row ∈ table, ∀ entry ∈ row,
    ∃ s, entry.2 = .text s ∧ ∀ c ∈ s.toList, Csv.IsFieldChar c

theorem ColumnName.IsNameChar.isFieldChar {c : Char} (h : IsNameChar c) : Csv.IsFieldChar c := by
  rcases h with hlower | hdigit | rfl
  · exact .inl (isAlphanum_iff.mpr (.inl (.inr hlower)))
  · exact .inl (isAlphanum_iff.mpr (.inr hdigit))
  · exact .inr (.inl rfl)

namespace Csv

variable {columns : List String} {lines : List (List String)}

theorem read_write (hsize : 2 ≤ columns.length)
    (hplain : ∀ texts ∈ columns :: lines, IsPlainRecord columns.length (texts.map String.toList))
    (hsample : (Utf8.encode (write (columns :: lines)).toList).length ≤ sampleSize) :
    read (Utf8.encode (write (columns :: lines)).toList) = .ok ⟨columns, lines⟩ := by
  rw [write, String.toList_ofList, List.map_cons] at hsample ⊢
  rw [← List.forall_mem_map (P := IsPlainRecord columns.length), List.map_cons] at hplain
  rw [read_plain hplain hsize hsample]
  simp [Function.comp_def]

/-- Under names that need no change, lines of that many fields are records as they are. -/
theorem Sheet.records_eq_zip (hnodup : columns.Nodup) (hne : ∀ column ∈ columns, column ≠ "")
    (hlength : ∀ texts ∈ lines, texts.length = columns.length) :
    Sheet.records ⟨columns, lines⟩ = lines.map columns.zip := by
  cases lines with
  | nil => rfl
  | cons first rest =>
    simp only [Sheet.records, Header.names_eq_self hnodup hne]
    apply List.map_congr_left
    intro texts htexts
    rw [hlength texts htexts, Nat.sub_self, List.drop_zero]

end Csv

namespace Ingest

variable {columns : List String} {lines : List (List String)} {filename : String}

theorem length_le_of_mem_write
    (hplain : ∀ texts ∈ columns :: lines,
      Csv.IsPlainRecord columns.length (texts.map String.toList)) (hsize : 2 ≤ columns.length)
    {texts : List String} (htexts : texts ∈ columns :: lines) {s : String} (hs : s ∈ texts) :
    s.toList.length ≤ (Utf8.encode (Csv.write (columns :: lines)).toList).length := by
  rw [Csv.write, String.toList_ofList]
  apply Csv.length_le_of_mem _ hsize (List.mem_map_of_mem htexts) (List.mem_map_of_mem hs)
  rwa [List.forall_mem_map]

/-- The records of a written sheet are its lines under the names of the header. -/
theorem records_write (hfile : isJsonName filename = false) (hsize : 2 ≤ columns.length)
    (hnodup : columns.Nodup) (hne : ∀ column ∈ columns, column ≠ "")
    (hplain : ∀ texts ∈ columns :: lines,
      Csv.IsPlainRecord columns.length (texts.map String.toList))
    (hsample : (Utf8.encode (Csv.write (columns :: lines)).toList).length ≤ Csv.sampleSize) :
    records filename (Utf8.encode (Csv.write (columns :: lines)).toList) =
      .ok (lines.map (Row.ofTexts columns)) := by
  have hlength : ∀ texts ∈ lines, texts.length = columns.length := by
    intro texts htexts
    simpa using (hplain texts (List.mem_cons_of_mem _ htexts)).length
  have hrows : (lines.map columns.zip).map
      (fun cells => cells.map (fun entry => (entry.1, Cell.text entry.2))) =
      lines.map (Row.ofTexts columns) := by
    rw [List.map_map]
    apply List.map_congr_left
    intro texts _
    rw [Function.comp_apply, Row.ofTexts, List.zip_map_right]
    rfl
  simp only [records, hfile, Bool.false_eq_true, if_false, csvRecords,
    Csv.read_write hsize hplain hsample, Except.mapError, Except.ok_bind]
  rw [Csv.Sheet.records_eq_zip hnodup hne hlength, hrows]
  rfl

theorem isPlainRecord_texts {size : Nat} {texts : List String} (hlength : texts.length = size)
    (hplain : ∀ s ∈ texts, ∀ c ∈ s.toList, Csv.IsFieldChar c) :
    Csv.IsPlainRecord size (texts.map String.toList) := by
  refine ⟨by rw [List.length_map, hlength], ?_⟩
  rw [List.forall_mem_map]
  exact hplain

theorem cleanRow_ofTexts {texts : List String} (hnodup : columns.Nodup)
    (hclean : ∀ column ∈ columns, ColumnName.normalize column = column)
    (hlength : texts.length = columns.length) :
    cleanRow (Row.ofTexts columns texts) = Row.ofTexts columns texts := by
  apply cleanRow_eq_self
  · have hcolumns := Row.columns_ofTexts hlength
    rw [Row.columns] at hcolumns
    rwa [hcolumns]
  · intro entry hentry
    exact hclean entry.1 (List.of_mem_zip hentry).1

theorem isReadable_ofTexts {texts : List String} (h : ∀ s ∈ texts, s.toList.length ≤ digitLimit) :
    ∀ entry ∈ Row.ofTexts columns texts, entry.2.IsReadable := by
  intro entry hentry
  obtain ⟨s, hs, htext⟩ := List.mem_map.mp (List.of_mem_zip hentry).2
  rw [← htext]
  exact ⟨rfl, Cell.not_isOverlong_of_length (h s hs)⟩

theorem isTooLarge_of_length_le {bytes : List UInt8} (h : bytes.length ≤ 1024) :
    isTooLarge {} bytes = false := by
  have hlimit : ({} : Settings).maxUploadSize = 10 := rfl
  rw [isTooLarge, decide_eq_false_iff_not, hlimit]
  omega

/-- A plain table comes back from its export, to the order of its columns and the characters of its
texts. -/
theorem ofFile_exported {table : Table} (h : table.IsPlain columns) (hne : table ≠ [])
    (hfile : isJsonName filename = false) :
    ∃ text, Export.rows table = .ok (symbols text) ∧
      ((Utf8.encode text.toList).length ≤ 1024 →
        ∃ dataset, ofFile {} (Utf8.encode text.toList) filename = .ok dataset ∧
          dataset.rows = table) := by
  obtain ⟨hsize, hnodup, hnames, hcolumns, hcells⟩ := h
  obtain ⟨lines, rfl, hlines⟩ := Table.exists_ofTexts hcolumns hcells
  have hlengths : ∀ texts ∈ lines, texts.length = columns.length :=
    fun texts htexts => (hlines texts htexts).1
  have hclean : ∀ column ∈ columns, ColumnName.normalize column = column :=
    fun column hcolumn => ColumnName.normalize_eq_self (hnames column hcolumn).2
  have hplain : ∀ texts ∈ columns :: lines,
      Csv.IsPlainRecord columns.length (texts.map String.toList) := by
    rw [List.forall_mem_cons]
    constructor
    · exact isPlainRecord_texts rfl fun column hcolumn c hc =>
        ((hnames column hcolumn).2 c hc).isFieldChar
    · exact fun texts htexts => isPlainRecord_texts (hlengths texts htexts) (hlines texts htexts).2
  refine ⟨Csv.write (columns :: lines),
    Export.rows_ofTexts (by simpa using hne) hnodup hlengths, ?_⟩
  intro hsample
  have hrecords := records_write hfile hsize hnodup
    (fun column hcolumn => (hnames column hcolumn).1) hplain hsample
  have hrows : (lines.map (Row.ofTexts columns)).map cleanRow =
      lines.map (Row.ofTexts columns) := by
    rw [List.map_map]
    exact List.map_congr_left fun texts htexts =>
      cleanRow_ofTexts hnodup hclean (hlengths texts htexts)
  apply exists_ofFile_eq_ok (isTooLarge_of_length_le hsample) hrecords hrows hne
  rw [List.forall_mem_map]
  intro texts htexts
  apply isReadable_ofTexts
  intro s hs
  have hlength := length_le_of_mem_write hplain hsize (List.mem_cons_of_mem columns htexts) hs
  exact (hlength.trans hsample).trans (by decide)

def prices : Table :=
  [[("name", .text "Pen"), ("price", .text "2.50")], [("name", .text ""), ("price", .text "-1")]]

/-- An empty cell among them stays empty. -/
theorem ofFile_exported_prices :
    prices.IsPlain ["name", "price"] ∧ prices ≠ [] ∧ isJsonName "prices.csv" = false ∧
      Export.rows prices = .ok (symbols "name,price\nPen,2.50\n,-1\n") ∧
      ∃ dataset, ofFile {} (Utf8.encode "name,price\nPen,2.50\n,-1\n".toList) "prices.csv" =
        .ok dataset ∧ dataset.rows = prices := by
  have hplain : prices.IsPlain ["name", "price"] := by
    refine ⟨by decide, by decide, ?_, by decide, ?_⟩
    · rw [List.forall_mem_cons, List.forall_mem_singleton]
      exact ⟨⟨by decide, List.all_iff_forall_prop.mp (by decide)⟩,
        by decide, List.all_iff_forall_prop.mp (by decide)⟩
    · have htext {s : String} (hs : s.toList.all (fun c => decide (Csv.IsFieldChar c)) = true) :
          ∃ t, Cell.text s = .text t ∧ ∀ c ∈ t.toList, Csv.IsFieldChar c :=
        ⟨s, rfl, List.all_iff_forall_prop.mp hs⟩
      simp only [prices, List.forall_mem_cons, List.not_mem_nil, false_implies, implies_true,
        and_true]
      exact ⟨⟨htext (by decide), htext (by decide)⟩, htext (by decide), htext (by decide)⟩
  have hne : prices ≠ [] := List.cons_ne_nil _ _
  have hfile : isJsonName "prices.csv" = false := by decide +kernel
  have hrows : Export.rows prices = .ok (symbols "name,price\nPen,2.50\n,-1\n") := by rfl
  obtain ⟨text, htext, hread⟩ := ofFile_exported hplain hne hfile
  obtain rfl := symbols_injective (Except.ok.inj (hrows.symm.trans htext))
  exact ⟨hplain, hne, hfile, hrows, hread (by decide)⟩

end Ingest
end TableTalk
