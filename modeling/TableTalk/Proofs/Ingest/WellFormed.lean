import TableTalk.Proofs.Classification
import TableTalk.Proofs.ColumnName
import TableTalk.Proofs.Ingest.Records

/-! The dataset of a file, whatever the file holds. Its rows have clean and distinct column names,
its columns are those of the first row, and its classification lists each of them once, under the
type it has in the schema. -/
namespace TableTalk

/-- What holds of every dataset that comes from a file. -/
structure Dataset.IsWellFormed (dataset : Dataset) : Prop where
  clean : ∀ row ∈ dataset.rows, ∀ name ∈ row.columns, ColumnName.normalize name = name
  nodup : ∀ row ∈ dataset.rows, row.columns.Nodup
  schema : ∃ first rest, dataset.rows = first :: rest ∧
    dataset.columns.map Prod.fst = first.columns
  once : ∀ name ∈ dataset.columns.map Prod.fst,
    dataset.classification.numeric.count name + dataset.classification.text.count name +
      dataset.classification.date.count name = 1
  ordered : ∀ type,
    (dataset.classification.listed type).Sublist (dataset.columns.map Prod.fst)
  typed : ∀ name type, (name, type) ∈ dataset.columns → name ∈ dataset.classification.listed type
  firstNumeric : dataset.classification.firstNumeric =
    (dataset.columns.find? (fun column => column.2 = .numeric)).map Prod.fst
  totalRows : dataset.classification.totalRows = dataset.rows.length
  totalColumns : dataset.classification.totalColumns = dataset.columns.length
  listed : dataset.classification.numeric.length + dataset.classification.text.length +
    dataset.classification.date.length = dataset.columns.length

/-- An overview has the counts of a dataset and the lists of its classification. -/
structure Overview.Describes (overview : Overview) (dataset : Dataset) : Prop where
  totalRows : overview.totalRows = dataset.rows.length
  totalColumns : overview.totalColumns = dataset.columns.length
  numeric : overview.numeric = dataset.classification.numeric
  text : overview.text = dataset.classification.text
  date : overview.date = dataset.classification.date

variable {settings : Settings} {rows : Table} {filename : String} {dataset : Dataset}
  {bytes : List UInt8}

theorem Dataset.isWellFormed_of_build (h : build settings rows filename = .ok dataset)
    (hclean : ∀ row ∈ rows, ∀ name ∈ row.columns, ColumnName.normalize name = name)
    (hnodup : ∀ row ∈ rows, row.columns.Nodup) : dataset.IsWellFormed := by
  obtain ⟨hne, classification, hclassify, rfl⟩ := build_eq_ok h
  obtain ⟨first, rest, rfl⟩ := List.exists_cons_of_ne_nil hne
  obtain ⟨types, htypes, hlisted, htotalRows, htotalColumns⟩ :=
    Classification.classify_eq_ok_iff.mp hclassify
  have hcolumns := Classification.map_fst_columnTypes htypes
  have hfirst : (Table.columns (first :: rest)).Nodup := hnodup first List.mem_cons_self
  have hschema := Classification.schema_eq hlisted hcolumns hfirst
  have hperm := Classification.namesOfType_perm types
  rw [← hlisted, ← hlisted, ← hlisted] at hperm
  have hlength : types.length = (Table.columns (first :: rest)).length := by
    rw [← hcolumns, List.length_map]
  rw [hschema]
  refine ⟨hclean, hnodup, ⟨first, rest, rfl, hcolumns⟩, ?_, ?_, ?_, ?_, htotalRows, ?_, ?_⟩
  · intro name hname
    have hcount := hperm.count_eq name
    rw [List.count_append, List.count_append,
      List.count_eq_one_of_mem (hcolumns ▸ hfirst) hname] at hcount
    exact hcount
  · intro type
    simp only [hlisted]
    exact Classification.namesOfType_sublist types type
  · intro name type hentry
    simp only [hlisted]
    exact Classification.mem_namesOfType.mpr hentry
  · have hnumeric : classification.numeric = Classification.namesOfType types .numeric :=
      hlisted .numeric
    rw [Classification.firstNumeric, hnumeric, Classification.namesOfType, List.head?_map,
      List.head?_filter]
  · exact htotalColumns.trans hlength.symm
  · have hsum := hperm.length_eq
    rw [List.length_append, List.length_append, List.length_map] at hsum
    exact hsum

theorem Dataset.IsWellFormed.describes_overview (h : dataset.IsWellFormed) (previewRows : Int) :
    (dataset.overview previewRows).Describes dataset :=
  ⟨h.totalRows, h.totalColumns, rfl, rfl, rfl⟩

namespace Ingest

theorem normalize_of_mem_cleanRow {cells : List (String × Cell)} {column : String}
    (h : column ∈ (cleanRow cells).columns) : ColumnName.normalize column = column := by
  obtain ⟨entry, -, rfl⟩ := exists_name_of_mem_cleanRow h
  exact ColumnName.normalize_normalize entry.1

/-- Every file that can be read gives a well-formed dataset, and every overview describes it. -/
theorem ofFile_isWellFormed (h : ofFile settings bytes filename = .ok dataset) :
    dataset.IsWellFormed ∧ ∀ previewRows, (dataset.overview previewRows).Describes dataset := by
  obtain ⟨records, -, hbuild⟩ := ofFile_eq_ok h
  have hwell : dataset.IsWellFormed := by
    apply Dataset.isWellFormed_of_build hbuild
    · rw [List.forall_mem_map]
      exact fun cells _ name hname => normalize_of_mem_cleanRow hname
    · rw [List.forall_mem_map]
      exact fun cells _ => (Row.columns_ofCells _).1
  exact ⟨hwell, hwell.describes_overview⟩

/-- A record with a date, in which two names become one. -/
def mergedBytes : List UInt8 := Text.Utf8.encode
  "[\x7b\"Net Price\": 1, \"net_price\": 2, \"Day\": \"2024-02-29\"\x7d]".toList

theorem ofFile_isWellFormed_merged :
    ∃ dataset, ofFile {} mergedBytes "prices.json" = .ok dataset ∧
      dataset.columns = [("net_price", .numeric), ("day", .date)] ∧
      dataset.IsWellFormed ∧ (dataset.overview 5).Describes dataset := by
  have hcolumns : (ofFile {} mergedBytes "prices.json").map Dataset.columns =
      .ok [("net_price", .numeric), ("day", .date)] := by decide +kernel
  obtain ⟨dataset, hfile, hcolumns⟩ := Except.map_eq_ok_iff.mp hcolumns
  obtain ⟨hwell, hdescribes⟩ := ofFile_isWellFormed hfile
  exact ⟨dataset, hfile, hcolumns, hwell, hdescribes 5⟩

end Ingest
end TableTalk
