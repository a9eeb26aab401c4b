import Mathlib.Data.List.Induction
import Mathlib.Data.List.Nodup
import Mathlib.Data.List.Perm.Subperm
import TableTalk.Ingest
import TableTalk.Proofs.Dataset.Build

/-! From the records of a file to its dataset. A row has each name once; records under distinct
clean names are rows as they are, and a file that is not too large has the dataset of its records.
-/
namespace TableTalk

namespace Row

theorem get_cons (name column : String) (cell : Cell) (rest : Row) :
    Row.get ((name, cell) :: rest) column = if column = name then cell else rest.get column := by
  by_cases h : column = name
  · simp [get, h]
  · have hne : (column == name) = false := by simpa using h
    simp [get, List.lookup_cons, hne, h]

theorem get_set (row : Row) (column other : String) (cell : Cell) :
    (row.set column cell).get other = if other = column then cell else row.get other := by
  induction row with
  | nil => rw [set, get_cons]
  | cons entry rest ih =>
    obtain ⟨name, old⟩ := entry
    rw [set]
    split_ifs with hname hother hother
    · rw [get_cons, if_pos (hother.trans hname.symm)]
    · rw [get_cons, get_cons, hname, if_neg hother, if_neg hother]
    · rw [get_cons, ih, if_pos hother, if_neg (hother ▸ Ne.symm hname)]
    · rw [get_cons, get_cons, ih, if_neg hother]

theorem get_of_mem {row : Row} (hnodup : row.columns.Nodup) {entry : String × Cell}
    (h : entry ∈ row) : row.get entry.1 = entry.2 := by
  induction row with
  | nil => cases h
  | cons first rest ih =>
    obtain ⟨name, cell⟩ := first
    obtain ⟨hnew, hrest⟩ := List.nodup_cons.mp hnodup
    rw [get_cons]
    rcases List.mem_cons.mp h with rfl | h
    · rw [if_pos rfl]
    · have hname : entry.1 ∈ rest.map Prod.fst := List.mem_map_of_mem h
      have hne : entry.1 ≠ name := by
        rintro rfl
        exact hnew hname
      rw [if_neg hne, ih hrest h]

theorem set_of_not_mem {row : Row} {column : String} (h : column ∉ row.columns) (cell : Cell) :
    row.set column cell = row ++ [(column, cell)] := by
  induction row with
  | nil => rfl
  | cons entry rest ih =>
    obtain ⟨name, old⟩ := entry
    rw [columns, List.map_cons, List.mem_cons, not_or] at h
    rw [set, if_neg (Ne.symm h.1), ih h.2, List.cons_append]

theorem ofCells_eq_self {cells : List (String × Cell)} (h : (cells.map Prod.fst).Nodup) :
    ofCells cells = cells := by
  have hfold (row : Row) (hrow : ((row ++ cells).map Prod.fst).Nodup) :
      cells.foldl (fun row entry => row.set entry.1 entry.2) row = row ++ cells := by
    clear h
    induction cells generalizing row with
    | nil => simp
    | cons entry rest ih =>
      have hnew : entry.1 ∉ row.columns := by
        rw [List.map_append, List.map_cons, List.nodup_append] at hrow
        exact fun hmem => hrow.2.2 _ hmem _ List.mem_cons_self rfl
      rw [List.append_cons] at hrow
      rw [List.foldl_cons, set_of_not_mem hnew, ih _ hrow, ← List.append_cons]
  exact hfold [] h

/-- A set cell is in the place of its column or comes last. -/
theorem columns_set (row : Row) (column : String) (cell : Cell) :
    (row.set column cell).columns =
      if column ∈ row.columns then row.columns else row.columns ++ [column] := by
  induction row with
  | nil => rfl
  | cons entry rest ih =>
    obtain ⟨name, old⟩ := entry
    have hcolumns : columns ((name, old) :: rest) = name :: columns rest := rfl
    rw [set, hcolumns]
    split_ifs with hname hmem hmem
    · rfl
    · exact absurd (hname ▸ List.mem_cons_self) hmem
    · have hrest := (List.mem_cons.mp hmem).resolve_left (Ne.symm hname)
      rw [if_pos hrest] at ih
      exact congrArg (name :: ·) ih
    · have hrest : column ∉ columns rest := fun h => hmem (List.mem_cons_of_mem _ h)
      rw [if_neg hrest] at ih
      exact congrArg (name :: ·) ih

theorem mem_set {row : Row} {column : String} {cell : Cell} {entry : String × Cell}
    (h : entry ∈ row.set column cell) : entry ∈ row ∨ entry = (column, cell) := by
  induction row with
  | nil => exact .inr (List.mem_singleton.mp h)
  | cons first rest ih =>
    obtain ⟨name, old⟩ := first
    rw [set] at h
    split_ifs at h with hname
    · subst hname
      exact (List.mem_cons.mp h).symm.imp_left (List.mem_cons_of_mem _)
    · rcases List.mem_cons.mp h with rfl | h
      · exact .inl List.mem_cons_self
      · exact (ih h).imp_left (List.mem_cons_of_mem _)

theorem ofCells_concat (cells : List (String × Cell)) (entry : String × Cell) :
    ofCells (cells ++ [entry]) = (ofCells cells).set entry.1 entry.2 := by
  rw [ofCells, List.foldl_append]
  rfl

/-- A row has no other cells than those it is made of. -/
theorem ofCells_subset (cells : List (String × Cell)) : ofCells cells ⊆ cells := by
  induction cells using List.reverseRecOn with
  | nil => exact List.nil_subset _
  | append_singleton cells entry ih =>
    intro other hother
    rw [ofCells_concat] at hother
    rcases mem_set hother with hold | rfl
    · exact List.mem_append_left _ (ih hold)
    · exact List.mem_append_right _ List.mem_cons_self

/-- The last cell that goes under a name is the one that is there. -/
theorem get_ofCells (cells : List (String × Cell)) (column : String) :
    (ofCells cells).get column =
      ((cells.reverse.find? fun entry => entry.1 == column).map Prod.snd).getD .null := by
  induction cells using List.reverseRecOn with
  | nil => rfl
  | append_singleton cells entry ih =>
    rw [ofCells_concat, get_set, ih, List.reverse_concat, List.find?_cons]
    by_cases h : entry.1 = column
    · simp [h]
    · have hne : (entry.1 == column) = false := by simpa using h
      rw [if_neg (Ne.symm h), hne]

/-- The names of a row are distinct and come from its cells. -/
theorem columns_ofCells (cells : List (String × Cell)) :
    (ofCells cells).columns.Nodup ∧ (ofCells cells).columns ⊆ cells.map Prod.fst := by
  refine ⟨?_, List.map_subset Prod.fst (ofCells_subset cells)⟩
  induction cells using List.reverseRecOn with
  | nil => exact List.nodup_nil
  | append_singleton cells entry ih =>
    rw [ofCells_concat, columns_set]
    split_ifs with hnew
    · exact ih
    · exact List.nodup_append_comm.mp (List.nodup_cons.mpr ⟨hnew, ih⟩)

/-- Which names a row has, and in which order, is settled by those of its cells. -/
theorem columns_ofCells_congr {cells others : List (String × Cell)}
    (h : cells.map Prod.fst = others.map Prod.fst) :
    (ofCells cells).columns = (ofCells others).columns := by
  have hfold (cells : List (String × Cell)) (row : Row) :
      (cells.foldl (fun row entry => row.set entry.1 entry.2) row).columns =
        (cells.map Prod.fst).foldl
          (fun names name => if name ∈ names then names else names ++ [name]) row.columns := by
    induction cells generalizing row with
    | nil => rfl
    | cons entry rest ih => rw [List.foldl_cons, ih, columns_set, List.map_cons, List.foldl_cons]
  rw [ofCells, ofCells, hfold, hfold, h]

/-- The names of a row are among those of its cells, so there are as many only if these are
distinct. -/
theorem length_ofCells (cells : List (String × Cell)) :
    (ofCells cells).length ≤ cells.length ∧
      ((ofCells cells).length = cells.length ↔ (cells.map Prod.fst).Nodup) := by
  obtain ⟨hnodup, hsubset⟩ := columns_ofCells cells
  have hsubperm : (ofCells cells).columns.Subperm (cells.map Prod.fst) :=
    List.subperm_of_subset hnodup hsubset
  have hlength := hsubperm.length_le
  rw [columns, List.length_map, List.length_map] at hlength
  refine ⟨hlength, fun heq => ?_, fun hdistinct => by rw [ofCells_eq_self hdistinct]⟩
  have hperm : (ofCells cells).columns.Perm (cells.map Prod.fst) := by
    apply hsubperm.perm_of_length_le
    rw [columns, List.length_map, List.length_map, heq]
  exact hperm.nodup_iff.mp hnodup

end Row

namespace Ingest

theorem cleanRow_eq_self {cells : List (String × Cell)} (hnodup : (cells.map Prod.fst).Nodup)
    (hclean : ∀ entry ∈ cells, ColumnName.normalize entry.1 = entry.1) :
    cleanRow cells = cells := by
  have hnames : cells.map (fun entry => (ColumnName.normalize entry.1, entry.2)) = cells := by
    rw [List.map_congr_left (g := id) fun entry hentry => by rw [hclean entry hentry]; rfl]
    exact List.map_id cells
  rw [cleanRow, hnames, Row.ofCells_eq_self hnodup]

/-- Every cell is one of the record, under the clean form of its name. -/
theorem mem_cleanRow {record : List (String × Cell)} {entry : String × Cell}
    (h : entry ∈ cleanRow record) :
    ∃ given ∈ record, (ColumnName.normalize given.1, given.2) = entry :=
  List.mem_map.mp (Row.ofCells_subset _ h)

/-- Every column is the clean form of a name in the record. -/
theorem exists_name_of_mem_cleanRow {record : List (String × Cell)} {column : String}
    (h : column ∈ (cleanRow record).columns) :
    ∃ entry ∈ record, ColumnName.normalize entry.1 = column := by
  obtain ⟨entry, hentry, rfl⟩ := List.mem_map.mp h
  obtain ⟨given, hgiven, rfl⟩ := mem_cleanRow hentry
  exact ⟨given, hgiven, rfl⟩

variable {settings : Settings} {bytes : List UInt8} {filename : String}
  {records : List (List (String × Cell))}

/-- A dataset from a file is built of the cleaned records in it. -/
theorem ofFile_eq_ok {dataset : Dataset} (h : ofFile settings bytes filename = .ok dataset) :
    ∃ records, Ingest.records filename bytes = .ok records ∧
      Dataset.build settings (records.map cleanRow) filename = .ok dataset := by
  unfold ofFile at h
  split at h
  · cases h
  · simp only [Except.bind_eq_ok_iff, Except.mapError_eq_ok_iff] at h
    exact h

theorem isTooLarge_of_ofFile {dataset : Dataset}
    (h : ofFile settings bytes filename = .ok dataset) : isTooLarge settings bytes = false := by
  unfold ofFile at h
  split at h
  next => cases h
  next hsize => simpa using hsize

theorem ofFile_of_records (hsize : isTooLarge settings bytes = false)
    (hrecords : Ingest.records filename bytes = .ok records) :
    ofFile settings bytes filename =
      (Dataset.build settings (records.map cleanRow) filename).mapError (inFile filename) := by
  unfold ofFile
  rw [if_neg (by simp [hsize])]
  simp only [hrecords, Except.ok_bind]

/-- A file of readable rows has a dataset of just these. -/
theorem exists_ofFile_eq_ok {rows : Table} (hsize : isTooLarge settings bytes = false)
    (hrecords : Ingest.records filename bytes = .ok records)
    (hrows : records.map cleanRow = rows) (hne : rows ≠ [])
    (hcells : ∀ row ∈ rows, ∀ entry ∈ row, entry.2.IsReadable) :
    ∃ dataset, ofFile settings bytes filename = .ok dataset ∧ dataset.rows = rows := by
  obtain ⟨dataset, hbuild, hdataset⟩ := Dataset.exists_build_eq_ok settings filename hne hcells
  refine ⟨dataset, ?_, hdataset⟩
  rw [ofFile_of_records hsize hrecords, hrows, hbuild]
  rfl

end Ingest
end TableTalk
