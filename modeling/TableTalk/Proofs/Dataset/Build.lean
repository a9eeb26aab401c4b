import TableTalk.Dataset
import TableTalk.Proofs.Cell

/-! When rows make a dataset. Whatever the settings, it is enough that there is a row, that all
cells are legal, and that no text among them spells too long an integer. The rows are then kept. -/
namespace TableTalk

variable {cells : List Cell} {rows : Table} {settings : Settings} {filename : String}

/-- A cell that can be kept and classified. -/
structure Cell.IsReadable (cell : Cell) : Prop where
  legal : cell.isLegal = true
  short : ¬ cell.IsOverlong

theorem Row.get_eq_null_or_mem (row : Row) (column : String) :
    row.get column = .null ∨ ∃ entry ∈ row, entry.2 = row.get column := by
  induction row with
  | nil => exact .inl rfl
  | cons entry rest ih =>
    obtain ⟨name, cell⟩ := entry
    simp only [Row.get, List.lookup_cons] at ih ⊢
    cases column == name with
    | true => exact .inr ⟨(name, cell), List.mem_cons_self, rfl⟩
    | false =>
      rcases ih with hnull | ⟨other, hother, hget⟩
      · exact .inl hnull
      · exact .inr ⟨other, List.mem_cons_of_mem _ hother, hget⟩

namespace Classification

theorem exists_countNumeric_eq_ok (h : ∀ cell ∈ cells, ¬ cell.IsOverlong) :
    ∃ count, countNumeric cells = .ok count := by
  have hnumeric : ∃ flags, cells.mapM isNumeric = .ok flags := by
    rw [Except.exists_mapM_eq_ok_iff]
    intro cell hcell
    obtain ⟨number, hnumber⟩ := Cell.exists_toNumber?_eq_ok (h cell hcell)
    exact ⟨number.isSome, by simp [isNumeric, hnumber]⟩
  obtain ⟨flags, hflags⟩ := hnumeric
  exact ⟨(flags.filter id).length, by simp [countNumeric, hflags]⟩

theorem exists_typeOfCells_eq_ok (threshold : Float) (h : ∀ cell ∈ cells, ¬ cell.IsOverlong) :
    ∃ type, typeOfCells threshold cells = .ok type := by
  obtain ⟨count, hcount⟩ := exists_countNumeric_eq_ok h
  unfold typeOfCells
  rw [hcount]
  simp only [Except.ok_bind]
  split_ifs <;> exact ⟨_, rfl⟩

theorem not_isOverlong_of_mem_filledCells (h : ∀ row ∈ rows, ∀ entry ∈ row, ¬ entry.2.IsOverlong)
    (column : String) : ∀ cell ∈ filledCells rows column, ¬ cell.IsOverlong := by
  intro cell hcell
  obtain ⟨row, hrow, rfl⟩ := List.mem_map.mp (List.mem_of_mem_filter hcell)
  rcases row.get_eq_null_or_mem column with hnull | ⟨entry, hentry, hget⟩
  · rintro ⟨s, _, htext, -⟩
    rw [hnull] at htext
    cases htext
  · rw [← hget]
    exact h row hrow entry hentry

theorem exists_classify_eq_ok (sampling : Sampling)
    (h : ∀ row ∈ rows, ∀ entry ∈ row, ¬ entry.2.IsOverlong) :
    ∃ classification, classify sampling rows = .ok classification := by
  have hsample : ∀ row ∈ Table.takeFirst rows sampling.size,
      ∀ entry ∈ row, ¬ entry.2.IsOverlong := by
    intro row hrow
    unfold Table.takeFirst at hrow
    split at hrow <;> exact h row (List.mem_of_mem_take hrow)
  have htypes : ∃ types, columnTypes sampling rows = .ok types := by
    rw [columnTypes, Except.exists_mapM_eq_ok_iff]
    intro column _
    obtain ⟨type, htype⟩ := exists_typeOfCells_eq_ok sampling.threshold
      (not_isOverlong_of_mem_filledCells hsample column)
    exact ⟨(column, type), by rw [htype]; rfl⟩
  obtain ⟨types, htypes⟩ := htypes
  exact ⟨_, by rw [classify, htypes]; rfl⟩

end Classification

theorem Table.illegalCells_eq_zero_iff :
    Table.illegalCells rows = 0 ↔ ∀ row ∈ rows, ∀ entry ∈ row, entry.2.isLegal = true := by
  have hrow (row : Row) : row.illegalCells = 0 ↔ ∀ entry ∈ row, entry.2.isLegal = true := by
    simp [Row.illegalCells]
  induction rows with
  | nil => simp [Table.illegalCells]
  | cons row rest ih =>
    rw [Table.illegalCells, List.foldr_cons, ← Table.illegalCells, Nat.add_eq_zero_iff,
      List.forall_mem_cons]
    exact and_congr (hrow row) ih

/-- A check of cells passes if there is no illegal one. -/
theorem Answer.checkCells_eq_ok_iff {record : String} :
    Answer.checkCells record rows = .ok () ↔
      ∀ row ∈ rows, ∀ entry ∈ row, entry.2.isLegal = true := by
  rw [← Table.illegalCells_eq_zero_iff, Answer.checkCells, Answer.refusalsPerCell]
  by_cases hlegal : Table.illegalCells rows = 0 <;> simp [hlegal]

namespace Dataset

/-- A dataset has the rows it is built of, and their schema under their classification. -/
theorem build_eq_ok {dataset : Dataset} (h : build settings rows filename = .ok dataset) :
    rows ≠ [] ∧ ∃ classification,
      Classification.classify (Sampling.ofSettings settings none none) rows = .ok classification ∧
        dataset = ⟨rows, rows.schema classification, filename, classification⟩ := by
  unfold build at h
  split at h
  case isTrue => cases h
  case isFalse hne =>
    simp only [Except.bind_eq_ok_iff, Except.mapError_eq_ok_iff, Except.pure_eq_ok_iff] at h
    obtain ⟨classification, hclassify, _, -, rfl⟩ := h
    exact ⟨by simpa using hne, classification, hclassify, rfl⟩

/-- Rows make no dataset because there are none, or because of a fault in their cells. -/
theorem build_eq_error {problem : Problem} (h : build settings rows filename = .error problem) :
    problem = .noData ∨ ∃ cause, problem = .fault cause := by
  unfold build at h
  split at h
  case isTrue => exact .inl (Except.error.inj h).symm
  case isFalse =>
    simp only [Except.bind_eq_error_iff, Except.mapError_eq_error_iff] at h
    rcases h with ⟨cause, -, rfl⟩ | ⟨_, -, ⟨cause, -, rfl⟩ | ⟨_, -, h⟩⟩
    · exact .inr ⟨cause, rfl⟩
    · exact .inr ⟨cause, rfl⟩
    · cases h

theorem rows_of_build {dataset : Dataset} (h : build settings rows filename = .ok dataset) :
    dataset.rows = rows := by
  obtain ⟨-, _, -, rfl⟩ := build_eq_ok h
  rfl

theorem exists_build_eq_ok (settings : Settings) (filename : String) (hne : rows ≠ [])
    (h : ∀ row ∈ rows, ∀ entry ∈ row, entry.2.IsReadable) :
    ∃ dataset, build settings rows filename = .ok dataset ∧ dataset.rows = rows := by
  obtain ⟨classification, hclassify⟩ :=
    Classification.exists_classify_eq_ok (Sampling.ofSettings settings none none)
      fun row hrow entry hentry => (h row hrow entry hentry).short
  have hcheck : Answer.checkCells "DatasetContext" rows = .ok () :=
    Answer.checkCells_eq_ok_iff.mpr fun row hrow entry hentry => (h row hrow entry hentry).legal
  have hbuild : ∃ dataset, build settings rows filename = .ok dataset := by
    unfold build
    rw [if_neg (by simpa using hne)]
    simp only [hclassify, hcheck]
    exact ⟨_, rfl⟩
  obtain ⟨dataset, hdataset⟩ := hbuild
  exact ⟨dataset, hdataset, rows_of_build hdataset⟩

end Dataset
end TableTalk
