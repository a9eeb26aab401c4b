import TableTalk.Chart.Figure
import TableTalk.Proofs.Cell

/-! Why no chart can be chosen. A figure is drawn or left out, but where its type is to be chosen
every cell may be read, up to the first one of a column that is no number; and a cell that holds too
long a literal cannot be. -/
namespace TableTalk

namespace ChartType

variable {rows : Table} {column : String}

/-- A column in which a cell is overlong, and all cells above it can be drawn. -/
def Blocks (rows : Table) (column : String) : Prop :=
  ∃ before row after, rows = before ++ row :: after ∧
    (∀ other ∈ before, isDrawable (other.get column) = .ok true) ∧ (row.get column).IsOverlong

theorem isDrawable_eq_error_iff {cell : Cell} :
    (∃ fault, isDrawable cell = .error fault) ↔ cell.IsOverlong := by
  rw [← Cell.toNumber?_eq_error_iff]
  cases cell with
  | text s =>
    by_cases hs : s = ""
    · have hnone : Number.ofText? [] = .ok none := rfl
      simp [hs, isDrawable, Cell.isEmpty, Cell.toNumber?, hnone]
    · simp [isDrawable, Cell.isEmpty, hs, Except.map_eq_error_iff]
  | float x => cases hnan : Number.isNaN x <;> simp [isDrawable, Cell.isEmpty, Cell.toNumber?, hnan]
  | _ => simp [isDrawable, Cell.isEmpty, Cell.toNumber?]

theorem blocks_cons {row : Row} :
    Blocks (row :: rows) column ↔ (row.get column).IsOverlong ∨
      isDrawable (row.get column) = .ok true ∧ Blocks rows column := by
  constructor
  · rintro ⟨before, other, after, heq, hbefore, hover⟩
    rcases List.cons_eq_append_iff.mp heq with ⟨rfl, hfirst⟩ | ⟨tail, rfl, rfl⟩
    · cases hfirst
      exact .inl hover
    · rw [List.forall_mem_cons] at hbefore
      exact .inr ⟨hbefore.1, tail, other, after, rfl, hbefore.2, hover⟩
  · rintro (hover | ⟨hrow, before, other, after, rfl, hbefore, hover⟩)
    · exact ⟨[], row, rows, rfl, by simp, hover⟩
    · exact ⟨row :: before, other, after, rfl, List.forall_mem_cons.mpr ⟨hrow, hbefore⟩, hover⟩

theorem isNumericColumn_eq_error_iff :
    (∃ fault, isNumericColumn column rows = .error fault) ↔ Blocks rows column := by
  induction rows with
  | nil => simp [isNumericColumn, Blocks]
  | cons row rest ih =>
    rw [blocks_cons, ← isDrawable_eq_error_iff, ← ih]
    cases hcell : isDrawable (row.get column) with
    | error fault => simp [isNumericColumn, hcell]
    | ok drawable => cases drawable <;> simp [isNumericColumn, hcell, pure, Except.pure]

/-- The words of the question and the columns always have a chart; only finding the columns that
can be drawn may fail. -/
theorem choose_of_numericColumns {numeric : List String}
    (h : numericColumns rows.columns rows = .ok numeric) (question : String) :
    ∃ type, choose rows question = .ok type := by
  unfold choose
  split
  · exact ⟨.table, rfl⟩
  · rw [h, Except.ok_bind]
    dsimp only
    split_ifs <;> exact ⟨_, rfl⟩

theorem choose_eq_error_iff (question : String) :
    (∃ fault, choose rows question = .error fault) ↔
      ∃ column ∈ rows.columns, Blocks rows column := by
  have hnumeric : (∃ fault, numericColumns rows.columns rows = .error fault) ↔
      ∃ column ∈ rows.columns, Blocks rows column := by
    simp only [numericColumns, Except.exists_filterM_eq_error_iff, isNumericColumn_eq_error_iff]
  rw [← hnumeric]
  cases hcolumns : numericColumns rows.columns rows with
  | ok numeric =>
    obtain ⟨type, htype⟩ := choose_of_numericColumns hcolumns question
    simp [htype]
  | error fault =>
    unfold choose
    split
    case isTrue hempty =>
      rw [List.isEmpty_iff.mp hempty] at hcolumns
      cases hcolumns
    case isFalse =>
      simp only [hcolumns, Except.error_bind, Except.error.injEq]

end ChartType

namespace Figure

variable {settings : Settings} {rows : Table} {question : String}

/-- Drawing a chart of a given type never fails. -/
theorem ofRows_of_given {name : String} {given : Option ChartType}
    (h : (some name).mapM ChartType.ofName = .ok given) :
    ∃ figure, ofRows settings rows question (some name) = .ok figure := by
  obtain ⟨type, -, rfl⟩ : ∃ type, ChartType.ofName name = .ok type ∧ some type = given := by
    simpa using h
  unfold ofRows
  rw [h, Except.ok_bind]
  split <;> exact ⟨_, rfl⟩

/-- Drawing a chart of no given type fails exactly when choosing one does. -/
theorem ofRows_eq_error_iff :
    (∃ problem, ofRows settings rows question none = .error problem) ↔
      ∃ column ∈ rows.columns, ChartType.Blocks rows column := by
  rw [← ChartType.choose_eq_error_iff question]
  have hgiven : (none : Option String).mapM ChartType.ofName = .ok none := rfl
  unfold ofRows
  rw [hgiven, Except.ok_bind]
  split
  case isTrue hempty =>
    rw [List.isEmpty_iff.mp hempty]
    constructor <;> rintro ⟨_, h⟩ <;> cases h
  case isFalse =>
    cases ChartType.choose rows question <;> simp [Except.mapError, pure, Except.pure]

end Figure
end TableTalk
