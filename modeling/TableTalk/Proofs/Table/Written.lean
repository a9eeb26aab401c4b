import TableTalk.Proofs.Number.Literal
import TableTalk.Table

/-! Tables with their integers written out as decimal texts. A written integer within the limit
denotes the same number and shows the same text as the integer itself. -/
namespace TableTalk
open TableTalk.Text TableTalk.Number

/-- The cell with its decimal text in place of an integer. -/
def Cell.written : Cell → Cell
  | .int n => .text (integerText n)
  | cell => cell

def Row.written (row : Row) : Row := row.map fun entry => (entry.1, entry.2.written)

def Table.written (table : Table) : Table := table.map Row.written

namespace Cell

variable {cell : Cell}

/-- An integer has no more digits than the limit allows. -/
def IsWritable (cell : Cell) : Prop := ∀ n, cell = .int n → n.natAbs < 10 ^ digitLimit

theorem isEmpty_written (cell : Cell) : cell.written.isEmpty = cell.isEmpty := by
  cases cell with
  | int n =>
    have hne : (integerText n).toList ≠ [] := by
      rw [integerText_toList]
      exact List.append_ne_nil_of_right_ne_nil _ Nat.toDigits_ne_nil
    simpa [written, isEmpty] using hne
  | _ => rfl

theorem isLegal_written (cell : Cell) : cell.written.isLegal = cell.isLegal := by
  cases cell <;> rfl

theorem toNumber?_written (h : cell.IsWritable) : cell.written.toNumber? = cell.toNumber? := by
  cases cell with
  | int n => exact ofText?_integerText (h n rfl)
  | _ => rfl

theorem toNumberOrZero_written (h : cell.IsWritable) :
    cell.written.toNumberOrZero = cell.toNumberOrZero := by
  rw [toNumberOrZero, toNumber?_written h, toNumberOrZero]

theorem renderText_written (h : cell.IsWritable) : cell.written.renderText = cell.renderText := by
  cases cell with
  | int n =>
    simp [written, renderText, plainText, itemText, writeInteger_of_lt (h n rfl)]
  | _ => rfl

end Cell

theorem Row.columns_written (row : Row) : row.written.columns = row.columns := by
  rw [columns, written, List.map_map]
  rfl

theorem Row.get_written (row : Row) (column : String) :
    row.written.get column = (row.get column).written := by
  unfold get
  have hlookup : row.written.lookup column = (row.lookup column).map Cell.written := by
    induction row with
    | nil => rfl
    | cons entry rest ih =>
      have hcons : written (entry :: rest) = (entry.1, entry.2.written) :: written rest := rfl
      rw [hcons, List.lookup_cons, List.lookup_cons, ih]
      split <;> rfl
  rw [hlookup]
  cases row.lookup column <;> rfl

theorem Row.illegalCells_written (row : Row) : row.written.illegalCells = row.illegalCells := by
  rw [illegalCells, written, List.filter_map, List.length_map, illegalCells]
  simp only [Function.comp_def, Cell.isLegal_written]

/-- All integers that can be looked up in a row can be written. -/
def Row.IsWritable (row : Row) : Prop := ∀ column, (row.get column).IsWritable

namespace Table

variable {table : Table}

theorem columns_written (table : Table) : table.written.columns = table.columns := by
  cases table with
  | nil => rfl
  | cons row rest => exact row.columns_written

theorem illegalCells_written (table : Table) : table.written.illegalCells = table.illegalCells := by
  rw [illegalCells, written, List.foldr_map, illegalCells]
  simp only [Row.illegalCells_written]

theorem takeFirst_map {α β : Type} (f : α → β) (rows : List α) (count : Int) :
    takeFirst (rows.map f) count = (takeFirst rows count).map f := by
  unfold takeFirst
  split <;> simp [List.map_take]

theorem takeLast_map {α β : Type} (f : α → β) (rows : List α) (count : Int) :
    takeLast (rows.map f) count = (takeLast rows count).map f := by
  unfold takeLast
  split <;> simp [List.map_drop]

/-- A column has no integers, or nothing else but empty cells, and then they can be written. -/
def HasPureIntegers (table : Table) : Prop :=
  ∀ column, (∀ row ∈ table, ∀ n, row.get column ≠ .int n) ∨
    ∀ row ∈ table, (row.get column).isEmpty = true ∨
      ∃ n, row.get column = .int n ∧ n.natAbs < 10 ^ digitLimit

theorem HasPureIntegers.of_subset {rows : Table} (h : table.HasPureIntegers)
    (hsubset : ∀ row ∈ rows, row ∈ table) : HasPureIntegers rows := fun column =>
  (h column).imp (fun hnone row hrow => hnone row (hsubset row hrow))
    (fun hpure row hrow => hpure row (hsubset row hrow))

theorem HasPureIntegers.isWritable (h : table.HasPureIntegers) {row : Row} (hrow : row ∈ table) :
    row.IsWritable := by
  intro column n hcell
  rcases h column with hnone | hpure
  · exact absurd hcell (hnone row hrow n)
  · rcases hpure row hrow with hempty | ⟨m, hm, hlimit⟩
    · rw [hcell] at hempty
      cases hempty
    · rw [hcell] at hm
      cases hm
      exact hlimit

end Table
end TableTalk
