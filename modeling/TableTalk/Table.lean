import TableTalk.Cell

/-! Rows and tables. A row maps column names to cells and keeps the order in which the names
first came; the first row of a table is its schema. -/
namespace TableTalk

abbrev Row := List (String × Cell)

namespace Row

def columns (row : Row) : List String := row.map Prod.fst

/-- The cell of a column, null if the row has none. -/
def get (row : Row) (column : String) : Cell := (row.lookup column).getD .null

/-- The row with a cell set: in the place of its column, or at the end if the column is new. -/
def set : Row → String → Cell → Row
  | [], column, cell => [(column, cell)]
  | (name, old) :: rest, column, cell =>
      if name = column then (name, cell) :: rest else (name, old) :: set rest column cell

/-- A row from cells in order; a later cell of a column replaces an earlier one. -/
def ofCells (cells : List (String × Cell)) : Row :=
  cells.foldl (fun row entry => row.set entry.1 entry.2) []

/-- How many values of a row are no legal cells. -/
def illegalCells (row : Row) : Nat := (row.filter (fun entry => !entry.2.isLegal)).length

end Row

abbrev Table := List Row

namespace Table

/-- The column names of the schema. -/
def columns : Table → List String
  | [] => []
  | row :: _ => row.columns

def illegalCells (table : Table) : Nat :=
  table.foldr (fun row count => row.illegalCells + count) 0

/-- The first rows by a count that may be negative, which leaves that many off the end. -/
def takeFirst (table : List α) (count : Int) : List α :=
  if 0 ≤ count then table.take count.toNat else table.take (table.length - (-count).toNat)

/-- The last rows by count; no rows unless the count is positive. -/
def takeLast (table : List α) (count : Int) : List α :=
  if 0 < count then table.drop (table.length - count.toNat) else []

end Table

end TableTalk
