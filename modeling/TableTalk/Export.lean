import TableTalk.Csv.Writer
import TableTalk.Table

/-! Rows as comma-separated text. A column is written as a whole: if it has only numbers and missing
cells and not all of them are integers, its integers are written as floats, unless they need more
than 64 bits. -/
namespace TableTalk.Export
open TableTalk.Text TableTalk.Number CorePowers

/-- Whether integers share one of the two ranges of 64 bits, the signed or the unsigned one. -/
def shareRange (integers : List Int) : Bool :=
  integers.all (fun n => decide (-(2 ^ (63 : Nat)) ≤ n) && decide (n < 2 ^ (63 : Nat))) ||
    integers.all (fun n => decide (0 ≤ n) && decide (n < 2 ^ (64 : Nat)))

def integer? : Cell → Option Int
  | .int n => some n
  | _ => none

/-- Nothing or no number. -/
def isMissing : Cell → Bool
  | .null => true
  | .float x => isNaN x
  | _ => false

def isFloat : Cell → Bool
  | .float _ => true
  | _ => false

/-- Whether the integers of a column are written as floats: all cells are numbers or missing, not
all of them are integers, and the integers share a range. -/
def asFloats (cells : List Cell) : Bool :=
  cells.all (fun cell => isMissing cell || isFloat cell || (integer? cell).isSome) &&
    cells.any (fun cell => isMissing cell || isFloat cell) && shareRange (cells.filterMap integer?)

def fieldText (floats : Bool) (cell : Cell) : Except Fault Symbols :=
  if isMissing cell then .ok []
  else match floats, cell with
    | true, .int n => .ok (symbols (floatText (nearestFloat n)))
    | _, cell => cell.plainText

/-- The cells of a column; those that a row lacks are no numbers. -/
def columnCells (table : Table) (column : String) : List Cell :=
  table.map (fun row => (row.lookup column).getD (.float (0 / 0)))

/-- The fields of one row, by columns and whether they are written as floats. -/
def rowFields (columns : List (String × Bool)) (row : Row) : Except Fault (List Symbols) :=
  columns.mapM fun column =>
    fieldText column.2 ((row.lookup column.1).getD (.float (0 / 0)))

/-- The rows under a header of the column names of the schema; nothing for no rows. -/
def rows (table : Table) : Except Fault Symbols := do
  if table.isEmpty then return []
  let columns := table.columns.map fun column => (column, asFloats (columnCells table column))
  return Csv.writeRecords (table.columns.map symbols :: (← table.mapM (rowFields columns)))

end TableTalk.Export
