import TableTalk.Calendar.Recognition
import TableTalk.Settings
import TableTalk.Table

/-! The types of the columns of a table: numeric or date when more than a given share of the cells
in the sampled rows are such, text otherwise. -/
namespace TableTalk

inductive ColumnType where
  | numeric
  | date
  | text
  deriving DecidableEq, Repr

def ColumnType.name : ColumnType → String
  | .numeric => "numeric"
  | .date => "date"
  | .text => "text"

/-- The rows that are looked at, and the share of cells that must be passed. -/
structure Sampling where
  size : Int
  threshold : Float

/-- The sampling asked for; a missing size or a size of zero means the setting. -/
def Sampling.ofSettings (settings : Settings) (size : Option Int) (threshold : Option Float) :
    Sampling :=
  ⟨(size.filter (· ≠ 0)).getD settings.typeSampleSize, threshold.getD settings.typeThreshold⟩

/-- The columns of a table by type, each list in schema order. -/
structure Classification where
  numeric : List String
  text : List String
  date : List String
  totalRows : Nat
  totalColumns : Nat
  deriving DecidableEq, Repr

namespace Classification

/-- Whether a count passes a share of the total. -/
def passes (count total : Nat) (threshold : Float) : Bool :=
  decide (Float.ofNat total * threshold < Float.ofNat count)

def isNumeric (cell : Cell) : Except Fault Bool := return (← cell.toNumber?).isSome

/-- How many cells are numeric. -/
def countNumeric (cells : List Cell) : Except Fault Nat :=
  return ((← cells.mapM isNumeric).filter id).length

/-- The type of a column by its cells. Numbers go before dates. -/
def typeOfCells (threshold : Float) (cells : List Cell) : Except Fault ColumnType := do
  if cells.isEmpty then return .text
  if passes (← countNumeric cells) cells.length threshold then return .numeric
  if passes (cells.filter Cell.isDate).length cells.length threshold then return .date
  return .text

/-- The cells of a column that say something. -/
def filledCells (table : Table) (column : String) : List Cell :=
  (table.map (fun row => row.get column)).filter (fun cell => !cell.isEmpty)

/-- The columns with their types. -/
def columnTypes (sampling : Sampling) (table : Table) :
    Except Fault (List (String × ColumnType)) :=
  let sample := Table.takeFirst table sampling.size
  table.columns.mapM fun column =>
    return (column, ← typeOfCells sampling.threshold (filledCells sample column))

def namesOfType (columns : List (String × ColumnType)) (type : ColumnType) : List String :=
  (columns.filter (fun column => column.2 = type)).map Prod.fst

def classify (sampling : Sampling) (table : Table) : Except Fault Classification := do
  let columns ← columnTypes sampling table
  return { numeric := namesOfType columns .numeric
           text := namesOfType columns .text
           date := namesOfType columns .date
           totalRows := table.length
           totalColumns := table.columns.length }

/-- The type under which a name is listed, text if it is not listed. -/
def typeOf (classification : Classification) (column : String) : ColumnType :=
  if classification.numeric.contains column then .numeric
  else if classification.date.contains column then .date
  else .text

def firstNumeric (classification : Classification) : Option String := classification.numeric.head?

end Classification

/-- The columns of a table with the types of a classification. -/
def Table.schema (table : Table) (classification : Classification) : List (String × ColumnType) :=
  table.columns.map (fun column => (column, classification.typeOf column))

end TableTalk
