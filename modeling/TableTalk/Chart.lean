import TableTalk.Problem
import TableTalk.Table
import TableTalk.Text.LowerCase
import TableTalk.Text.Search

/-! Which chart suits the rows of an answer. -/
namespace TableTalk

inductive ChartType where
  | table
  | bar
  | line
  | pie
  | radar
  deriving DecidableEq, Repr

namespace ChartType
open TableTalk.Text

def all : List ChartType := [.table, .bar, .line, .pie, .radar]

def name : ChartType → String
  | .table => "table"
  | .bar => "bar"
  | .line => "line"
  | .pie => "pie"
  | .radar => "radar"

/-- The chart type of a name, which must be spelled exactly. -/
def ofName (name : String) : Except Problem ChartType :=
  match all.find? (fun type => type.name = name) with
  | some type => .ok type
  | none => .error (.unknownChart name)

/-- Whether a cell can be drawn: it says something and denotes a number. -/
def isDrawable (cell : Cell) : Except Fault Bool :=
  if cell.isEmpty then .ok false else return (← cell.toNumber?).isSome

/-- Whether every row has a drawable cell in a column; the first one that has not decides. -/
def isNumericColumn (column : String) : Table → Except Fault Bool
  | [] => .ok true
  | row :: rest => do
      if ← isDrawable (row.get column) then isNumericColumn column rest else return false

/-- The columns of the schema that are drawable in all rows. -/
def numericColumns (columns : List String) (rows : Table) : Except Fault (List String) :=
  columns.filterM (fun column => isNumericColumn column rows)

/-- The chart for some rows by the words of the question, else by the columns. A radar is never
chosen. -/
def choose (rows : Table) (question : String) : Except Fault ChartType := do
  if rows.isEmpty then return .table
  let numeric ← numericColumns rows.columns rows
  let question := lower question.toList
  let mentions (phrase : String) : Bool := occursIn phrase.toList question
  if mentions "trend" || mentions "over time" then return .line
  if mentions "count" || mentions "group" then return .bar
  if mentions "distribution" && !numeric.isEmpty then return .pie
  if 2 < rows.columns.length ∧ 2 ≤ numeric.length then return .bar
  return .table

end ChartType
end TableTalk
