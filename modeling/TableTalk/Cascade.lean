import TableTalk.Question.Signals
import TableTalk.Table
import TableTalk.Tally
import TableTalk.Text.LowerCase
import TableTalk.Text.Search

/-! Carrying out the operations on a table, in a fixed order: rows from the start, rows from the
end, the filter, groups, the average, the total. Each step sees what the one before it left, but
averages and totals are those of the whole table. -/
namespace TableTalk.Cascade
open TableTalk.Text TableTalk.Number

inductive Step where
  | takeFirst (count : Int)
  | takeLast (count : Int)
  /-- Rows whose cell shows the name of its column. -/
  | keepMentions (column : String)
  | countBy (column : String)
  | average (column : String)
  | total (column : String)
  deriving DecidableEq, Repr

/-- Whether the text of a cell, in lower case, has the name of its column in it. -/
def mentionsColumn (column : String) (row : Row) : Except Fault Bool :=
  return occursIn (symbols column) (mapParts lower (← (row.get column).renderText))

def keepMentions (column : String) : Table → Except Fault Table
  | [] => .ok []
  | row :: rest => do
      let keep ← mentionsColumn column row
      let kept ← keepMentions column rest
      return if keep then row :: kept else kept

/-- The texts of a column, one for each row. -/
def shownTexts (column : String) (table : Table) : Except Fault (List Symbols) :=
  table.mapM (fun row => (row.get column).renderText)

/-- The row of a group; a grouped column of the name "count" gives way to the count. -/
def groupRow (column : String) (group : Symbols × Nat) : Row :=
  Row.ofCells [(column, .ofSymbols group.1), ("count", .int group.2)]

/-- The groups of a column by the texts of its cells, in order of first appearance. -/
def countBy (column : String) (table : Table) : Except Fault Table :=
  return (Tally.ofList (← shownTexts column table)).map (groupRow column)

/-- The sum of a column, to which all but numbers add nothing. -/
def columnSum (table : Table) (column : String) : Except Fault Number := do
  sum (← table.mapM (fun row => (row.get column).toNumberOrZero))

def averageOf (table : Table) (column : String) : Except Fault Table := do
  let total ← columnSum table column
  return [[("average_" ++ column, .text (twoPlaces (← share total table.length)))]]

def totalOf (table : Table) (column : String) : Except Fault Table :=
  return [[("total_" ++ column, (← columnSum table column).toCell)]]

/-- What a step makes of the rows so far. -/
def Step.apply (table rows : Table) : Step → Except Fault Table
  | .takeFirst count => .ok (Table.takeFirst rows count)
  | .takeLast count => .ok (Table.takeLast rows count)
  | .keepMentions column => Cascade.keepMentions column rows
  | .countBy column => Cascade.countBy column rows
  | .average column => averageOf table column
  | .total column => totalOf table column

/-- The steps for the operations asked for. Unnamed columns are passed over. -/
def steps (signals : Signals) : List Step :=
  (signals.limitHead.map Step.takeFirst).toList ++
  (signals.limitTail.map Step.takeLast).toList ++
  ((Signals.named? signals.filterColumn).map Step.keepMentions).toList ++
  ((Signals.named? signals.groupColumn).map Step.countBy).toList ++
  match Signals.named? signals.aggregateColumn with
  | none => []
  | some column =>
      (if signals.averageRequested then [.average column] else []) ++
      (if signals.sumRequested then [.total column] else [])

/-- The rows after each step in turn. -/
def trace (table : Table) : Table → List Step → Except Fault (List Table)
  | _, [] => .ok []
  | rows, step :: rest => do
      let rows ← step.apply table rows
      return rows :: (← trace table rows rest)

/-- The rows that answer the operations asked for. -/
def run (table : Table) (signals : Signals) : Except Fault Table :=
  (steps signals).foldlM (fun rows step => step.apply table rows) table

end TableTalk.Cascade
