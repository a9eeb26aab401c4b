import TableTalk.Chart
import TableTalk.Settings

/-! Drawing the rows of an answer. -/
namespace TableTalk
open TableTalk.Text TableTalk.Number

structure Series where
  name : String
  values : List Number

inductive Plot where
  | bars (labels : List Symbols) (series : List Series)
  | lines (labels : List Symbols) (series : List Series)
  | pie (labels : List Symbols) (values : List Number)
  /-- The average of each column. -/
  | radar (axes : List String) (averages : List Float)

structure Figure where
  title : String
  plot : Plot

namespace Figure

/-- How many rows decide whether a column is drawn. -/
def scannedRows : Nat := 10

def maxSeries : Nat := 3

def maxSlices : Nat := 10

def maxAxes : Nat := 6

/-- The question at the head of a figure, of which at most fifty characters are shown. -/
def titleOf (question : String) : String :=
  let shown := question.toList
  "Data Visualization - " ++ String.ofList (shown.take 50) ++
    (if 50 < shown.length then "..." else "")

/-- The columns that are drawn. -/
def drawnColumns (rows : Table) : Except Fault (List String) :=
  ChartType.numericColumns rows.columns (rows.take scannedRows)

/-- The first column that is not drawn, or else the first one. -/
def labelColumn? (columns drawn : List String) : Option String :=
  (columns.find? (fun column => !drawn.contains column)).or columns.head?

/-- The label of the row at an index; a row without one is numbered. -/
def label (column : String) (index : Nat) (row : Row) : Except Fault Symbols :=
  let cell := row.get column
  if cell.isEmpty then .ok (symbols ("Row " ++ naturalText (index + 1))) else cell.renderText

def labels (column : String) (rows : Table) : Except Fault (List Symbols) :=
  rows.zipIdx.mapM (fun entry => label column entry.2 entry.1)

def columnValues (column : String) (rows : Table) : Except Fault (List Number) :=
  rows.mapM (fun row => (row.get column).toNumberOrZero)

/-- Labels and series of the first rows, as many as the settings allow. No row means no labels. -/
def series? (settings : Settings) (rows : Table) :
    Except Fault (Option (List Symbols × List Series)) := do
  let drawn ← drawnColumns rows
  let shown := Table.takeFirst rows settings.chartMaxPoints
  match labelColumn? (Table.columns shown) drawn with
  | none => return none
  | some column =>
      if drawn.isEmpty then return none
      let labels ← labels column shown
      let series ← (drawn.take maxSeries).mapM fun column =>
        return ⟨column, ← columnValues column shown⟩
      return some (labels, series)

def pie? (rows : Table) : Except Fault (Option Plot) := do
  let drawn ← drawnColumns rows
  let shown := rows.take maxSlices
  match drawn.head?.or (rows.columns.drop 1).head?, labelColumn? rows.columns drawn with
  | some valueColumn, some column =>
      let labels ← labels column shown
      return some (.pie labels (← columnValues valueColumn shown))
  | _, _ => return none

def average (column : String) (rows : Table) : Except Fault Float := do
  share (← sum (← columnValues column rows)) rows.length

def radar? (rows : Table) : Except Fault (Option Plot) := do
  let axes := (← drawnColumns rows).take maxAxes
  if axes.isEmpty then return none
  return some (.radar axes (← axes.mapM (fun column => average column rows)))

/-- Whether the integers of a figure can be written. -/
def checkNumbers (numbers : List Number) : Except Fault Unit :=
  numbers.forM fun number => match number with
    | .int n => do let _ ← writeInteger n
    | .float _ => .ok ()

def Plot.numbers : Plot → List Number
  | .bars _ series | .lines _ series => series.flatMap Series.values
  | .pie _ values => values
  | .radar _ _ => []

/-- The plot of some rows in a chart of the given type; none for a table, or if nothing can be
drawn. -/
def plot? (settings : Settings) (rows : Table) : ChartType → Except Fault (Option Plot)
  | .table => .ok none
  | .bar => return (← series? settings rows).map (fun (labels, series) => .bars labels series)
  | .line => return (← series? settings rows).map (fun (labels, series) => .lines labels series)
  | .pie => pie? rows
  | .radar => radar? rows

/-- The figure of some rows; none where drawing them fails. -/
def draw (settings : Settings) (rows : Table) (question : String) (type : ChartType) :
    Option Figure :=
  match plot? settings rows type with
  | .ok (some plot) =>
      match checkNumbers (Plot.numbers plot) with
      | .ok () => some ⟨titleOf question, plot⟩
      | .error _ => none
  | _ => none

/-- The figure that goes with an answer, in a chart of the named type or else of one chosen for
it. -/
def ofRows (settings : Settings) (rows : Table) (question : String) (typeName : Option String) :
    Except Problem (Option Figure) := do
  let given ← typeName.mapM ChartType.ofName
  if rows.isEmpty then return none
  match given with
  | some type => return draw settings rows question type
  | none => return draw settings rows question (← (ChartType.choose rows question).mapError .fault)

end Figure
end TableTalk
