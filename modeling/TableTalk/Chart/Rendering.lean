import TableTalk.Chart.Figure
import TableTalk.Json.Value

/-! Figures in JSON, with their colours and layout. -/
namespace TableTalk.Figure
open TableTalk.Json TableTalk.Text TableTalk.Number

def colors : List String :=
  ["rgba(54, 162, 235, 0.8)", "rgba(255, 99, 132, 0.8)", "rgba(255, 205, 86, 0.8)",
   "rgba(75, 192, 192, 0.8)", "rgba(153, 102, 255, 0.8)", "rgba(255, 159, 64, 0.8)"]

def background : String := "rgba(0,0,0,0)"

def textValue (s : String) : Value := .string (symbols s)

def record (members : List (String × Value)) : Value :=
  .object (members.map (fun entry => (symbols entry.1, entry.2)))

def texts (items : List Symbols) : Value := .array (items.map Value.string)

/-- A float as a value; one that is not finite has none. -/
def floatValue (x : Float) : Value := if isFinite x then .float x else .null

def numberValue : Number → Value
  | .int n => .int n
  | .float x => floatValue x

def numbers (items : List Number) : Value := .array (items.map numberValue)

def barTrace (labels : List Symbols) (series : Series) (color : String) : Value :=
  record [("marker", record [("color", textValue color)]), ("name", textValue series.name),
    ("x", texts labels), ("y", numbers series.values), ("type", textValue "bar")]

def lineTrace (labels : List Symbols) (series : Series) (color : String) : Value :=
  record [("line", record [("color", textValue color), ("shape", textValue "spline")]),
    ("mode", textValue "lines+markers"), ("name", textValue series.name), ("x", texts labels),
    ("y", numbers series.values), ("type", textValue "scatter")]

def pieTrace (labels : List Symbols) (values : List Number) : Value :=
  record [("labels", texts labels), ("marker", record [("colors", texts (colors.map symbols))]),
    ("values", numbers values), ("type", textValue "pie")]

def radarTrace (axes : List String) (averages : List Float) : Value :=
  record [("fill", textValue "toself"),
    ("line", record [("color", textValue (colors.headD ""))]), ("name", textValue "Values"),
    ("r", .array (averages.map floatValue)), ("theta", texts (axes.map symbols)),
    ("type", textValue "scatterpolar")]

def traces : Plot → List Value
  | .bars labels series => series.zipWith (barTrace labels) colors
  | .lines labels series => series.zipWith (lineTrace labels) colors
  | .pie labels values => [pieTrace labels values]
  | .radar axes averages => [radarTrace axes averages]

/-- Bars and lines have axes, which begin at zero. -/
def hasAxes : Plot → Bool
  | .bars _ _ | .lines _ _ => true
  | _ => false

def layout (figure : Figure) : Value :=
  record ([("paper_bgcolor", textValue background), ("plot_bgcolor", textValue background),
    ("font", record [("size", .int 13)]),
    ("margin", record [("l", .int 60), ("r", .int 40), ("t", .int 70), ("b", .int 80)]),
    ("title", record [("text", textValue figure.title), ("font", record [("size", .int 18)])])] ++
    if hasAxes figure.plot then [("yaxis", record [("rangemode", textValue "tozero")])] else [])

def toJson (figure : Figure) : Value :=
  record [("data", .array (traces figure.plot)), ("layout", layout figure)]

end TableTalk.Figure
