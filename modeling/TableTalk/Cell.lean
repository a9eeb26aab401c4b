import TableTalk.Number.Numeral
import TableTalk.Number.Shortest
import TableTalk.Text.Printable

/-! Cells of a table: what they hold, which of them are empty, the number they denote and the
text they show. -/
namespace TableTalk
open TableTalk.Text TableTalk.Number

/-- A scalar. A text with a lone half is told apart from those of Unicode characters. A list is no
legal cell, but rows that come from outside may hold one. -/
inductive Cell where
  | null
  | bool (b : Bool)
  | int (n : Int)
  | float (x : Float)
  | text (s : String)
  | broken (text : BrokenText)
  | list (items : List Cell)
  deriving Inhabited

namespace Cell

def isLegal : Cell → Bool
  | .list _ => false
  | _ => true

/-- The word for what a cell holds. -/
def kindName : Cell → String
  | .null => "NoneType"
  | .bool _ => "bool"
  | .int _ => "int"
  | .float _ => "float"
  | .text _ | .broken _ => "str"
  | .list _ => "list"

/-- Nothing, no characters, or not a number. -/
def isEmpty : Cell → Bool
  | .null => true
  | .text s => s.isEmpty
  | .float x => isNaN x
  | _ => false

/-- The cell of a text. -/
def ofSymbols (symbols : Symbols) : Cell :=
  if h : isWhole symbols then .text (shown symbols) else .broken ⟨symbols, by simpa using h⟩

/-- The finite number that a cell denotes: its value, one or zero for a truth value, the value
of a numeral, which has no lone halves. -/
def toNumber? : Cell → Except Fault (Option Number)
  | .bool b => .ok (some (.int (if b then 1 else 0)))
  | .int n => .ok (some (.int n))
  | .float x => .ok (if isFinite x then some (.float x) else none)
  | .text s => Number.ofText? s.toList
  | _ => .ok none

/-- What a cell adds to a total; all but numbers add nothing. -/
def toNumberOrZero (cell : Cell) : Except Fault Number :=
  return (← cell.toNumber?).getD (.int 0)

mutual

/-- The form of a cell inside a displayed list. -/
def itemText : Cell → Except Fault String
  | .null => .ok "None"
  | .bool b => .ok (if b then "True" else "False")
  | .int n => writeInteger n
  | .float x => .ok (floatText x)
  | .text s => .ok (String.ofList (quoted (symbols s)))
  | .broken s => .ok (String.ofList (quoted s.symbols))
  | .list items => return "[" ++ (← itemTexts items) ++ "]"

def itemTexts : List Cell → Except Fault String
  | [] => .ok ""
  | [item] => itemText item
  | item :: next :: rest => return (← itemText item) ++ ", " ++ (← itemTexts (next :: rest))

end

/-- The plain text of a cell, as column names are made from. -/
def plainText : Cell → Except Fault Symbols
  | .text s => .ok (symbols s)
  | .broken s => .ok s.symbols
  | cell => return symbols (← cell.itemText)

/-- The text by which cells are shown, searched and grouped: whole numbers show no point, so
equal numbers show alike. -/
def renderText : Cell → Except Fault Symbols
  | .null => .ok (symbols "null")
  | .bool b => .ok (symbols (if b then "true" else "false"))
  | .float x =>
      if isNaN x then .ok (symbols "null")
      else match (Binary.ofFloat x).toInteger? with
        | some n => return symbols (← writeInteger n)
        | none => .ok (symbols (floatText x))
  | cell => cell.plainText

end Cell

def Number.toCell : Number → Cell
  | .int n => .int n
  | .float x => .float x

end TableTalk
