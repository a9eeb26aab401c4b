import TableTalk.Text.Symbol

/-! Values of the JSON format. -/
namespace TableTalk.Json
open TableTalk.Text

inductive Value where
  | null
  | bool (b : Bool)
  | int (n : Int)
  | float (x : Float)
  | string (text : Symbols)
  | array (items : List Value)
  /-- Members in the order in which their names first came. -/
  | object (members : List (Symbols × Value))
  deriving Inhabited

/-- Members with one more: a name that is there already gets the new value. -/
def setMember (members : List (Symbols × Value)) (name : Symbols) (value : Value) :
    List (Symbols × Value) :=
  match members with
  | [] => [(name, value)]
  | (other, old) :: rest =>
      if other = name then (other, value) :: rest else (other, old) :: setMember rest name value

end TableTalk.Json
