import TableTalk.Cascade
import TableTalk.Question.Matching

/-! Answering a question about a table. An answer always comes about: whatever goes wrong is
reported in it, and then it has neither rows nor a query. -/
namespace TableTalk

structure Answer where
  rows : Table
  query : String
  error : Option String

/-- What is offered as a row of a table. -/
inductive Item where
  | row (row : Row)
  | other (cell : Cell)

/-- What is offered as a question: a text, or something else of a kind. -/
inductive Prompt where
  | text (question : String)
  | other (kind : String)

/-- Why a question has no answer. -/
inductive Failure where
  | notARow (index : Nat) (kind : String)
  | fault (fault : Fault)
  deriving DecidableEq, Repr

def Failure.message : Failure → String
  | .notARow index kind =>
      "Row " ++ Number.naturalText index ++ " is a " ++ kind ++ ", expected a column mapping."
  | .fault cause => cause.message

namespace Answer
open TableTalk.Number

def rowCount (answer : Answer) : Nat := answer.rows.length

def failed (failure : Failure) : Answer := ⟨[], "", some failure.message⟩

/-- The rows of items that stand at the given index and after it. -/
def rowsFrom (index : Nat) : List Item → Except Failure Table
  | [] => .ok []
  | .row row :: rest => return row :: (← rowsFrom (index + 1) rest)
  | .other cell :: _ => .error (.notARow index cell.kindName)

/-- A list is refused in four ways, as no truth value, integer, float or text. -/
def refusalsPerCell : Nat := 4

/-- Rows may hold legal cells only. -/
def checkCells (record : String) (table : Table) : Except Fault Unit :=
  let refusals := refusalsPerCell * table.illegalCells
  if refusals = 0 then .ok () else .error (.invalidValues record refusals)

/-- The text of a question. -/
def questionText : Prompt → Except Fault String
  | .text question => .ok question
  | .other kind => .error (.questionNotText kind)

/-- The rows and the query that answer a question. -/
def ofTable (settings : Settings) (table : Table) (question : Prompt) :
    Except Fault (Table × String) := do
  let signals ← Question.signals settings table (← questionText question).toList
  let rows ← Cascade.run table signals
  let query ← signals.query
  checkCells "QueryResult" rows
  return (rows, query)

def ofItems (settings : Settings) (items : List Item) (question : Prompt) :
    Except Failure (Table × String) := do
  let table ← rowsFrom 0 items
  (ofTable settings table question).mapError .fault

/-- The answer to a question about a list of items. -/
def execute (settings : Settings) (items : List Item) (question : Prompt) : Answer :=
  match ofItems settings items question with
  | .ok (rows, query) => ⟨rows, query, none⟩
  | .error failure => failed failure

/-- The answer where there may be no list of items at all. -/
def executeOn (settings : Settings) : Option (List Item) → Prompt → Answer
  | some items, question => execute settings items question
  | none, _ => failed (.fault (.notRows Cell.null.kindName))

/-- The answer to a question about a table. -/
def ask (settings : Settings) (table : Table) (question : String) : Answer :=
  execute settings (table.map Item.row) (.text question)

end Answer
end TableTalk
