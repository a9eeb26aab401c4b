import TableTalk.Classification
import TableTalk.Question.Signals
import TableTalk.Text.LowerCase
import TableTalk.Text.Search

/-! Finding the operations that a question asks for. Each phrase is looked for on its own, so that
one question can ask for several operations. -/
namespace TableTalk.Question
open TableTalk.Text TableTalk.Number

/-- A question in the form in which phrases are looked for. -/
def normalize (question : List Char) : List Char := trim (lower question)

def headWords : List (List Char) := [['t', 'o', 'p'], ['f', 'i', 'r', 's', 't']]

def tailWords : List (List Char) := [['l', 'a', 's', 't']]

def filterWords : List (List Char) := ["where".toList, "filter".toList]

def groupWords : List (List Char) := ["group by".toList, "count".toList]

def averageWords : List (List Char) := ["average".toList, "avg".toList]

def sumWords : List (List Char) := ["sum".toList, "total".toList]

def mentions (words : List (List Char)) (s : List Char) : Bool :=
  words.any (fun word => occursIn word s)

/-- What follows a word at the start of a text. -/
def afterWord? (word s : List Char) : Option (List Char) :=
  if word.isPrefixOf s then some (s.drop word.length) else none

/-- The digits that follow a word at the start of a text, with white space between them. -/
def countHere? (words : List (List Char)) (s : List Char) : Option (List Nat) :=
  (words.findSome? (fun word => afterWord? word s)).bind fun rest =>
    if startsBlank rest then
      match (spanDigits (trimStart rest)).1 with
      | [] => none
      | digits => some digits
    else none

/-- The digits after the first of the words that has any. -/
def countDigits? (words : List (List Char)) : List Char → Option (List Nat)
  | [] => none
  | c :: rest => (countHere? words (c :: rest)).or (countDigits? words rest)

/-- The count that a question gives after one of the words, or the default when it gives none;
nothing unless it has one of the words. -/
def limit (words : List (List Char)) (fallback : Int) (s : List Char) :
    Except Fault (Option Int) :=
  if mentions words s then
    match countDigits? words s with
    | some digits => return some (← readInteger false digits)
    | none => return some fallback
  else return none

/-- The first column of the schema whose name stands in the text. -/
def mentionedColumn? (s : List Char) (columns : List String) : Option String :=
  columns.find? (fun column => occursIn column.toList s)

/-- The operations that a question asks for of a table. Aggregates need a numeric column. -/
def signals (settings : Settings) (table : Table) (question : List Char) :
    Except Fault Signals := do
  let s := normalize question
  let mentioned := mentionedColumn? s table.columns
  let average := mentions averageWords s
  let sum := mentions sumWords s
  let aggregateColumn ←
    if average || sum then
      pure (← Classification.classify (.ofSettings settings none none) table).firstNumeric
    else pure none
  let limitHead ← limit headWords settings.defaultLimit s
  let limitTail ← limit tailWords settings.defaultLimit s
  return { limitHead, limitTail, aggregateColumn
           filterColumn := if mentions filterWords s then mentioned else none
           groupRequested := mentions groupWords s
           groupColumn := if mentions groupWords s then mentioned else none
           averageRequested := average
           sumRequested := sum }

end TableTalk.Question
