import TableTalk.Answer
import TableTalk.Calendar.Timestamp
import TableTalk.Csv.Writer

/-! The log of questions asked. A log is never changed: appending makes a new one. -/
namespace TableTalk
open TableTalk.Calendar

/-- The identity of an entry and when it was made. -/
structure Stamp where
  id : String
  time : Timestamp
  deriving DecidableEq, Repr

structure Entry where
  stamp : Stamp
  question : String
  query : String
  rowCount : Int
  error : Option String
  deriving DecidableEq, Repr

/-- What is kept of the answer to a question. -/
def Entry.ofAnswer (stamp : Stamp) (question : String) (answer : Answer) : Entry :=
  ⟨stamp, question, answer.query, answer.rowCount, answer.error⟩

/-- Entries in the order in which they were made. -/
structure History where
  entries : List Entry
  deriving DecidableEq, Repr

namespace History

def empty : History := ⟨[]⟩

def size (history : History) : Nat := history.entries.length

def append (history : History) (entry : Entry) : History := ⟨history.entries ++ [entry]⟩

/-- The first entry with an id. -/
def find? (history : History) (id : String) : Option Entry :=
  history.entries.find? (fun entry => entry.stamp.id = id)

def record (history : History) (stamp : Stamp) (question : String) (answer : Answer) :
    History × Entry :=
  let entry := Entry.ofAnswer stamp question answer
  (history.append entry, entry)

def header : List String := ["question", "query_synthesized", "timestamp", "result_count", "error"]

def entryFields (entry : Entry) : List String :=
  [entry.question, entry.query, entry.stamp.time.toText, Number.integerText entry.rowCount,
   entry.error.getD ""]

/-- The log as comma-separated text, one record per entry under a header. -/
def toCsv (history : History) : String := Csv.write (header :: history.entries.map entryFields)

end History
end TableTalk
