import TableTalk.Dataset.Sample
import TableTalk.Export
import TableTalk.History.Clock
import TableTalk.Ingest

/-! A session: the dataset in use, the log of questions and the latest answer. Every operation
leaves a session, whether or not it fails. -/
namespace TableTalk
open TableTalk.Text

structure Session where
  dataset : Option Dataset
  history : History
  last : Option Answer
  /-- How many entries were ever recorded. -/
  recorded : Nat

namespace Session

def fresh : Session := ⟨none, .empty, none, 0⟩

/-- Takes up a dataset; an answer about the one before it is no longer the latest. -/
def load (session : Session) (dataset : Dataset) : Session :=
  { session with dataset := some dataset, last := none }

def requireDataset (session : Session) : Except Problem Dataset :=
  match session.dataset with
  | some dataset => .ok dataset
  | none => .error .noDataset

def requireLast (session : Session) : Except Problem Answer :=
  match session.last with
  | some answer => .ok answer
  | none => .error .noResult

def isBlankText (s : String) : Bool := s.toList.all isBlank

/-- What comes of something done with a session, beside the session that is left. -/
abbrev Result (α : Type) := Session × Except Problem α

def Result.map (f : α → β) (result : Result α) : Result β := (result.1, result.2.map f)

/-- Answers a question and records it, whether or not it could be answered. -/
def ask (clock : Clock) (settings : Settings) (session : Session) (question : String) :
    Result Answer :=
  match session.requireDataset with
  | .error problem => (session, .error problem)
  | .ok dataset =>
      if isBlankText question then (session, .error .blankQuestion)
      else
        let answer := Answer.ask settings dataset.rows question
        let number := session.recorded + 1
        ({ session with history := (session.history.record (clock number) question answer).1
                        last := some answer
                        recorded := number }, .ok answer)

/-- Asks the question of an entry again. -/
def rerun (clock : Clock) (settings : Settings) (session : Session) (id : String) :
    Result Answer :=
  match session.history.find? id with
  | none => (session, .error (.unknownEntry id))
  | some entry => session.ask clock settings entry.question

def clear (session : Session) : Session := { session with history := .empty }

inductive Operation where
  | load (rows : Table) (filename : String)
  | sample
  | file (filename : String) (content : List UInt8)
  | query (question : String)
  | rerun (id : String)
  | clear
  | last
  | context
  | overview
  | history
  | exportHistory
  | exportRows

/-- What an operation answers. -/
inductive Outcome where
  | done
  | answer (answer : Answer)
  | dataset (dataset : Dataset)
  | overview (overview : Overview)
  | history (history : History)
  | csv (text : Symbols)

/-- Takes up a dataset if it could be made. -/
def takeUp (session : Session) : Except Problem Dataset → Result Outcome
  | .ok dataset => (session.load dataset, .ok .done)
  | .error problem => (session, .error problem)

/-- The rows of the latest answer as text. -/
def exportRows (session : Session) : Except Problem Symbols := do
  (Export.rows (← session.requireLast).rows).mapError .fault

/-- Carries out an operation. -/
def run (clock : Clock) (settings : Settings) (session : Session) : Operation → Result Outcome
  | .load rows filename => session.takeUp (Dataset.build settings rows filename)
  | .sample => session.takeUp (Dataset.sample settings)
  | .file filename content => session.takeUp (Ingest.ofFile settings content filename)
  | .query question => (session.ask clock settings question).map .answer
  | .rerun id => (session.rerun clock settings id).map .answer
  | .clear => (session.clear, .ok .done)
  | .last => (session, session.requireLast.map .answer)
  | .context => (session, session.requireDataset.map .dataset)
  | .overview =>
      (session, session.requireDataset.map fun dataset =>
        .overview (dataset.overview Dataset.previewSize))
  | .history => (session, .ok (.history session.history))
  | .exportHistory => (session, .ok (.csv (symbols session.history.toCsv)))
  | .exportRows => (session, session.exportRows.map .csv)

/-- The session after an operation. -/
def step (clock : Clock) (settings : Settings) (session : Session) (operation : Operation) :
    Session :=
  (session.run clock settings operation).1

end Session
end TableTalk
