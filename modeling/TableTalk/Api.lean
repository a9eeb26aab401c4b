import TableTalk.Chart.Rendering
import TableTalk.Session

/-! The requests of the web interface, and their replies. -/
namespace TableTalk.Api
open TableTalk.Text

inductive Request where
  | root
  | examples
  /-- A file, or the reason why its content could not be received. -/
  | upload (filename : Option String) (content : Except String (List UInt8))
  | sample
  | overview
  | query (question : String) (chartType : Option String)
  | history
  | clearHistory
  | rerun (id : String)
  | exportHistory
  | exportRows

/-- The answer to a question with its first rows only, and the figure drawn of all of them. -/
structure Shown where
  question : String
  query : String
  rows : Table
  rowCount : Nat
  error : Option String
  figure : Option Figure

inductive Reply where
  | online (message : Symbols)
  | examples (questions : List String)
  | loaded (message : String) (dataset : Dataset)
  | overview (overview : Overview)
  | shown (shown : Shown)
  | history (history : History)
  | cleared (message : String)
  /-- Text to be saved under a file name. -/
  | csv (text : String) (filename : String)

/-- A request that is not carried out: refused with a status and its reason, or broken off. -/
inductive Denial where
  | refused (status : Int) (detail : String)
  | broken (fault : Fault)
  deriving DecidableEq, Repr

def Denial.ofProblem (problem : Problem) : Denial :=
  match problem, problem.kind? with
  | .fault cause, _ => .broken cause
  | _, some kind => .refused kind.status problem.message
  | _, none => .refused ProblemKind.general.status problem.message

def exampleQuestions : List String :=
  ["Show me the top 10 records by price",
   "What is the average sales by region?",
   "Count how many items are in each category",
   "Show the first 5 products",
   "Sum the total sales",
   "Group by category and count",
   "Show products with highest sales"]

def csvType : String := "text/csv; charset=utf-8"

/-- The header line that has a reply saved under a file name. -/
def disposition (filename : String) : String := "attachment; filename=\"" ++ filename ++ "\""

/-- The name of a file that has none. -/
def unnamedFile : String := "upload.csv"

def uploadName (filename : Option String) : String := (filename.filter (· ≠ "")).getD unnamedFile

/-- What is shown of an answer. An answer with an error has no figure. -/
def show? (settings : Settings) (question : String) (answer : Answer) (chartType : Option String) :
    Except Problem Shown := do
  let figure ← match answer.error with
    | none => Figure.ofRows settings answer.rows question chartType
    | some _ => pure none
  return { question
           query := answer.query
           rows := Table.takeFirst answer.rows settings.resultPreviewRows
           rowCount := answer.rowCount
           error := answer.error
           figure }

/-- A reply with the session that follows it. -/
abbrev Result := Session × Except Denial Reply

def denied (session : Session) (problem : Problem) : Result :=
  (session, .error (.ofProblem problem))

def loaded (session : Session) (message : String) : Except Problem Dataset → Result
  | .ok dataset => (session.load dataset, .ok (.loaded message dataset))
  | .error problem => denied session problem

/-- Shows an answer that the session has recorded already. -/
def answered (settings : Settings) (session : Session) (question : String)
    (chartType : Option String) (answer : Answer) : Result :=
  match show? settings question answer chartType with
  | .ok shown => (session, .ok (.shown shown))
  | .error problem => denied session problem

/-- The question of the latest entry. -/
def latestQuestion (history : History) : String :=
  match history.entries.getLast? with
  | some entry => entry.question
  | none => ""

def query (clock : Clock) (settings : Settings) (session : Session) (question : String)
    (chartType : Option String) : Result :=
  match chartType.mapM ChartType.ofName with
  | .error problem => denied session problem
  | .ok _ =>
      match session.ask clock settings question with
      | (next, .error problem) => denied next problem
      | (next, .ok answer) => answered settings next question chartType answer

def rerun (clock : Clock) (settings : Settings) (session : Session) (id : String) : Result :=
  match session.rerun clock settings id with
  | (next, .error problem) => denied next problem
  | (next, .ok answer) => answered settings next (latestQuestion next.history) none answer

/-- The text of a reply, if it can be encoded. -/
def encodable (text : Symbols) : Except Fault String :=
  match firstHalves? text with
  | none => .ok (shown text)
  | some (unit, place, count) => .error (.unencodable unit place count)

/-- The rows of the latest answer; one that has an error is refused. -/
def exportRows (session : Session) : Except Denial Reply := do
  let answer ← session.requireLast.mapError .ofProblem
  match answer.error with
  | some detail => .error (.refused 400 detail)
  | none =>
      let text ← (Export.rows answer.rows).mapError .broken
      return .csv (← (encodable text).mapError .broken) "query_results.csv"

/-- Carries out a request. -/
def handle (clock : Clock) (settings : Settings) (session : Session) : Request → Result
  | .root => (session, .ok (.online (settings.appName ++ symbols " API is running")))
  | .examples => (session, .ok (.examples exampleQuestions))
  | .upload _ (.error reason) => (session, .error (.refused 500 reason))
  | .upload filename (.ok content) =>
      loaded session "File uploaded and processed successfully."
        (Ingest.ofFile settings content (uploadName filename))
  | .sample => loaded session "Sample dataset loaded." (Dataset.sample settings)
  | .overview =>
      match session.requireDataset with
      | .ok dataset => (session, .ok (.overview (dataset.overview Dataset.previewSize)))
      | .error problem => denied session problem
  | .query question chartType => query clock settings session question chartType
  | .history => (session, .ok (.history session.history))
  | .clearHistory => (session.clear, .ok (.cleared "History cleared."))
  | .rerun id => rerun clock settings session id
  | .exportHistory => (session, .ok (.csv session.history.toCsv "query_history.csv"))
  | .exportRows => (session, exportRows session)

end TableTalk.Api
