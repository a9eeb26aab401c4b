import TableTalk.Csv.Reader
import TableTalk.Json.Reader

/-! What can go wrong with a request, and how it is reported. -/
namespace TableTalk

/-- Why the content of a file cannot be read. -/
inductive Unreadable where
  | encoding (problem : Text.Utf8.Problem)
  | csv (problem : Csv.Problem)
  /-- A JSON text with the problem met in it. -/
  | json (problem : Json.Problem) (text : List Char)
  | fault (fault : Fault)
  deriving DecidableEq, Repr

def Unreadable.message : Unreadable → String
  | .encoding problem => problem.message
  | .csv problem => problem.message
  | .json problem text => problem.message text
  | .fault cause => cause.message

inductive Problem where
  | fileTooLarge (limit : Int)
  | unreadableFile (filename : String) (reason : Unreadable)
  | noData
  | noRecords
  | itemNotRecord
  | noDataset
  | blankQuestion
  | noResult
  | unknownEntry (id : String)
  | unknownChart (name : String)
  /-- A fault outside the program's own rules. -/
  | fault (fault : Fault)
  deriving DecidableEq, Repr

/-- The kinds of reported problems. -/
inductive ProblemKind where
  | general
  | file
  | query
  | question
  | noDataset
  | unknownEntry
  | chart
  deriving DecidableEq, Repr

def ProblemKind.status : ProblemKind → Int
  | .general | .query => 500
  | .file | .question | .noDataset | .chart => 400
  | .unknownEntry => 404

/-- What is said of a problem that is not described. -/
def ProblemKind.standardMessage : ProblemKind → String
  | .general => ""
  | .file => "Failed to process the uploaded file."
  | .query => "Failed to execute the query."
  | .question => "The query is invalid or incomplete."
  | .noDataset => "No dataset loaded. Please upload a file first."
  | .unknownEntry => ""
  | .chart => "Failed to generate visualization."

def unknownEntryMessage (id : String) : String := "No history entry with id '" ++ id ++ "'."

def chartTypes : List String := ["table", "bar", "line", "pie", "radar"]

namespace Problem

def message : Problem → String
  | .fileTooLarge limit => "File exceeds " ++ Number.integerText limit ++ "MB limit."
  | .unreadableFile filename reason => "Failed to parse " ++ filename ++ ": " ++ reason.message
  | .noData => "The uploaded file contains no data."
  | .noRecords => "Invalid JSON format: expected an object or an array of objects."
  | .itemNotRecord => "Invalid JSON format: every array item must be an object."
  | .noDataset => ProblemKind.noDataset.standardMessage
  | .blankQuestion => "Question text is required."
  | .noResult => "No query result yet. Ask a question first."
  | .unknownEntry id => unknownEntryMessage id
  | .unknownChart name =>
      "Unsupported chart type '" ++ name ++ "'. Choose one of: " ++
      String.intercalate ", " chartTypes ++ "."
  | .fault cause => cause.message

/-- The kind under which a problem is reported; a fault has none. -/
def kind? : Problem → Option ProblemKind
  | .fileTooLarge _ | .unreadableFile _ _ | .noData | .noRecords | .itemNotRecord => some .file
  | .noDataset => some .noDataset
  | .blankQuestion | .noResult => some .question
  | .unknownEntry _ => some .unknownEntry
  | .unknownChart _ => some .chart
  | .fault _ => none

end Problem

/-- A problem as it is reported. -/
structure Report where
  message : String
  status : Int
  deriving DecidableEq, Repr

/-- The report of a kind of problem with the text and status given for it. Only general problems
have a status of their own, and the text for an unknown entry is its id. -/
def Report.ofKind (kind : ProblemKind) (text : Option String) (status : Option Int) : Report :=
  match kind with
  | .general => ⟨text.getD "", status.getD kind.status⟩
  | .unknownEntry => ⟨unknownEntryMessage (text.getD ""), kind.status⟩
  | _ => ⟨text.getD kind.standardMessage, kind.status⟩

end TableTalk
