import TableTalk.ColumnName
import TableTalk.Dataset
import TableTalk.Json.Writer

/-! Datasets from files. Files whose name ends in .json hold an object or an array of objects; all
others are delimited tables. -/
namespace TableTalk.Ingest
open TableTalk.Text

/-- Rows under clean column names; of cells whose names become equal the last one stays. -/
def cleanRow (cells : List (String × Cell)) : Row :=
  Row.ofCells (cells.map (fun entry => (ColumnName.normalize entry.1, entry.2)))

/-- A value as a cell. Arrays and objects are kept as their text. -/
def cellOfValue : Json.Value → Cell
  | .null => .null
  | .bool b => .bool b
  | .int n => .int n
  | .float x => .float x
  | .string text => .ofSymbols text
  | value => .text (String.ofList (Json.write value))

/-- Members as cells. A lone half in a name shows as a character that clean names do not have
either. -/
def cellsOfMembers (members : List (Symbols × Json.Value)) : List (String × Cell) :=
  members.map (fun entry => (shown entry.1, cellOfValue entry.2))

def recordOfValue : Json.Value → Except Problem (List (String × Cell))
  | .object members => .ok (cellsOfMembers members)
  | _ => .error .itemNotRecord

/-- The records of a value: those of an array, or an object as the only one. -/
def recordsOfValue : Json.Value → Except Problem (List (List (String × Cell)))
  | .object members => .ok [cellsOfMembers members]
  | .array items => items.mapM recordOfValue
  | _ => .error .noRecords

def jsonRecords (filename : String) (bytes : List UInt8) :
    Except Problem (List (List (String × Cell))) := do
  let text ← (Utf8.decode bytes).mapError
    (fun problem => .unreadableFile filename (.encoding problem))
  let value ← (Json.read text).mapError
    (fun problem => .unreadableFile filename (.json problem text))
  recordsOfValue value

def csvRecords (filename : String) (bytes : List UInt8) :
    Except Problem (List (List (String × Cell))) := do
  let sheet ← (Csv.read bytes).mapError (fun problem => .unreadableFile filename (.csv problem))
  return sheet.records.map (fun cells => cells.map (fun entry => (entry.1, .text entry.2)))

def isJsonName (filename : String) : Bool :=
  ".json".toList.reverse.isPrefixOf (lower filename.toList).reverse

def records (filename : String) (bytes : List UInt8) :
    Except Problem (List (List (String × Cell))) :=
  if isJsonName filename then jsonRecords filename bytes else csvRecords filename bytes

/-- Faults in the content of a file make it unreadable. -/
def inFile (filename : String) : Problem → Problem
  | .fault cause => .unreadableFile filename (.fault cause)
  | problem => problem

/-- Whether a file is larger than the limit, in units of 1048576 bytes. -/
def isTooLarge (settings : Settings) (bytes : List UInt8) : Bool :=
  decide (settings.maxUploadSize * 1048576 < bytes.length)

/-- The dataset of a file. -/
def ofFile (settings : Settings) (bytes : List UInt8) (filename : String) :
    Except Problem Dataset := do
  if isTooLarge settings bytes then .error (.fileTooLarge settings.maxUploadSize)
  let records ← records filename bytes
  (Dataset.build settings (records.map cleanRow) filename).mapError (inFile filename)

end TableTalk.Ingest
