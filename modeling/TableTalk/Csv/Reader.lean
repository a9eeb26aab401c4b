import TableTalk.Csv.Delimiter
import TableTalk.Csv.Header
import TableTalk.Csv.Lines
import TableTalk.Csv.StrictLines
import TableTalk.Text.Blank
import TableTalk.Text.Utf8

/-! Reading a delimited table: the delimiter is guessed, the first line names the columns, and every
cell is a text. -/
namespace TableTalk.Csv
open TableTalk.Text

/-- Why bytes are no table. -/
inductive Problem where
  | returnAsDelimiter
  | noColumns
  | unclosedQuote (line : Nat)
  | loneQuoteAfterMark
  | encoding (problem : Utf8.Problem)
  deriving DecidableEq, Repr

def Problem.message : Problem → String
  | .returnAsDelimiter =>
      "Specified '\\r' as separator or delimiter, but a line terminator cannot be used as a " ++
      "separator. To parse '\\r' as a separator, pass a lineterminator other than '\\r' " ++
      "(engine='c' only)."
  | .noColumns => "No columns to parse from file"
  | .unclosedQuote line =>
      "Error tokenizing data. C error: EOF inside string starting at row " ++ toString line
  | .loneQuoteAfterMark => "substring not found"
  | .encoding problem => problem.message

/-- How many bytes the delimiter is guessed from. -/
def sampleSize : Nat := 1024

/-- The delimiter of some bytes; a comma where none can be told. -/
def delimiterOf (bytes : Bytes) : Char :=
  match Utf8.decode (bytes.take sampleSize) with
  | .ok s => (Delimiter.guess? s).getD ','
  | .error _ => ','

def fieldText (field : Bytes) : Except Problem String :=
  match Utf8.decode field with
  | .ok s => .ok (String.ofList s)
  | .error problem => .error (.encoding problem)

/-- The text of a header field, which a byte of zero ends. -/
def headerText (field : Bytes) : Except Problem String := fieldText (field.takeWhile (· ≠ 0))

/-- The first field that is no text, by columns from the left and then by lines. -/
def firstProblem? (width : Nat) (lines : List (List Bytes)) : Option Problem :=
  (List.range width).findSome? fun j =>
    lines.findSome? fun line =>
      match fieldText (line.getD j []) with
      | .ok _ => none
      | .error problem => some problem

def fieldTexts (lines : List (List Bytes)) : Except Problem (List (List String)) :=
  match lines.mapM (fun line => line.mapM fieldText) with
  | .ok texts => .ok texts
  | .error problem => .error ((firstProblem? (lines.headD []).length lines).getD problem)

/-- The texts of a header line and of the lines under it. -/
structure Sheet where
  header : List String
  lines : List (List String)
  deriving DecidableEq, Repr

/-- The fields of each line under the names of their columns. Fields in excess of the names label
their line and are left out. -/
def Sheet.records (sheet : Sheet) : List (List (String × String)) :=
  match sheet.lines with
  | [] => []
  | lines =>
      let names := Header.names sheet.header
      lines.map fun fields => names.zip (fields.drop (fields.length - names.length))

def checkClosed (lines : Lines) : Except Problem Unit :=
  match lines.unclosedAt with
  | some line => .error (.unclosedQuote line)
  | none => .ok ()

/-- The sheet of some lines. Quotes that are never closed are noticed after the header only if the
first two lines are whole. -/
def Sheet.ofLines (lines : Lines) : Except Problem Sheet := do
  if lines.lines.length < 2 then checkClosed lines
  match lines.lines with
  | [] => .error .noColumns
  | header :: body =>
      let header ← header.mapM headerText
      checkClosed lines
      return ⟨header, ← fieldTexts body⟩

/-- The first field of a header without a mark of the byte order, and without the quotes that may
stand right after that mark. -/
def skipMarkIn : List Char → Except Problem (List Char)
  | '\ufeff' :: '"' :: rest =>
      if rest.contains '"' then
        .ok (rest.takeWhile (· != '"') ++ (rest.dropWhile (· != '"')).drop 1)
      else .error .loneQuoteAfterMark
  | '\ufeff' :: rest => .ok rest
  | field => .ok field

def skipMark : List (List Char) → Except Problem (List (List Char))
  | [] => .ok []
  | field :: rest => return (← skipMarkIn field) :: rest

/-- Lines no longer than a width, filled up to it. -/
def fitTo (width : Nat) (lines : List (List (List Char))) : List (List (List Char)) :=
  (lines.filter (fun line => decide (line.length ≤ width))).map
    (fun line => line ++ List.replicate (width - line.length) [])

/-- The lines under a header of so many names. The first of them sets the width if it exceeds the
header. It names leading fields instead if the second one has room for those and the header. -/
def fitBody (size : Nat) : List (List (List Char)) → List (List (List Char))
  | first :: second :: rest =>
      if second.length = first.length + size then fitTo second.length (second :: rest)
      else fitTo (max size first.length) (first :: second :: rest)
  | lines => fitTo (lines.foldl (fun width line => max width line.length) size) lines

/-- The sheet of a text whose delimiter is not one byte long. -/
def Sheet.ofText (delimiter : Char) (s : List Char) : Except Problem Sheet :=
  match StrictLines.ofText isBlank delimiter s with
  | [] => .error .noColumns
  | header :: body => do
      let texts := (← skipMark header).map String.ofList
      return ⟨texts, (fitBody header.length body).map (fun line => line.map String.ofList)⟩

def read (bytes : Bytes) : Except Problem Sheet :=
  let delimiter := delimiterOf bytes
  if delimiter = '\r' then .error .returnAsDelimiter
  else if delimiter.toNat < 128 then
    Sheet.ofLines (Lines.ofBytes (UInt8.ofNat delimiter.toNat) bytes)
  else match Utf8.decode bytes with
    | .ok s => Sheet.ofText delimiter s
    | .error problem => .error (.encoding problem)

end TableTalk.Csv
