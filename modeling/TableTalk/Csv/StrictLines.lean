/-! Delimited lines of characters, with any character as the delimiter. A quoted field may hold
delimiters and line ends. Quotes are strict: after a closing quote only a delimiter or the end of
the line may follow, and a line where something else does is passed over. -/
namespace TableTalk.Csv.StrictLines

abbrev Field := List Char

inductive Mode where
  | lineStart
  | fieldStart
  | inField
  | inQuotes
  /-- After a quote inside quotes: the end of the quotes, or the first half of a double quote. -/
  | afterQuote
  /-- After a carriage return that ended a line, of which a line feed may be the second half. -/
  | afterReturn
  /-- In the rest of a refused line. -/
  | refused
  deriving DecidableEq, Repr

/-- The lines read so far. Characters, fields and lines under construction stand last one first. -/
structure Progress where
  mode : Mode
  field : Field
  fields : List Field
  lines : List (List Field)
  deriving DecidableEq, Repr

namespace Progress

def start : Progress := ⟨.lineStart, [], [], []⟩

def push (p : Progress) (mode : Mode) (c : Char) : Progress :=
  { p with mode := mode, field := c :: p.field }

def endField (p : Progress) : Progress :=
  { p with mode := .fieldStart, field := [], fields := p.field.reverse :: p.fields }

def endLine (p : Progress) (mode : Mode) : Progress :=
  let p := p.endField
  { p with mode := mode, fields := [], lines := p.fields.reverse :: p.lines }

/-- The mode after a line end, if a character is one. -/
def afterLineEnd? (c : Char) : Option Mode :=
  if c = '\n' then some .lineStart else if c = '\r' then some .afterReturn else none

/-- A character that may end a field or the line; all others go to the last argument. -/
def stepOutside (delimiter : Char) (p : Progress) (c : Char) (other : Progress) : Progress :=
  match afterLineEnd? c with
  | some mode => p.endLine mode
  | none => if c = delimiter then p.endField else other

def stepFieldStart (delimiter : Char) (p : Progress) (c : Char) : Progress :=
  if c = '"' then { p with mode := .inQuotes }
  else stepOutside delimiter p c (p.push .inField c)

def stepLineStart (delimiter : Char) (p : Progress) (c : Char) : Progress :=
  match afterLineEnd? c with
  | some mode => { p with mode := mode }
  | none => stepFieldStart delimiter p c

def step (delimiter : Char) (p : Progress) (c : Char) : Progress :=
  match p.mode with
  | .lineStart => stepLineStart delimiter p c
  | .fieldStart => stepFieldStart delimiter p c
  | .inField => stepOutside delimiter p c (p.push .inField c)
  | .inQuotes => if c = '"' then { p with mode := .afterQuote } else p.push .inQuotes c
  | .afterQuote =>
      if c = '"' then p.push .inQuotes c
      else stepOutside delimiter p c { p with mode := .refused, field := [], fields := [] }
  | .afterReturn =>
      if c = '\n' then { p with mode := .lineStart } else stepLineStart delimiter p c
  | .refused =>
      match afterLineEnd? c with
      | some mode => { p with mode := mode }
      | none => p

/-- The end of the text ends the line it is in; a quoted field that is still open is refused. -/
def finish (p : Progress) : Progress :=
  match p.mode with
  | .fieldStart | .inField | .afterQuote => p.endLine .lineStart
  | _ => p

end Progress

/-- Whether a line holds one field of white space alone. -/
def isBlankLine (isBlank : Char → Bool) : List Field → Bool
  | [field] => field.all isBlank
  | _ => false

/-- The lines of a text that are not blank. -/
def ofText (isBlank : Char → Bool) (delimiter : Char) (s : List Char) : List (List Field) :=
  ((s.foldl (Progress.step delimiter) .start).finish.lines.reverse).filter
    (fun line => !isBlankLine isBlank line)

end TableTalk.Csv.StrictLines
