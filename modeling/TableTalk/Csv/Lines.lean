/-! Delimited lines of bytes. Fields stand between delimiters, a quoted field may hold delimiters
and line ends, blank lines are passed over. Lines end with a line feed, a carriage return or both.
Every line has at least as many fields as the one before it, and from the third line on no more. -/
namespace TableTalk.Csv

abbrev Bytes := List UInt8

def lineFeed : UInt8 := 10

def carriageReturn : UInt8 := 13

def quoteByte : UInt8 := 34

inductive Mode where
  | lineStart
  | fieldStart
  | inField
  | inQuotes
  /-- After a quote inside quotes: the end of the quotes, or the first half of a double quote. -/
  | afterQuote
  /-- After a carriage return that ended the last field of a line. -/
  | afterReturn
  /-- After a carriage return that ended a blank line. -/
  | afterBlankReturn
  /-- In blanks at the start of a line. -/
  | inBlanks
  deriving DecidableEq, Repr

/-- The lines read so far. Fields, lines and bytes under construction stand last one first. -/
structure Progress where
  mode : Mode
  field : Bytes
  fields : List Bytes
  lines : List (List Bytes)
  count : Nat
  /-- The number of fields of the last line. -/
  width : Nat
  /-- Whether a delimiter was passed over at the start of the line. -/
  passed : Bool
  /-- How many lines were met, blank and refused ones included. -/
  met : Nat

namespace Progress

def start : Progress := ⟨.lineStart, [], [], [], 0, 0, false, 0⟩

def push (p : Progress) (byte : UInt8) : Progress :=
  { p with mode := .inField, field := byte :: p.field }

def endField (p : Progress) : Progress :=
  { p with mode := .fieldStart, field := [], fields := p.field.reverse :: p.fields }

/-- Ends a line: one with too many fields is refused, one with too few is filled up. The first
line is a header, which the second one may exceed. -/
def endLine (p : Progress) : Progress :=
  let size := p.fields.length
  let next := { p with mode := .lineStart, fields := [], passed := false, met := p.met + 1 }
  if 2 ≤ p.count ∧ p.width < size then next
  else
    let missing := if p.count = 0 then 0 else p.width - size
    { next with lines := (List.replicate missing [] ++ p.fields).reverse :: p.lines
                count := p.count + 1
                width := size + missing }

end Progress

def isBlankByte (delimiter byte : UInt8) : Bool := (byte == 32 || byte == 9) && byte != delimiter

namespace Progress

/-- A byte of a field that is not quoted. -/
def stepInField (delimiter : UInt8) (p : Progress) (byte : UInt8) : Progress :=
  if byte = lineFeed then p.endField.endLine
  else if byte = carriageReturn then { p.endField with mode := .afterReturn }
  else if byte = delimiter then p.endField
  else p.push byte

def stepFieldStart (delimiter : UInt8) (p : Progress) (byte : UInt8) : Progress :=
  if byte = quoteByte then { p with mode := .inQuotes } else stepInField delimiter p byte

/-- The end of a blank line, which is passed over. -/
def endBlank (p : Progress) (mode : Mode) : Progress :=
  { p with mode := mode, field := [], passed := false, met := p.met + 1 }

def stepLineStart (delimiter : UInt8) (p : Progress) (byte : UInt8) : Progress :=
  if byte = lineFeed then p.endBlank .lineStart
  else if byte = carriageReturn then p.endBlank .afterBlankReturn
  else if isBlankByte delimiter byte then { p with mode := .inBlanks, field := [byte] }
  else stepFieldStart delimiter p byte

/-- After a blank line that a carriage return ended, a delimiter is passed over. -/
def stepAfterBlankReturn (delimiter : UInt8) (p : Progress) (byte : UInt8) : Progress :=
  if byte = lineFeed then { p with mode := .lineStart }
  else if byte = delimiter then { p with mode := .lineStart, passed := true }
  else stepLineStart delimiter p byte

/-- Blanks at the start of a line are passed over when nothing follows them. Otherwise they belong
to its first fields, and so does a delimiter that was passed over before them. -/
def stepInBlanks (delimiter : UInt8) (p : Progress) (byte : UInt8) : Progress :=
  if byte = lineFeed then p.endBlank .lineStart
  else if byte = carriageReturn then p.endBlank .afterBlankReturn
  else if isBlankByte delimiter byte then { p with field := byte :: p.field }
  else
    let fields := if p.passed then [] :: p.fields else p.fields
    stepInField delimiter { p with fields := fields, passed := false } byte

def step (delimiter : UInt8) (p : Progress) (byte : UInt8) : Progress :=
  match p.mode with
  | .lineStart => stepLineStart delimiter p byte
  | .fieldStart => stepFieldStart delimiter p byte
  | .inField => stepInField delimiter p byte
  | .inQuotes =>
      if byte = quoteByte then { p with mode := .afterQuote }
      else { p with field := byte :: p.field }
  | .afterQuote =>
      if byte = quoteByte then { p with mode := .inQuotes, field := byte :: p.field }
      else stepInField delimiter p byte
  | .afterReturn =>
      if byte = lineFeed then p.endLine
      else if byte = delimiter then p.endLine.endField
      else stepLineStart delimiter p.endLine byte
  | .afterBlankReturn => stepAfterBlankReturn delimiter p byte
  | .inBlanks => stepInBlanks delimiter p byte

/-- The end of the bytes ends the line they are in. -/
def finish (p : Progress) : Progress :=
  match p.mode with
  | .inField | .fieldStart | .afterQuote => p.endField.endLine
  | .afterReturn => p.endLine
  | _ => p

end Progress

/-- The lines of some bytes, and where the bytes end inside quotes the number of the line in which
they do. -/
structure Lines where
  lines : List (List Bytes)
  unclosedAt : Option Nat
  deriving DecidableEq, Repr

/-- A mark of the byte order at the start says nothing. -/
def skipByteOrderMark : Bytes → Bytes
  | 0xEF :: 0xBB :: 0xBF :: rest => rest
  | bytes => bytes

def Lines.ofBytes (delimiter : UInt8) (bytes : Bytes) : Lines :=
  let p := ((skipByteOrderMark bytes).foldl (Progress.step delimiter) .start).finish
  ⟨p.lines.reverse, if p.mode = .inQuotes then some p.met else none⟩

end TableTalk.Csv
