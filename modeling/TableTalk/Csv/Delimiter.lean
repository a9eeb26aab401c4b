import TableTalk.Tally
import TableTalk.Text.Word

/-! Guessing the delimiter of a table from some of its text: the mark between quoted fields if
there are any, else a character that occurs equally often in most lines. -/
namespace TableTalk.Csv.Delimiter
open TableTalk.Text

/-- A character that may stand between quoted fields. -/
def isMark (c : Char) : Bool := !isWord c && c != '\n' && c != '"' && c != '\''

def isQuote (c : Char) : Bool := c == '"' || c == '\''

def dropSpace : List Char → List Char
  | ' ' :: rest => rest
  | s => s

/-- The first place after a quote where the given end follows, and what the end gives. -/
def closeQuote (quote : Char) (end? : List Char → Option α) : List Char → Option α
  | [] => none
  | c :: rest =>
      if c = quote then (end? rest).or (closeQuote quote end? rest) else closeQuote quote end? rest

/-- A mark, perhaps a space, and an opening quote: the mark, the quote and the text after it. -/
def openMarked? : List Char → Option (Char × Char × List Char)
  | mark :: rest =>
      match dropSpace rest with
      | quote :: body => if isMark mark && isQuote quote then some (mark, quote, body) else none
      | [] => none
  | [] => none

/-- A quoted field between two equal marks. Every pattern gives its mark and the text after it;
its first argument says whether the text stands at the start of a line. -/
def betweenMarks? (_ : Bool) (s : List Char) : Option (Char × List Char) := do
  let (mark, quote, body) ← openMarked? s
  closeQuote quote (fun rest => match rest with
    | c :: rest => if c = mark then some (mark, rest) else none
    | [] => none) body

/-- A quoted field that begins a line, with a mark after it. -/
def beforeMark? (atLineStart : Bool) (s : List Char) : Option (Char × List Char) :=
  let fromQuote? : List Char → Option (Char × List Char)
    | quote :: body =>
        if isQuote quote then
          closeQuote quote (fun rest => match rest with
            | mark :: rest => if isMark mark then some (mark, dropSpace rest) else none
            | [] => none) body
        else none
    | [] => none
  match s with
  | '\n' :: rest => fromQuote? rest
  | s => if atLineStart then fromQuote? s else none

/-- A quoted field that ends a line, with a mark before it. -/
def afterMark? (_ : Bool) (s : List Char) : Option (Char × List Char) := do
  let (mark, quote, body) ← openMarked? s
  closeQuote quote (fun rest => match rest with
    | c :: _ => if c = '\n' then some (mark, rest) else none
    | [] => some (mark, [])) body

/-- The marks of all matches of a pattern, one after the other from the left. -/
def findMarks (match? : Bool → List Char → Option (Char × List Char)) :
    Nat → Bool → List Char → List Char
  | 0, _, _ => []
  | _, _, [] => []
  | fuel + 1, atLineStart, c :: rest =>
      match match? atLineStart (c :: rest) with
      | some (mark, after) => mark :: findMarks match? fuel false after
      | none => findMarks match? fuel (c == '\n') rest

/-- The commonest mark beside quoted fields, by the first pattern that occurs at all. -/
def ofQuotes? (s : List Char) : Option Char :=
  [betweenMarks?, beforeMark?, afterMark?].findSome? fun match? =>
    (Tally.mostFrequent? (Tally.ofList (findMarks match? s.length true s))).map Prod.fst

/-- The lines of a text that are not empty. -/
def filledLines (s : List Char) : List (List Char) :=
  (s.splitBy (fun c d => c != '\n' && d != '\n')).filter (· ≠ ['\n'])

/-- A character with the number of times it occurs in most lines, and by how many lines these are
more than the others. -/
structure Candidate where
  char : Char
  count : Nat
  lead : Nat
  deriving DecidableEq, Repr

/-- The characters that are tried. -/
def asciiChars : List Char := (List.range 127).map Char.ofNat

def candidate? (lines : List (List Char)) (c : Char) : Option Candidate := do
  let (count, agreeing) ← Tally.mostFrequent? (Tally.ofList (lines.map (fun line => line.count c)))
  if 0 < count ∧ lines.length < 2 * agreeing then
    some ⟨c, count, 2 * agreeing - lines.length⟩
  else none

/-- The candidates of the highest percentage that any of them reaches, down to 91. -/
def leading (lines : List (List Char)) : List Candidate :=
  let candidates := asciiChars.filterMap (candidate? lines)
  ((List.range 10).findSome? fun k =>
    let reached := candidates.filter fun c => decide ((100 - k) * lines.length ≤ 100 * c.lead)
    if reached.isEmpty then none else some reached).getD []

def preferred : List Char := [',', '\t', ';', ' ', ':']

/-- Whether the second candidate dominates the first. -/
def dominates (a b : Candidate) : Bool :=
  decide (a.count < b.count) || (a.count == b.count && (decide (a.lead < b.lead) ||
    (a.lead == b.lead && decide (a.char.toNat < b.char.toNat))))

/-- The only candidate, or a preferred one, or the one that dominates. -/
def choose? (candidates : List Candidate) : Option Char :=
  match candidates with
  | [] => none
  | [only] => some only.char
  | first :: rest =>
      (preferred.find? (fun c => candidates.any (fun candidate => candidate.char == c))).or
        (some (rest.foldl (fun best next => if dominates best next then next else best) first).char)

/-- The choice among the candidates of the first ten lines, or of more lines, ten at a time, until
there are any. -/
def ofLines? (lines : List (List Char)) : Option Char :=
  (List.range ((lines.length + 9) / 10)).findSome? fun k =>
    choose? (leading (lines.take (10 * (k + 1))))

def guess? (s : List Char) : Option Char := (ofQuotes? s).or (ofLines? (filledLines s))

end TableTalk.Csv.Delimiter
