import TableTalk.Calendar.Lexicon
import TableTalk.Text.Letter
import TableTalk.Text.Digit
import TableTalk.Text.Blank

/-! Date texts as tokens: runs of letters, runs of digits, and single other characters, with a
decimal point or comma kept inside a number. -/
namespace TableTalk.Calendar
open TableTalk.Text

/-- What kind of token is being read. -/
inductive TokenKind where
  | word
  | number
  /-- Letters with points between them. -/
  | dottedWord
  /-- Digits with a point or comma. -/
  | dottedNumber
  deriving DecidableEq, Repr

/-- A token under construction: its characters, last one first, and whether a letter or what
ended a word was met after its first character. -/
structure OpenToken where
  kind : TokenKind
  reversed : List Char
  sawLetters : Bool
  deriving DecidableEq, Repr

def lastIsPoint (reversed : List Char) : Bool := reversed.head? == some '.'

/-- The open token with one more character, or none if the character begins a new token. -/
def OpenToken.extend? (t : OpenToken) (c : Char) : Option OpenToken :=
  match t.kind with
  | .word =>
      if isLetter c then some ⟨.word, c :: t.reversed, true⟩
      else if c = '.' then some ⟨.dottedWord, c :: t.reversed, true⟩
      else none
  | .number =>
      if isDigitMark c then some ⟨.number, c :: t.reversed, t.sawLetters⟩
      else if c = '.' ∨ (c = ',' ∧ 2 ≤ t.reversed.length) then
        some ⟨.dottedNumber, c :: t.reversed, t.sawLetters⟩
      else none
  | .dottedWord =>
      if c = '.' ∨ isLetter c then some ⟨.dottedWord, c :: t.reversed, true⟩
      else if isDigitMark c && lastIsPoint t.reversed then
        some ⟨.dottedNumber, c :: t.reversed, true⟩
      else none
  | .dottedNumber =>
      if c = '.' ∨ isDigitMark c then some ⟨.dottedNumber, c :: t.reversed, t.sawLetters⟩
      else if isLetter c && lastIsPoint t.reversed then
        some ⟨.dottedWord, c :: t.reversed, t.sawLetters⟩
      else none

def isPointOrComma (c : Char) : Bool := c == '.' || c == ','

/-- Cuts a text at every point and comma, which become tokens of their own. -/
def splitAtPoints : List Char → List Char → List Token
  | piece, [] => if piece.isEmpty then [] else [piece.reverse]
  | piece, c :: rest =>
      if isPointOrComma c then
        (if piece.isEmpty then [] else [piece.reverse]) ++ [c] :: splitAtPoints [] rest
      else splitAtPoints (c :: piece) rest

/-- The finished tokens: a dotted one is cut up unless it is a plain decimal number, whose comma
becomes a point. A single letter after a point counts as a letter met once something follows. -/
def OpenToken.close (t : OpenToken) (followed : Bool) : List Token :=
  let text := t.reversed.reverse
  match t.kind with
  | .word | .number => [text]
  | .dottedWord | .dottedNumber =>
      let cutUp := t.sawLetters || (followed && decide (t.kind = .dottedWord)) ||
        decide (1 < text.count '.') || (t.reversed.head?.any isPointOrComma)
      if cutUp then splitAtPoints [] text
      else if t.kind = .dottedNumber ∧ text.count '.' = 0 then
        [text.map fun c => if c = ',' then '.' else c]
      else [text]

/-- The token that a character begins, or the finished token that it is by itself. -/
def openWith (c : Char) : OpenToken ⊕ Token :=
  if isLetter c then .inl ⟨.word, [c], false⟩
  else if isDigitMark c then .inl ⟨.number, [c], false⟩
  else if isBlank c then .inr [' ']
  else .inr [c]

def tokensFrom : Option OpenToken → List Char → List Token
  | none, [] => []
  | some t, [] => t.close false
  | none, c :: rest =>
      match openWith c with
      | .inl t => tokensFrom (some t) rest
      | .inr token => token :: tokensFrom none rest
  | some t, c :: rest =>
      match t.extend? c with
      | some t => tokensFrom (some t) rest
      | none => t.close true ++ match openWith c with
          | .inl t => tokensFrom (some t) rest
          | .inr token => token :: tokensFrom none rest

/-- The tokens of a date text; characters with code zero are passed over. -/
def tokens (s : List Char) : List Token := tokensFrom none (s.filter (fun c => c.toNat != 0))

end TableTalk.Calendar
