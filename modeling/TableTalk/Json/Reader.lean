import TableTalk.Json.Value
import TableTalk.Number.Numeral

/-! Reading JSON texts. Every reader takes the text that is left and returns what it read with the
rest; a problem keeps the text from the place on where it was met. -/
namespace TableTalk.Json
open TableTalk.Text TableTalk.Number

inductive Reason where
  | valueExpected
  | nameExpected
  | colonExpected
  | commaExpected
  | extraData
  | unterminatedString
  | controlCharacter
  | badEscape
  | badUnitEscape
  | byteOrderMark
  deriving DecidableEq, Repr

def Reason.text : Reason → String
  | .valueExpected => "Expecting value"
  | .nameExpected => "Expecting property name enclosed in double quotes"
  | .colonExpected => "Expecting ':' delimiter"
  | .commaExpected => "Expecting ',' delimiter"
  | .extraData => "Extra data"
  | .unterminatedString => "Unterminated string starting at"
  | .controlCharacter => "Invalid control character at"
  | .badEscape => "Invalid \\escape"
  | .badUnitEscape => "Invalid \\uXXXX escape"
  | .byteOrderMark => "Unexpected UTF-8 BOM (decode using utf-8-sig)"

/-- Why a text is not JSON. -/
inductive Problem where
  | malformed (reason : Reason) (rest : List Char)
  /-- Containers nested too deeply; the innermost one is an array or an object. -/
  | tooDeep (isArray : Bool)
  | fault (fault : Fault)
  deriving DecidableEq, Repr

/-- How deeply containers may be nested. -/
def depthLimit : Nat := 990

def isSpace (c : Char) : Bool := c == ' ' || c == '\t' || c == '\n' || c == '\r'

def skipSpace : List Char → List Char
  | [] => []
  | c :: rest => if isSpace c then skipSpace rest else c :: rest

def hexValue? (c : Char) : Option Nat :=
  let n := c.toNat
  if 48 ≤ n ∧ n ≤ 57 then some (n - 48)
  else if 97 ≤ n ∧ n ≤ 102 then some (n - 87)
  else if 65 ≤ n ∧ n ≤ 70 then some (n - 55)
  else none

/-- The code unit of four hexadecimal digits. -/
def unit? : List Char → Option Nat
  | [a, b, c, d] =>
      return 4096 * (← hexValue? a) + 256 * (← hexValue? b) + 16 * (← hexValue? c) + (← hexValue? d)
  | _ => none

def isHighHalf (unit : Nat) : Bool := decide (0xD800 ≤ unit) && decide (unit < 0xDC00)

def isLowHalf (unit : Nat) : Bool := decide (0xDC00 ≤ unit) && decide (unit < 0xE000)

def symbolOfUnit (unit : Nat) : Symbol :=
  if isHighHalf unit || isLowHalf unit then .half unit else .char (Char.ofNat unit)

/-- The digits of a code unit escape, given from its letter on, with something after them. -/
def readUnit (s : List Char) : Except Problem (Nat × List Char) :=
  let digits := s.drop 1
  if (digits.drop 4).isEmpty then .error (.malformed .badUnitEscape s)
  else match unit? (digits.take 4) with
    | some unit => .ok (unit, digits.drop 4)
    | none => .error (.malformed .badUnitEscape s)

/-- The low half that goes with a high half, in an escape right after it and with something
following. -/
def readLowHalf (s : List Char) : Except Problem (Option (Nat × List Char)) :=
  match s with
  | '\\' :: 'u' :: digits =>
      if (digits.drop 4).isEmpty then .ok none
      else do
        let (unit, rest) ← readUnit ('u' :: digits)
        return if isLowHalf unit then some (unit, rest) else none
  | _ => .ok none

/-- A code unit escape, joined with the next one if they are the halves of a character. -/
def readEscapedUnit (s : List Char) : Except Problem (Symbol × List Char) := do
  let (unit, rest) ← readUnit s
  if isHighHalf unit then
    match ← readLowHalf rest with
    | some (low, after) =>
        return (.char (Char.ofNat (0x10000 + 1024 * (unit - 0xD800) + (low - 0xDC00))), after)
    | none => return (.half unit, rest)
  else return (symbolOfUnit unit, rest)

def simpleEscape? (c : Char) : Option Char :=
  if c = '"' ∨ c = '\\' ∨ c = '/' then some c
  else if c = 'b' then some (Char.ofNat 8)
  else if c = 'f' then some (Char.ofNat 12)
  else if c = 'n' then some '\n'
  else if c = 'r' then some '\r'
  else if c = 't' then some '\t'
  else none

/-- The rest of a string. The first argument is the text from its opening quote on, the third what
was read, last one first. -/
def readStringFrom (start : List Char) :
    Nat → Symbols → List Char → Except Problem (Symbols × List Char)
  | 0, _, _ => .error (.malformed .unterminatedString start)
  | fuel + 1, read, s =>
      match s with
      | [] => .error (.malformed .unterminatedString start)
      | '"' :: rest => .ok (read.reverse, rest)
      | '\\' :: rest =>
          match rest with
          | [] => .error (.malformed .unterminatedString start)
          | 'u' :: _ => do
              let (symbol, rest) ← readEscapedUnit rest
              readStringFrom start fuel (symbol :: read) rest
          | c :: after =>
              match simpleEscape? c with
              | some e => readStringFrom start fuel (.char e :: read) after
              | none => .error (.malformed .badEscape s)
      | c :: rest =>
          if c.toNat < 32 then .error (.malformed .controlCharacter s)
          else readStringFrom start fuel (.char c :: read) rest

/-- A string, given from its opening quote on. -/
def readString (s : List Char) : Except Problem (Symbols × List Char) :=
  readStringFrom s s.length [] (s.drop 1)

/-- The ASCII digits at the start of a text, and the rest. -/
def spanAsciiDigits (s : List Char) : List Nat × List Char :=
  ((s.takeWhile isAsciiDigit).map (fun c => c.toNat - 48), s.dropWhile isAsciiDigit)

/-- A point with digits after it, if there is one. -/
def readFraction : List Char → List Nat × List Char
  | '.' :: rest =>
      match spanAsciiDigits rest with
      | ([], _) => ([], '.' :: rest)
      | (digits, tail) => (digits, tail)
  | s => ([], s)

/-- An exponent with its digits, if there is one. -/
def readPower (s : List Char) : Option Int × List Char :=
  match s with
  | mark :: rest =>
      if mark = 'e' ∨ mark = 'E' then
        let (negative, rest) := splitSign rest
        match spanAsciiDigits rest with
        | ([], _) => (none, s)
        | (digits, tail) => (some (signed negative (ofDigits digits)), tail)
      else (none, s)
  | [] => (none, s)

/-- The digits of a whole number: a zero alone, or digits that do not begin with zero. -/
def readWhole : List Char → List Nat × List Char
  | '0' :: rest => ([0], rest)
  | s => spanAsciiDigits s

/-- A number after its sign; a text without digits is no number. The last argument is the text
from the sign on. -/
def readNumber (negative : Bool) (s start : List Char) : Except Problem (Value × List Char) :=
  match readWhole s with
  | ([], _) => .error (.malformed .valueExpected start)
  | (whole, rest) =>
      let (fraction, rest) := readFraction rest
      let (power, rest) := readPower rest
      if fraction.isEmpty && power.isNone then
        match readInteger negative whole with
        | .ok n => .ok (.int n, rest)
        | .error cause => .error (.fault cause)
      else
        let numeral : Numeral := ⟨negative, whole ++ fraction, power.getD 0 - fraction.length⟩
        .ok (.float numeral.toFloat, rest)

/-- The words of the format with their values. -/
def words : List (List Char × Value) :=
  [("null".toList, .null), ("true".toList, .bool true), ("false".toList, .bool false),
   ("NaN".toList, .float (Float.ofBits 0x7ff8000000000000)),
   ("Infinity".toList, .float (floatOfBits false infinityBits)),
   ("-Infinity".toList, .float (floatOfBits true infinityBits))]

def readWord? (s : List Char) : Option (Value × List Char) :=
  words.findSome? fun word =>
    if word.1.isPrefixOf s then some (word.2, s.drop word.1.length) else none

/-- A value that is no string and no container. -/
def readPlain (s : List Char) : Except Problem (Value × List Char) :=
  match readWord? s with
  | some (value, rest) => .ok (value, rest)
  | none =>
      match s with
      | '-' :: rest => readNumber true rest s
      | _ => readNumber false s s

mutual

/-- A value at the start of a text. The depth is the number of containers that may still be
opened; the fuel, at least the length of the text. -/
def readValue : Nat → Nat → List Char → Except Problem (Value × List Char)
  | 0, _, s => .error (.malformed .valueExpected s)
  | fuel + 1, depth, s =>
      match s with
      | '"' :: _ => do
          let (text, rest) ← readString s
          return (.string text, rest)
      | '[' :: rest =>
          match depth with
          | 0 => .error (.tooDeep true)
          | depth + 1 =>
              match skipSpace rest with
              | ']' :: rest => .ok (.array [], rest)
              | s => readItems fuel depth [] s
      | '\x7b' :: rest =>
          match depth with
          | 0 => .error (.tooDeep false)
          | depth + 1 =>
              match skipSpace rest with
              | '\x7d' :: rest => .ok (.object [], rest)
              | s => readMembers fuel depth [] s
      | _ => readPlain s

/-- The items of an array up to its end; those read before stand last one first. -/
def readItems : Nat → Nat → List Value → List Char → Except Problem (Value × List Char)
  | 0, _, _, s => .error (.malformed .valueExpected s)
  | fuel + 1, depth, items, s => do
      let (item, rest) ← readValue fuel depth s
      match skipSpace rest with
      | ']' :: rest => return (.array (item :: items).reverse, rest)
      | ',' :: rest => readItems fuel depth (item :: items) (skipSpace rest)
      | rest => .error (.malformed .commaExpected rest)

/-- The members of an object up to its end. -/
def readMembers : Nat → Nat → List (Symbols × Value) → List Char →
    Except Problem (Value × List Char)
  | 0, _, _, s => .error (.malformed .nameExpected s)
  | fuel + 1, depth, members, s =>
      match s with
      | '"' :: _ => do
          let (name, rest) ← readString s
          match skipSpace rest with
          | ':' :: rest => do
              let (value, rest) ← readValue fuel depth (skipSpace rest)
              let members := setMember members name value
              match skipSpace rest with
              | '\x7d' :: rest => return (.object members, rest)
              | ',' :: rest => readMembers fuel depth members (skipSpace rest)
              | rest => .error (.malformed .commaExpected rest)
          | rest => .error (.malformed .colonExpected rest)
      | _ => .error (.malformed .nameExpected s)

end

/-- The value that a whole text denotes. -/
def read (s : List Char) : Except Problem Value :=
  match s with
  | '\ufeff' :: _ => .error (.malformed .byteOrderMark s)
  | _ => do
      let (value, rest) ← readValue (s.length + 1) depthLimit (skipSpace s)
      match skipSpace rest with
      | [] => return value
      | rest => .error (.malformed .extraData rest)

/-- Line and column, from one, of the place after some text. -/
def placeAfter (before : List Char) : Nat × Nat :=
  (before.count '\n' + 1, (before.reverse.takeWhile (· != '\n')).length + 1)

/-- The report of a problem with a text. -/
def Problem.message (s : List Char) : Problem → String
  | .malformed reason rest =>
      let position := s.length - rest.length
      let (line, column) := placeAfter (s.take position)
      reason.text ++ ": line " ++ toString line ++ " column " ++ toString column ++ " (char " ++
        toString position ++ ")"
  | .tooDeep isArray =>
      "maximum recursion depth exceeded while decoding a JSON " ++
        (if isArray then "array" else "object") ++ " from a unicode string"
  | .fault cause => cause.message

end TableTalk.Json
