import TableTalk.Cell

/-! Values of a fixed type from cells, as settings and signals take them: a text that spells the
value will do, and so will a number of another kind that loses nothing. -/
namespace TableTalk

/-- Why a cell is no value of the type asked for. -/
inductive Refusal where
  | noInteger
  | integerTooLong
  | integerNotFinite
  | integerHasFraction
  | integerUnreadable
  | noFloat
  | floatUnreadable
  | noTruthValue
  | truthValueUnreadable
  | noText
  /-- A text with a lone half where a value is spelled. -/
  | loneHalf
  /-- A value of the right type outside its range. -/
  | outOfRange
  deriving DecidableEq, Repr

def Refusal.code : Refusal → String
  | .noInteger => "int_type"
  | .integerTooLong => "int_parsing_size"
  | .integerNotFinite => "finite_number"
  | .integerHasFraction => "int_from_float"
  | .integerUnreadable => "int_parsing"
  | .noFloat => "float_type"
  | .floatUnreadable => "float_parsing"
  | .noTruthValue => "bool_type"
  | .truthValueUnreadable => "bool_parsing"
  | .noText => "string_type"
  | .loneHalf => "string_unicode"
  | .outOfRange => "value_error"

namespace Coercion
open TableTalk.Text TableTalk.Number CorePowers

/-- A text without the white space around it; the separator controls stay. -/
def strip (s : List Char) : List Char :=
  let isSpace (c : Char) : Bool := isBlank c && !(decide (28 ≤ c.toNat) && decide (c.toNat ≤ 31))
  ((s.dropWhile isSpace).reverse.dropWhile isSpace).reverse

/-- Digits without a point that has zeros after it and nothing else. -/
def dropZeroFraction (s : List Char) : List Char :=
  match s.dropWhile (· != '.') with
  | '.' :: '0' :: rest => if rest.all (· == '0') then s.takeWhile (· != '.') else s
  | _ => s

/-- A text that begins with a zero without the zeros and underscores at its start, as long as a
number remains: before a point or at the end the last of them stays. -/
def dropLeadingZeros (s : List Char) : List Char :=
  let isFiller (c : Char) : Bool := c == '0' || c == '_'
  let (fillers, rest) := (s.takeWhile isFiller, s.dropWhile isFiller)
  if s.head? = some '0' then
    match rest with
    | [] | '.' :: _ => fillers.drop (fillers.length - 1) ++ rest
    | c :: _ => if isAsciiDigit c || c == '-' then rest else s
  else s

/-- An integer text: a sign, ASCII digits with single underscores between them, and a fraction of
zeros. Zeros may stand before a minus sign. -/
def integerOfText (s : List Char) : Except Refusal Int :=
  let (negative, body) := splitSign (dropLeadingZeros (strip s))
  match groupedDigits? (dropZeroFraction body) with
  | some digits =>
      if !body.all (fun c => decide (c.toNat < 128)) then .error .integerUnreadable
      else
        let digits := digits.dropWhile (· == 0)
        if digitLimit < digits.length then .error .integerTooLong
        else .ok (signed negative (ofDigits digits))
  | none => .error .integerUnreadable

def nonFiniteText? (s : List Char) : Option Float :=
  let (negative, body) := splitSign s
  let word := String.ofList (body.map Char.toLower)
  if word = "inf" ∨ word = "infinity" then some (floatOfBits negative infinityBits)
  else if word = "nan" then some (Float.ofBits 0x7ff8000000000000)
  else none

/-- A text without its underscores, if they stand one at a time and not at an end. -/
def dropUnderscores (s : List Char) : List Char :=
  let parts := s.splitOn '_'
  if parts.any List.isEmpty then s else parts.flatten

def floatOfText (s : List Char) : Except Refusal Float :=
  let s := dropUnderscores (strip s)
  match nonFiniteText? s with
  | some x => .ok x
  | none =>
      if s.all (fun c => decide (c.toNat < 128)) then
        match readNumeral? s with
        | some numeral => .ok numeral.toFloat
        | none => .error .floatUnreadable
      else .error .floatUnreadable

def trueWords : List String := ["1", "on", "t", "true", "y", "yes"]

def falseWords : List String := ["0", "off", "f", "false", "n", "no"]

def truthOfText (s : List Char) : Except Refusal Bool :=
  let word := String.ofList (s.map Char.toLower)
  if trueWords.contains word then .ok true
  else if falseWords.contains word then .ok false
  else .error .truthValueUnreadable

/-- Only zero and one are truth values, and integers beyond 64 bits are nothing like one. -/
def truthOfInteger (n : Int) : Except Refusal Bool :=
  if n = 0 then .ok false
  else if n = 1 then .ok true
  else .error (if -(2 ^ (63 : Nat)) ≤ n ∧ n < 2 ^ (63 : Nat) then .truthValueUnreadable
    else .noTruthValue)

/-- Whole numbers of a float are taken as integers within 64 bits. -/
def integerOfFloat (x : Float) : Except Refusal Int :=
  if !isFinite x then .error .integerNotFinite
  else match (Binary.ofFloat x).toInteger? with
    | none => .error .integerHasFraction
    | some n =>
        if -(2 ^ (63 : Nat)) < n ∧ n < 2 ^ (63 : Nat) then .ok n else .error .integerTooLong

def integer : Cell → Except Refusal Int
  | .int n => .ok n
  | .bool b => .ok (if b then 1 else 0)
  | .float x => integerOfFloat x
  | .text s => integerOfText s.toList
  | .broken _ => .error .loneHalf
  | _ => .error .noInteger

def float : Cell → Except Refusal Float
  | .float x => .ok x
  | .int n => (floatOfInteger n).mapError (fun _ => .noFloat)
  | .bool b => .ok (if b then 1 else 0)
  | .text s => floatOfText s.toList
  | .broken _ => .error .loneHalf
  | _ => .error .noFloat

def truth : Cell → Except Refusal Bool
  | .bool b => .ok b
  | .int n => truthOfInteger n
  | .float x =>
      match integerOfFloat x with
      | .ok n => truthOfInteger n
      | .error _ => .error .noTruthValue
  | .text s => truthOfText s.toList
  | .broken _ => .error .loneHalf
  | _ => .error .noTruthValue

def text : Cell → Except Refusal Symbols
  | .text s => .ok (symbols s)
  | .broken text => .ok text.symbols
  | _ => .error .noText

/-- The name of a column, which has no lone halves. -/
def name : Cell → Except Refusal String
  | .text s => .ok s
  | .broken _ => .error .loneHalf
  | _ => .error .noText

/-- A value that may be missing. -/
def optional (read : Cell → Except Refusal α) : Cell → Except Refusal (Option α)
  | .null => .ok none
  | cell => (read cell).map some

end Coercion

/-- A value, or the fields that were refused, in order. -/
abbrev Verdict (α : Type) := Except (List (String × Refusal)) α

namespace Verdict

/-- One more field: all refusals are kept. -/
def apply (verdict : Verdict (α → β)) (next : Verdict α) : Verdict β :=
  match verdict, next with
  | .ok f, .ok a => .ok (f a)
  | .ok _, .error refused => .error refused
  | .error refused, .ok _ => .error refused
  | .error refused, .error others => .error (refused ++ others)

/-- The value of a field found by its name, refused under that name. -/
def field (find? : String → Option Cell) (name : String) (fallback : α)
    (read : Cell → Except Refusal α) : Verdict α :=
  match find? name with
  | none => .ok fallback
  | some cell => (read cell).mapError (fun refusal => [(name, refusal)])

end Verdict
end TableTalk
