import TableTalk.Number.Binary
import TableTalk.Text.Blank

/-! Numerals: texts that denote a finite number, an integer or a decimal fraction. -/
namespace TableTalk

/-- An exact integer or a floating-point number. -/
inductive Number where
  | int (n : Int)
  | float (x : Float)

namespace Number
open TableTalk.Text

/-- A decimal numeral: sign, all its digits, and the power of ten of the last one. -/
structure Numeral where
  negative : Bool
  digits : List Nat
  exponent : Int
  deriving DecidableEq, Repr

/-- An exponent mark with its digits, or nothing at the end of the text. -/
def readExponent? : List Char → Option Int
  | [] => some 0
  | mark :: rest =>
      if mark = 'e' ∨ mark = 'E' then
        let (negative, rest) := splitSign rest
        match spanDigits rest with
        | ([], _) => none
        | (digits, []) => some (signed negative (ofDigits digits))
        | _ => none
      else none

/-- Digits with an optional point, at least one digit in all, and an optional exponent. -/
def readNumeral? (s : List Char) : Option Numeral :=
  let (negative, rest) := splitSign s
  let (whole, rest) := spanDigits rest
  let (fraction, rest) := match rest with
    | '.' :: rest => spanDigits rest
    | rest => ([], rest)
  if whole.isEmpty && fraction.isEmpty then none
  else (readExponent? rest).map fun power =>
    ⟨negative, whole ++ fraction, power - fraction.length⟩

/-- The nearest float of a numeral, possibly infinite. -/
def Numeral.toFloat (numeral : Numeral) : Float :=
  floatOfBits numeral.negative (nearestDecimalBits (ofDigits numeral.digits) numeral.exponent)

/-- The finite number that a text denotes once white space around it is removed. Underscores
are never part of a number; a sign and digits alone make an integer. -/
def ofText? (s : List Char) : Except Fault (Option Number) :=
  let s := trim s
  if s.contains '_' then .ok none
  else
    let (negative, rest) := splitSign s
    match spanDigits rest with
    | (d :: digits, []) => return some (.int (← readInteger negative (d :: digits)))
    | _ =>
        match readNumeral? s with
        | none => .ok none
        | some numeral =>
            let x := numeral.toFloat
            .ok (if isFinite x then some (.float x) else none)

/-- Both numbers added: integers exactly, otherwise as floats. -/
def add : Number → Number → Except Fault Number
  | .int m, .int n => .ok (.int (m + n))
  | .int m, .float y => return .float ((← floatOfInteger m) + y)
  | .float x, .int n => return .float (x + (← floatOfInteger n))
  | .float x, .float y => .ok (.float (x + y))

/-- The sum from left to right, starting at the integer zero. -/
def sum (numbers : List Number) : Except Fault Number :=
  numbers.foldlM add (.int 0)

/-- A total divided among a number of shares; two integers divide with a single rounding. -/
def share : Number → Nat → Except Fault Float
  | .int total, count =>
      if count = 0 then .error .divisionByZero
      else if infinityBits ≤ nearestBits total.natAbs count then .error .quotientBeyondFloat
      else .ok (nearestRatio (decide (total < 0)) total.natAbs count)
  | .float total, count =>
      if count = 0 then .error .divisionByZero else return total / (← floatOfInteger count)

end Number
end TableTalk
