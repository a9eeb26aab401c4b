import TableTalk.Fault
import TableTalk.Number.Power
import TableTalk.Text.Blank
import TableTalk.Text.Digit

/-! Integers and their decimal text, within the limit on its length. -/
namespace TableTalk.Number
open TableTalk.Text CorePowers

/-- The value of a digit sequence, most significant digit first. -/
def ofDigits (digits : List Nat) : Nat := digits.foldl (fun n d => 10 * n + d) 0

/-- The digits at the start of a text, and the rest of it. -/
def spanDigits (s : List Char) : List Nat × List Char :=
  ((s.takeWhile isDigit).filterMap digitValue?, s.dropWhile isDigit)

/-- Whether a text begins with a minus sign, and what follows its sign. -/
def splitSign : List Char → Bool × List Char
  | '-' :: rest => (true, rest)
  | '+' :: rest => (false, rest)
  | rest => (false, rest)

def signed (negative : Bool) (n : Nat) : Int := if negative then -(n : Int) else n

/-- The integer of a sign and digits; leading zeros count towards the limit. -/
def readInteger (negative : Bool) (digits : List Nat) : Except Fault Int :=
  if digitLimit < digits.length then .error (.literalTooLong digits.length)
  else .ok (signed negative (ofDigits digits))

/-- Digits with single underscores between them. -/
def groupedDigits? : List Char → Option (List Nat)
  | [] => none
  | [c] => (digitValue? c).map ([·])
  | c :: '_' :: rest => do return (← digitValue? c) :: (← groupedDigits? rest)
  | c :: rest => do return (← digitValue? c) :: (← groupedDigits? rest)

/-- The integer that a text denotes, with white space around it and underscores between digits
allowed. -/
def looseInteger? (s : List Char) : Option Int :=
  let (negative, rest) := splitSign (trim s)
  (groupedDigits? rest).bind fun digits => (readInteger negative digits).toOption

def naturalText (n : Nat) : String := String.ofList (Nat.toDigits 10 n)

/-- Decimal text of any length. -/
def integerText (n : Int) : String :=
  if n < 0 then "-" ++ naturalText n.natAbs else naturalText n.natAbs

/-- Decimal text within the limit. -/
def writeInteger (n : Int) : Except Fault String :=
  if 10 ^ digitLimit ≤ n.natAbs then .error .integerTooLong else .ok (integerText n)

end TableTalk.Number
