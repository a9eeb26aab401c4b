/-! Computations that cannot be carried out, and the texts that report them. -/
namespace TableTalk

/-- The longest decimal text that is converted to or from an integer. -/
def digitLimit : Nat := 4300

inductive Fault where
  /-- An integer literal with this many digits, more than the limit. -/
  | literalTooLong (digits : Nat)
  /-- An integer whose decimal text would pass the limit. -/
  | integerTooLong
  | integerBeyondFloat
  | quotientBeyondFloat
  | divisionByZero
  /-- A question that is no text but a value of this kind. -/
  | questionNotText (kind : String)
  /-- Rows were asked of a value of this kind. -/
  | notRows (kind : String)
  /-- A level name that stands for no level but for this text. -/
  | unknownLevel (shown : String)
  /-- Values outside the cell types in a record of this kind, by number of refusals. -/
  | invalidValues (record : String) (refusals : Nat)
  /-- A text that cannot be encoded because of lone halves: the first of them, its place, and how
  many there are in a row. -/
  | unencodable (unit place count : Nat)
  deriving DecidableEq, Repr

private def limitText : String :=
  "Exceeds the limit (4300 digits) for integer string conversion"

private def limitAdvice : String := "; use sys.set_int_max_str_digits() to increase the limit"

def Fault.message : Fault → String
  | .literalTooLong digits =>
      limitText ++ ": value has " ++ toString digits ++ " digits" ++ limitAdvice
  | .integerTooLong => limitText ++ limitAdvice
  | .integerBeyondFloat => "int too large to convert to float"
  | .quotientBeyondFloat => "integer division result too large for a float"
  | .divisionByZero => "division by zero"
  | .questionNotText kind => "'" ++ kind ++ "' object has no attribute 'lower'"
  | .notRows kind => "'" ++ kind ++ "' object is not iterable"
  | .unknownLevel shown => "Unknown level: '" ++ shown ++ "'"
  | .invalidValues record refusals =>
      toString refusals ++ " validation error" ++ (if refusals = 1 then "" else "s") ++
        " for " ++ record
  | .unencodable unit place count =>
      "'utf-8' codec can't encode character" ++
        (if count = 1 then " '\\u" ++ String.ofList (Nat.toDigits 16 unit) ++ "' in position "
          else "s in position ") ++ toString place ++
        (if count = 1 then "" else "-" ++ toString (place + count - 1)) ++
        ": surrogates not allowed"

end TableTalk
