import TableTalk.Calendar.Date
import TableTalk.Number.Shortest

/-! Points in time and their text. -/
namespace TableTalk.Calendar
open TableTalk.Number

structure Timestamp where
  year : Nat
  month : Nat
  day : Nat
  hour : Nat
  minute : Nat
  second : Nat
  /-- Millionths of a second. -/
  fraction : Nat
  /-- Minutes east of universal time, if the zone is known. -/
  offset : Option Int
  deriving DecidableEq, Repr

namespace Timestamp

/-- A number with zeros in front. -/
def padded (width n : Nat) : List Char := padLeft width '0' (Nat.toDigits 10 n)

def fractionText (fraction : Nat) : List Char :=
  if fraction = 0 then [] else '.' :: padded 6 fraction

def offsetText (minutes : Int) : List Char :=
  (if minutes < 0 then '-' else '+') ::
    (padded 2 (minutes.natAbs / 60) ++ ':' :: padded 2 (minutes.natAbs % 60))

/-- Date and time without the zone; a fraction is shown unless it is zero. -/
def localText (t : Timestamp) : List Char :=
  padded 4 t.year ++ '-' :: padded 2 t.month ++ '-' :: padded 2 t.day ++ 'T' :: padded 2 t.hour ++
    ':' :: padded 2 t.minute ++ ':' :: padded 2 t.second ++ fractionText t.fraction

/-- The text with a numeric offset. -/
def toText (t : Timestamp) : String :=
  String.ofList (t.localText ++ match t.offset with
    | none => []
    | some minutes => offsetText minutes)

/-- The text in which universal time is written Z. -/
def toZuluText (t : Timestamp) : String :=
  String.ofList (t.localText ++ match t.offset with
    | none => []
    | some 0 => ['Z']
    | some minutes => offsetText minutes)

/-- The same time one day later. -/
def nextDay (t : Timestamp) : Timestamp :=
  if t.day < daysInMonth t.year t.month then { t with day := t.day + 1 }
  else if t.month < 12 then { t with month := t.month + 1, day := 1 }
  else { t with year := t.year + 1, month := 1, day := 1 }

/-- The time so many millionths of a second after midnight. -/
def afterMidnight (midnight : Timestamp) (fractions : Nat) : Timestamp :=
  let seconds := fractions / 1000000
  let day := Nat.repeat nextDay (seconds / 86400) midnight
  { day with hour := seconds / 3600 % 24
             minute := seconds / 60 % 60
             second := seconds % 60
             fraction := fractions % 1000000 }

end Timestamp
end TableTalk.Calendar
