import TableTalk.Calendar.FreeForm
import TableTalk.Calendar.Iso
import TableTalk.Cell

/-! Which cells are dates. A text is tried in the machine formats first, then as a numeric date
with the year last, as an abbreviation such as 2024Q1 or Jan-2024, and at last in free form. -/
namespace TableTalk.Calendar
open TableTalk.Text TableTalk.Number

/-- A plain number below one thousand is no date, unless it begins with a zero. -/
def isSmallNumber (s : List Char) : Bool :=
  s.head? != some '0' && s.all (fun c => decide (c.toNat < 128)) &&
    match readNumeral? ((s.dropWhile Iso.isSpace).reverse.dropWhile Iso.isSpace).reverse with
    | some numeral => decide (numeral.toFloat < 1000)
    | none => false

def asciiValue? (s : List Char) : Option Nat :=
  if s.isEmpty then none else (s.mapM Iso.asciiDigit?).map ofDigits

def isDateDelimiter (c : Char) : Bool := [' ', '/', '-', '.'].contains c

/-- The year of a date that has it last; years before 1000 are not written so. -/
def lateYear? (s : List Char) : Option Nat :=
  (asciiValue? s).filter (fun year => decide (1000 ≤ year))

/-- Month, day and year between delimiters, with a year of four digits. -/
def delimitedParts? (s : List Char) : Option (Nat × Nat × Nat) :=
  let parts? (month : List Char) (c : Char) (day : List Char) (d : Char) (year : List Char) :=
    if isDateDelimiter c && isDateDelimiter d then
      return (← asciiValue? month, ← asciiValue? day, ← lateYear? year)
    else none
  match s with
  | [m, n, c, d, e, f, p, q, r, t] => parts? [m, n] c [d, e] f [p, q, r, t]
  | [m, c, d, e, f, p, q, r, t] =>
      if isDateDelimiter c && isDateDelimiter f then parts? [m] c [d, e] f [p, q, r, t]
      else parts? [m, c] d [e] f [p, q, r, t]
  | [m, c, d, f, p, q, r, t] => parts? [m] c [d] f [p, q, r, t]
  | _ => none

/-- Month and year around a delimiter other than a point. -/
def monthAndYear? (s : List Char) : Option (Nat × Nat) :=
  match s with
  | [m, n, c, p, q, r, t] =>
      if isDateDelimiter c && c != '.' then
        return (← asciiValue? [m, n], ← lateYear? [p, q, r, t])
      else none
  | _ => none

/-- Whether a numeric date with the year last exists, the month being first where it can be; none
for texts of another form. -/
def isDelimited? (s : List Char) : Option Bool :=
  match delimitedParts? s, monthAndYear? s with
  | some (month, day, year), _ =>
      some (if 12 < month then decide (IsDay year day month) else decide (IsDay year month day))
  | none, some (month, year) => some (decide (IsDay year month 1))
  | none, none => none

/-- Quarter and year, as in 2024Q1, 24-Q1, 1Q24 or 1Q-2024. -/
def quarter? (s : List Char) : Option (Int × Int) :=
  let short (year : List Char) : Option Int := (looseInteger? year).map (2000 + ·)
  match s with
  | [a, 'Q', y, z] => return (← looseInteger? [a], ← short [y, z])
  | [a, 'Q', '-', y, z] => return (← looseInteger? [a], ← short [y, z])
  | [a, 'Q', w, x, y, z] => return (← looseInteger? [a], ← looseInteger? [w, x, y, z])
  | [a, 'Q', '-', w, x, y, z] => return (← looseInteger? [a], ← looseInteger? [w, x, y, z])
  | [y, z, 'Q', a] => return (← looseInteger? [a], ← short [y, z])
  | [y, z, '-', 'Q', a] => return (← looseInteger? [a], ← short [y, z])
  | [w, x, y, z, 'Q', a] => return (← looseInteger? [a], ← looseInteger? [w, x, y, z])
  | [w, x, y, z, '-', 'Q', a] => return (← looseInteger? [a], ← looseInteger? [w, x, y, z])
  | _ => none

def isYear (year : Int) : Bool := decide (1 ≤ year) && decide (year ≤ 9999)

def shortMonths : List (List Char) :=
  ["JAN", "FEB", "MAR", "APR", "MAY", "JUN", "JUL", "AUG", "SEP", "OCT", "NOV", "DEC"].map
    String.toList

def isYearText (s : List Char) : Bool :=
  decide (s.length = 4) && match spanDigits s with
    | (digits, []) => decide (0 < ofDigits digits)
    | _ => false

def isMonthText (s : List Char) : Bool :=
  match s with
  | [_] | ['0', _] | ['1', _] =>
      match asciiValue? s with
      | some month => decide (1 ≤ month) && decide (month ≤ 12)
      | none => false
  | _ => false

/-- A year with a month: 2024-05, May 2024 or May-2024, in capitals. -/
def isMonthOfYear (s : List Char) : Bool :=
  (isYearText (s.take 4) && (s.drop 4).head? == some '-' && isMonthText (s.drop 5)) ||
  (shortMonths.contains (s.take 3) &&
    ((s.drop 3).head? == some '-' && isYearText (s.drop 4) ||
      startsBlank (s.drop 3) && isYearText (trimStart (s.drop 3))))

/-- Whether an abbreviated date exists; none for texts of another form. -/
def isAbbreviated? (s : List Char) : Option Bool :=
  let s := upperAscii s
  if s.length = 4 ∧ (looseInteger? s).any isYear then some true
  else match quarter? s with
  | some (quarter, year) =>
      if quarter < 1 ∨ 4 < quarter then some false
      else if isYear year || isMonthOfYear s then some true else none
  | none => if isMonthOfYear s then some true else none

/-- Texts of no machine format. -/
def isWrittenDate (s : List Char) : Bool :=
  !isSmallNumber s &&
    match isDelimited? s, isAbbreviated? s with
    | some answer, _ => answer
    | none, some answer => answer
    | none, none => FreeForm.isDate s

/-- Whether a text denotes a date or time that exists. After a minus sign only the machine form
counts. -/
def denotesDate (s : List Char) : Bool :=
  let s := (s.reverse.dropWhile (fun c => c.toNat == 0)).reverse
  match Iso.read? s with
  | some moment => moment.isStorable
  | none => s.head? != some '-' && isWrittenDate s

/-- Words alone are no date: a cell needs a digit. -/
def isDateText (s : List Char) : Bool := s.any isDigit && denotesDate s

/-- Words for the present. -/
def isPresent (s : String) : Bool := s == "now" || s == "today"

end TableTalk.Calendar

namespace TableTalk

/-- Whether a scalar is a date: a date text, or a count of nanoseconds that fits 64 bits. -/
def Cell.isDateScalar : Cell → Bool
  | .int n => Calendar.Iso.fitsCount n
  | .float x => Number.isBelow 63 (Number.Binary.ofFloat x)
  | .text s => Calendar.isDateText s.toList
  | _ => false

/-- Whether a cell is a date. A list stands for its item when it has just one, and words may be
dates there. -/
def Cell.isDate : Cell → Bool
  | .list [.text s] => Calendar.isPresent s || Calendar.denotesDate s.toList
  | .list [item] => item.isDateScalar
  | cell => cell.isDateScalar

end TableTalk
