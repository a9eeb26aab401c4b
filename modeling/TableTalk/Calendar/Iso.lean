import TableTalk.Calendar.Date
import TableTalk.Number.Power
import TableTalk.Text.Digit

/-! Dates and times written from the year down, such as 2024-01-05T10:30:00.5+05:30: a year of
four digits, or of any number of digits after a minus sign, a month and a day with or without a
separator, a clock time and an offset. -/
namespace TableTalk.Calendar.Iso
open TableTalk.Text CorePowers

/-- ASCII white space, the only kind known to the machine formats. -/
def isSpace (c : Char) : Bool := c == ' ' || (decide (9 ≤ c.toNat) && decide (c.toNat ≤ 13))

def asciiDigit? (c : Char) : Option Nat := if isAsciiDigit c then some (c.toNat - 48) else none

/-- A digit and, if one follows, a second; whether there were two. -/
def oneOrTwo? : List Char → Option (Nat × Bool × List Char)
  | c :: d :: rest => do
      let tens ← asciiDigit? c
      match asciiDigit? d with
      | some ones => some (10 * tens + ones, true, rest)
      | none => some (tens, false, d :: rest)
  | [c] => return (← asciiDigit? c, false, [])
  | [] => none

/-- The value of a run of ASCII digits. -/
def digitsValue (digits : List Char) : Nat :=
  digits.foldl (fun n c => 10 * n + (c.toNat - 48)) 0

def fourDigits? : List Char → Option (Nat × List Char)
  | a :: b :: c :: d :: rest =>
      if [a, b, c, d].all isAsciiDigit then some (digitsValue [a, b, c, d], rest) else none
  | _ => none

/-- All digits at the start, of which there must be one. -/
def someDigits? (s : List Char) : Option (Nat × List Char) :=
  match s.takeWhile isAsciiDigit with
  | [] => none
  | digits => some (digitsValue digits, s.dropWhile isAsciiDigit)

def isBlankRest (s : List Char) : Bool := s.all isSpace

/-- A clock time: whole seconds since midnight, the digits of the fraction, and how many minutes
east of universal time the clock stands. -/
structure Clock where
  seconds : Nat
  fraction : List Nat
  offset : Int
  deriving DecidableEq, Repr

def Clock.midnight : Clock := ⟨0, [], 0⟩

/-- The end of a time: nothing, the mark of universal time, or an offset of hours and minutes. -/
def zone? (s : List Char) : Option Int :=
  match s.dropWhile isSpace with
  | [] => some 0
  | 'Z' :: rest => if isBlankRest rest then some 0 else none
  | c :: rest =>
      if c = '+' ∨ c = '-' then do
        let (hours, _, rest) ← oneOrTwo? rest
        let minutes ← match rest with
          | [] => some 0
          | d :: tail => do
              let (minutes, _, rest) ← oneOrTwo? (if d = ':' then tail else d :: tail)
              if minutes < 60 ∧ isBlankRest rest then some minutes else none
        if hours < 24 then
          let east : Int := 60 * hours + minutes
          some (if c = '-' then -east else east)
        else none
      else none

/-- The digits at the start, up to a number of them, and the rest. -/
def takeDigits : Nat → List Char → List Nat × List Char
  | n + 1, c :: rest =>
      match asciiDigit? c with
      | some digit => ((digit :: (takeDigits n rest).1), (takeDigits n rest).2)
      | none => ([], c :: rest)
  | _, s => ([], s)

def atZone? (seconds : Nat) (fraction : List Nat) (s : List Char) : Option Clock :=
  (zone? s).map (⟨seconds, fraction, ·⟩)

/-- Seconds after so many that have passed, a fraction of at most eighteen digits, and the end. -/
def seconds? (passed : Nat) (separated : Bool) (s : List Char) : Option Clock := do
  let (seconds, two, rest) ← oneOrTwo? s
  if (separated || two) && decide (seconds < 60) then
    match rest with
    | '.' :: rest =>
        let (fraction, rest) := takeDigits 18 rest
        atZone? (passed + seconds) fraction rest
    | rest => atZone? (passed + seconds) [] rest
  else none

def minutes? (passed : Nat) (separated : Bool) (s : List Char) : Option Clock := do
  let (minutes, two, rest) ← oneOrTwo? s
  let passed := passed + 60 * minutes
  if (separated || two) && decide (minutes < 60) then
    match rest with
    | [] => some ⟨passed, [], 0⟩
    | c :: tail =>
        if separated && c == ':' then seconds? passed true tail
        else if !separated && isAsciiDigit c then seconds? passed false (c :: tail)
        else atZone? passed [] (c :: tail)
  else none

/-- What follows the day: nothing, or a mark and a clock time. -/
def clock? : List Char → Option Clock
  | [] => some .midnight
  | mark :: s =>
      if mark = 'T' ∨ mark = ' ' then do
        let (hours, two, rest) ← oneOrTwo? s
        let passed := 3600 * hours
        if hours < 24 then
          match rest with
          | [] => if two then some ⟨passed, [], 0⟩ else none
          | ':' :: tail => minutes? passed true tail
          | c :: tail =>
              if isAsciiDigit c then minutes? passed false (c :: tail)
              else if two then atZone? passed [] (c :: tail) else none
        else none
      else none

def isSeparator (c : Char) : Bool := ['-', '.', '/', '\\', ' '].contains c

/-- A day of any year with a time of day. -/
structure Moment where
  year : Int
  month : Nat
  day : Nat
  clock : Clock
  deriving DecidableEq, Repr

def ofDay? (year : Int) (month day : Nat) (rest : List Char) : Option Moment :=
  if 1 ≤ day ∧ day ≤ daysInMonth year.natAbs month then
    (clock? rest).map (⟨year, month, day, ·⟩)
  else none

/-- The part after the year. Without separators month and day have two digits each, and a month
alone is refused. -/
def afterYear? (year : Int) : List Char → Option Moment
  | [] => some ⟨year, 1, 1, .midnight⟩
  | c :: tail =>
      if isAsciiDigit c then do
        let (month, two, rest) ← oneOrTwo? (c :: tail)
        let (day, both, rest) ← oneOrTwo? rest
        if two ∧ both ∧ 1 ≤ month ∧ month ≤ 12 then ofDay? year month day rest else none
      else if isSeparator c then do
        let (month, _, rest) ← oneOrTwo? tail
        if 1 ≤ month ∧ month ≤ 12 then
          match rest with
          | [] => some ⟨year, month, 1, .midnight⟩
          | d :: tail =>
              if d = c then
                let (day, _, rest) ← oneOrTwo? tail
                ofDay? year month day rest
              else none
        else none
      else none

/-- Reads a whole text; white space may stand before it. -/
def read? (s : List Char) : Option Moment :=
  match s.dropWhile isSpace with
  | '-' :: s => do
      let (year, rest) ← someDigits? s
      afterYear? (-(year : Int)) rest
  | s => do
      let (year, rest) ← fourDigits? s
      afterYear? year rest

/-- Seconds since the start of 1970, by the clock of the moment. -/
def Moment.seconds (m : Moment) : Int :=
  86400 * (dayNumber m.year m.month m.day - dayNumber 1970 1 1) + m.clock.seconds

/-- The first digits of a fraction as a number of units. -/
def fractionUnits (places : Nat) (fraction : List Nat) : Nat :=
  ((fraction ++ List.replicate places 0).take places).foldl (fun n d => 10 * n + d) 0

/-- Whether a count can be stored in 64 bits; the lowest value stands for no time. -/
def fitsCount (n : Int) : Bool := decide (-(2 ^ (63 : Nat)) < n) && decide (n < 2 ^ (63 : Nat))

/-- Whether a moment can be stored, by its own clock and in universal time. It is counted in
millionths of a second, and in billionths when its fraction has more than six digits. -/
def Moment.isStorable (m : Moment) : Bool :=
  let places := if 6 < m.clock.fraction.length then 9 else 6
  let here := m.seconds * 10 ^ places + fractionUnits places m.clock.fraction
  fitsCount here && fitsCount (here - 60 * m.clock.offset * 10 ^ places)

end TableTalk.Calendar.Iso
