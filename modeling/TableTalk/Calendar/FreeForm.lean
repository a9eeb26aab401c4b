import TableTalk.Calendar.Date
import TableTalk.Calendar.Token
import TableTalk.Number.Integer

/-! Dates and times in free form, read token by token. Numbers are gathered as candidates for
year, month and day, and told apart at the end; clock times, halves of the day, units and zones
are taken as they come; a token that fits nowhere refuses the whole text. -/
namespace TableTalk.Calendar.FreeForm
open TableTalk.Text TableTalk.Number CorePowers

/-- What has been read so far. -/
structure Reading where
  /-- Candidates for year, month and day, in order. -/
  values : List Nat
  yearAt : Option Nat
  monthAt : Option Nat
  /-- Whether the year shows its century. -/
  century : Bool
  hour : Option Nat
  minute : Option Nat
  second : Option Nat
  fraction : Option Nat
  zoneName : Option Token
  /-- Seconds east of universal time. -/
  offset : Option Int
  /-- A sign right after a zone name counts the other way. -/
  signReversed : Bool
  sawWeekday : Bool
  deriving DecidableEq, Repr

def Reading.empty : Reading :=
  ⟨[], none, none, false, none, none, none, none, none, none, false, false⟩

/-- A number token: the digits before and after its point. -/
structure Amount where
  whole : Nat
  fraction : List Nat
  deriving DecidableEq, Repr

def amount? (token : Token) : Option Amount :=
  match spanDigits token with
  | ([], _) => none
  | (digits, []) => some ⟨ofDigits digits, []⟩
  | (digits, '.' :: rest) =>
      match spanDigits rest with
      | (fraction, []) => some ⟨ofDigits digits, fraction⟩
      | _ => none
  | _ => none

/-- The value of a token of decimal digits. -/
def natural? (token : Token) : Option Nat :=
  match spanDigits token with
  | ([], _) => none
  | (digits, []) => if digitLimit < digits.length then none else some (ofDigits digits)
  | _ => none

/-- Sixty times the fraction of an amount, rounded down; none when the fraction is zero. -/
def Amount.sixtieths? (a : Amount) : Option Nat :=
  if ofDigits a.fraction = 0 then none
  else some (60 * ofDigits a.fraction / 10 ^ a.fraction.length)

def Reading.push (r : Reading) (value : Nat) : Reading := { r with values := r.values ++ [value] }

/-- Adds a candidate known to be the year, of which there is one at most. -/
def Reading.pushYear? (r : Reading) (value : Nat) : Option Reading :=
  if r.yearAt.isSome then none
  else some { r.push value with yearAt := some r.values.length, century := true }

def Reading.pushMonth? (r : Reading) (value : Nat) : Option Reading :=
  if r.monthAt.isSome then none else some { r.push value with monthAt := some r.values.length }

/-- Adds a digit token; three or more digits make it the year. -/
def Reading.pushDigits? (r : Reading) (token : Token) : Option Reading := do
  let value ← natural? token
  if 2 < token.length then r.pushYear? value else some (r.push value)

/-- Adds an amount; above one hundred it is the year. -/
def Reading.pushAmount? (r : Reading) (a : Amount) : Option Reading :=
  if 100 < a.whole ∨ (a.whole = 100 ∧ ofDigits a.fraction ≠ 0) then r.pushYear? a.whole
  else some (r.push a.whole)

/-- The longest month that the candidates allow; a year not known yet counts as a leap year. -/
def Reading.longestMonth (r : Reading) : Nat :=
  match r.monthAt with
  | none => 31
  | some m =>
      let month := r.values.getD m 0
      match r.yearAt with
      | none => daysInMonth 2000 month
      | some y => daysInMonth (r.values.getD y 0) month

def Reading.couldBeDay (r : Reading) (a : Amount) : Bool :=
  decide (1 ≤ a.whole) && (decide (a.whole < r.longestMonth) ||
    (a.whole == r.longestMonth && ofDigits a.fraction == 0))

/-- The hour of the day from an hour of the given half. -/
def hourInHalf (hour half : Nat) : Nat :=
  if hour < 12 ∧ half = 1 then hour + 12 else if hour = 12 ∧ half = 0 then 0 else hour

def isZoneName (token : Token) : Bool :=
  decide (token.length ≤ 5) && (token.all isAsciiCapital || token == ['z'])

def Reading.expectsZone (r : Reading) : Bool :=
  r.hour.isSome && r.zoneName.isNone && r.offset.isNone

/-- Seconds with millionths, from a token such as 05 or 05.25. -/
def Reading.withSeconds? (r : Reading) (token : Token) : Option Reading :=
  if token.contains '.' then do
    let whole ← natural? (token.takeWhile (· != '.'))
    let rest := (token.dropWhile (· != '.')).drop 1
    let fraction ← natural? ((rest ++ List.replicate (6 - rest.length) '0').take 6)
    if rest.contains '.' then none
    else some { r with second := some whole, fraction := some fraction }
  else do
    let whole ← natural? token
    some { r with second := some whole, fraction := some 0 }

def Reading.withMinutes (r : Reading) (a : Amount) : Reading :=
  { r with minute := some a.whole, second := a.sixtieths? }

/-- The unit that belongs to a number: the one after it, perhaps over a space, or else the next
smaller one than the unit before it. Also how many tokens after the number are taken up. -/
def unitFor? (before after : List Token) : Option (Nat × Nat) :=
  let next := after.head?.bind clockUnit?
  let overSpace := match after with
    | [' '] :: token :: _ => clockUnit? token
    | _ => none
  let previous := before.head?.bind clockUnit?
  let previousOverSpace := match before, after with
    | [' '] :: token :: _, [] => clockUnit? token
    | _, _ => none
  match next, overSpace, previous, previousOverSpace with
  | some unit, _, _, _ => some (unit, 1)
  | none, some unit, _, _ => some (unit, 2)
  | none, none, some unit, _ => some (unit + 1, 0)
  | none, none, none, some unit => some (unit + 1, 0)
  | none, none, none, none => none

def Reading.withUnit? (r : Reading) (token : Token) (a : Amount) : Nat → Option Reading
  | 0 =>
      some { r with hour := some a.whole, minute := a.sixtieths?.or r.minute }
  | 1 => some (r.withMinutes a)
  | 2 => r.withSeconds? token
  | _ => some r

def isDateMark (token : Token) : Bool := token == ['-'] || token == ['/'] || token == ['.']

/-- A number followed by a date mark: up to two more parts of a date, the second after the same
mark. -/
def datePart? (r : Reading) (token mark : Token) (after : List Token) : Option (Reading × Nat) := do
  let r ← r.pushDigits? token
  match after with
  | [] => some (r, 1)
  | second :: rest =>
      if isConnective second then some (r, 1)
      else do
        let r ← if second.all isDigitMark then r.pushDigits? second
                else (month? second).bind r.pushMonth?
        match rest with
        | again :: rest =>
            if again = mark then
              match rest with
              | [] => none
              | third :: _ =>
                  let r ← match month? third with
                    | some month => r.pushMonth? month
                    | none => r.pushDigits? third
                  some (r, 4)
            else some (r, 2)
        | [] => some (r, 2)

/-- Reads a number token; also how many tokens after it are taken up. -/
def readAmount? (r : Reading) (before : List Token) (token : Token) (a : Amount)
    (after : List Token) : Option (Reading × Nat) :=
  let size := token.length
  let next := after.headD []
  if r.values.length = 3 ∧ (size = 2 ∨ size = 4) ∧ r.hour = none ∧
      (after.isEmpty ∨ (next ≠ [':'] ∧ clockUnit? next = none)) then do
    let r := { r with hour := some (← natural? (token.take 2)) }
    if size = 4 then some ({ r with minute := some (← natural? (token.drop 2)) }, 0)
    else some (r, 0)
  else if size = 6 ∨ (6 < size ∧ token.idxOf '.' = 6) then
    if r.values.isEmpty ∧ ¬ token.contains '.' then do
      let r ← r.pushDigits? (token.take 2)
      let r ← r.pushDigits? ((token.drop 2).take 2)
      return (← r.pushDigits? (token.drop 4), 0)
    else do
      let r := { r with hour := some (← natural? (token.take 2)),
                        minute := some (← natural? ((token.drop 2).take 2)) }
      return (← r.withSeconds? (token.drop 4), 0)
  else if size = 8 ∨ size = 12 ∨ size = 14 then do
    let r ← r.pushDigits? (token.take 4)
    let r ← r.pushDigits? ((token.drop 4).take 2)
    let r ← r.pushDigits? ((token.drop 6).take 2)
    if size = 8 then some (r, 0)
    else do
      let r := { r with hour := some (← natural? ((token.drop 8).take 2)),
                        minute := some (← natural? ((token.drop 10).take 2)) }
      if size = 12 then some (r, 0)
      else some ({ r with second := some (← natural? (token.drop 12)) }, 0)
  else match unitFor? before after with
  | some (unit, taken) => return (← r.withUnit? token a unit, taken)
  | none =>
      match after with
      | [':'] :: minutes :: rest => do
          let r := { r with hour := some a.whole }.withMinutes (← amount? minutes)
          match rest with
          | [':'] :: seconds :: _ => return (← r.withSeconds? seconds, 4)
          | _ => some (r, 2)
      | _ =>
          if isDateMark next then datePart? r token next (after.drop 1)
          else if after.isEmpty ∨ isConnective next then
            match after with
            | _ :: half :: _ =>
                match dayHalf? half with
                | some half => some ({ r with hour := some (hourInHalf a.whole half) }, 2)
                | none => return (← r.pushAmount? a, 1)
            | _ => return (← r.pushAmount? a, 1)
          else match dayHalf? next with
          | some half =>
              if a.whole < 24 then some ({ r with hour := some (hourInHalf a.whole half) }, 1)
              else if r.couldBeDay a then return (← r.pushAmount? a, 0)
              else none
          | none => if r.couldBeDay a then return (← r.pushAmount? a, 0) else none

/-- Reads a month name, and with it a day or year that a date mark or "of" ties to it. -/
def readMonth? (r : Reading) (month : Nat) (after : List Token) : Option (Reading × Nat) := do
  let r ← r.pushMonth? month
  match after with
  | [] => some (r, 0)
  | mark :: rest =>
      if mark = ['-'] ∨ mark = ['/'] then
        match rest with
        | [] => none
        | second :: rest => do
            let r ← r.pushDigits? second
            match rest with
            | again :: rest =>
                if again = mark then
                  match rest with
                  | [] => none
                  | third :: _ => return (← r.pushDigits? third, 4)
                else some (r, 2)
            | [] => some (r, 2)
      else match mark, rest with
      | [' '], word :: [' '] :: year :: _ =>
          if isOf word then
            if year.all isDigitMark then do
              let value ← natural? year
              return (← r.pushYear? (if value < 100 then 2000 + value else value), 4)
            else some (r, 4)
          else some (r, 0)
      | _, _ => some (r, 0)

/-- Reads a zone name; a sign after it takes its place. -/
def readZone (r : Reading) (token : Token) (after : List Token) : Reading :=
  let next := after.headD []
  if next = ['+'] ∨ next = ['-'] then
    { r with zoneName := if isUniversal token then none else some token, offset := none,
             signReversed := true }
  else { r with zoneName := some token, offset := if token = ['z'] then some 0 else none }

/-- Reads an offset such as +0530, +05:30 or +5, with the zone name that may stand after it in
parentheses. -/
def readOffset? (r : Reading) (negative : Bool) (after : List Token) : Option (Reading × Nat) := do
  let first ← after.head?
  let (hours, minutes, taken) ←
    if first.length = 4 then
      some (← natural? (first.take 2), ← natural? (first.drop 2), 1)
    else match after.drop 1 with
      | [':'] :: rest => some (← natural? first, ← natural? (← rest.head?), 3)
      | _ => if first.length ≤ 2 then some (← natural? first, 0, 1) else none
  let seconds := signed (negative != r.signReversed) (hours * 3600 + minutes * 60)
  let r := { r with offset := some seconds, signReversed := false }
  match after.drop taken with
  | space :: ['('] :: name :: [')'] :: _ =>
      if isConnective space ∧ 3 ≤ name.length ∧ r.zoneName = none ∧ isZoneName name then
        some ({ r with zoneName := some name }, taken + 4)
      else some (r, taken)
  | _ => some (r, taken)

/-- Words that are number texts elsewhere and are never part of a date. -/
def isNumberWord (token : Token) : Bool := ["nan", "inf", "infinity"].contains (lowered token)

/-- Reads one token between those before it, nearest first, and those after it; also how many
of the latter are taken up. -/
def step? (r : Reading) (before : List Token) (token : Token) (after : List Token) :
    Option (Reading × Nat) :=
  match amount? token with
  | some a => readAmount? r before token a after
  | none =>
      if isNumberWord token then none
      else if isWeekday token then some ({ r with sawWeekday := true }, 0)
      else match month? token with
      | some month => readMonth? r month after
      | none =>
          match dayHalf? token with
          | some half =>
              match r.hour with
              | some hour =>
                  if hour ≤ 12 then some ({ r with hour := some (hourInHalf hour half) }, 0)
                  else none
              | none => none
          | none =>
              if r.expectsZone && isZoneName token then some (readZone r token after, 0)
              else if r.hour.isSome ∧ (token = ['+'] ∨ token = ['-']) then
                readOffset? r (token == ['-']) after
              else if isConnective token then some (r, 0)
              else none

/-- Reads all tokens in order; more than three candidates are too many. -/
def scan? (r : Reading) (before : List Token) : List Token → Option Reading
  | [] => some r
  | token :: after =>
      match step? r before token after with
      | none => none
      | some (r, taken) =>
          if 3 < r.values.length then none
          else scan? r ((after.take taken).reverse ++ token :: before) (after.drop taken)
termination_by rest => rest.length
decreasing_by simp only [List.length_drop, List.length_cons]; omega

/-- Year, month and day, as far as they are given. -/
structure Parts where
  year : Option Nat
  month : Option Nat
  day : Option Nat
  deriving DecidableEq, Repr

/-- A lone number beside a month: above 31 it is a year. -/
def yearOrDay (value : Nat) (month : Option Nat) : Parts :=
  if 31 < value then ⟨some value, month, none⟩ else ⟨none, month, some value⟩

/-- The index left by two of the three. -/
def thirdIndex (i j : Nat) : Nat := 3 - i - j

/-- Tells the candidates apart: by what is known of them, then by size, then in the order month,
day, year. -/
def Reading.parts? (r : Reading) : Option Parts :=
  match r.values, r.yearAt, r.monthAt with
  | [], _, _ => some ⟨none, none, none⟩
  | [a], some _, none => some ⟨some a, none, none⟩
  | [a], none, some _ => some ⟨none, some a, none⟩
  | [a], none, none => some (yearOrDay a none)
  | [a, b], some y, some _ =>
      some (if y = 0 then ⟨some a, some b, none⟩ else ⟨some b, some a, none⟩)
  | [a, b], none, some m => some (if m = 0 then yearOrDay b (some a) else yearOrDay a (some b))
  | [a, b], _, none =>
      some (if 31 < a then ⟨some a, some b, none⟩
        else if 31 < b then ⟨some b, some a, none⟩
        else ⟨none, some a, some b⟩)
  | [a, b, c], some y, some m =>
      let value (i : Nat) : Nat := [a, b, c].getD i 0
      some ⟨some (value y), some (value m), some (value (thirdIndex y m))⟩
  | [a, b, c], _, some 0 =>
      some (if 31 < b then ⟨some b, some a, some c⟩ else ⟨some c, some a, some b⟩)
  | [a, b, c], _, some 1 =>
      some (if 31 < a then ⟨some a, some b, some c⟩ else ⟨some c, some b, some a⟩)
  | [a, b, c], _, some _ =>
      some (if 31 < b then ⟨some b, some c, some a⟩ else ⟨some a, some c, some b⟩)
  | [a, b, c], y, none =>
      some (if 31 < a ∨ y = some 0 then ⟨some a, some b, some c⟩
        else if 12 < a then ⟨some c, some b, some a⟩
        else ⟨some c, some a, some b⟩)
  | _, _, _ => none

/-- Two-digit years are years of this century. -/
def Reading.fullYear (r : Reading) (year : Nat) : Nat :=
  if year < 100 ∧ ¬ r.century then 2000 + year else year

/-- Whether anything of a date or a time was said. -/
def Reading.saysSomething (r : Reading) (parts : Parts) : Bool :=
  parts.year.isSome || parts.month.isSome || parts.day.isSome || r.hour.isSome ||
    r.minute.isSome || r.second.isSome || r.fraction.isSome

/-- Whether the zone is usable: universal time, or an offset of less than a day. A zone known by
its name alone is not. -/
def Reading.hasZone (r : Reading) : Bool :=
  match r.zoneName, r.offset with
  | none, none => true
  | _, some seconds => r.zoneName.any isUniversal || decide (seconds.natAbs < 86400)
  | some name, none => isUniversal name

/-- Whether a text is a date or time that exists. What it leaves out is January, the first day,
a common year and midnight. A weekday needs a day of the month beside it. -/
def isDate (s : List Char) : Bool :=
  match scan? Reading.empty [] (tokens s) with
  | none => false
  | some r =>
      match r.parts? with
      | none => false
      | some parts =>
          r.saysSomething parts && !(r.sawWeekday && parts.day.isNone) &&
          decide (IsDay ((parts.year.map r.fullYear).getD 1) (parts.month.getD 1)
            (parts.day.getD 1)) &&
          decide (IsTime (r.hour.getD 0) (r.minute.getD 0) (r.second.getD 0)
            (r.fraction.getD 0)) &&
          r.hasZone

end TableTalk.Calendar.FreeForm
