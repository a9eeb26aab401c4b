/-! Days of the Gregorian calendar: the lengths of its months, the days from year 1 to year 9999,
and a count of days that runs through all years. -/
namespace TableTalk.Calendar

def isLeap (year : Nat) : Bool :=
  (year % 4 == 0) && (year % 100 != 0 || year % 400 == 0)

/-- The length of a month, zero for a month that does not exist. -/
def daysInMonth (year month : Nat) : Nat :=
  if month = 2 then if isLeap year then 29 else 28
  else if month = 4 ∨ month = 6 ∨ month = 9 ∨ month = 11 then 30
  else if 1 ≤ month ∧ month ≤ 12 then 31
  else 0

/-- The number of days before a year, counted from the start of year 0. -/
def daysBeforeYear (year : Int) : Int :=
  365 * year + (year + 3) / 4 - (year + 99) / 100 + (year + 399) / 400

/-- The position of a day among all days. -/
def dayNumber (year : Int) (month day : Nat) : Int :=
  daysBeforeYear year +
    ((List.range month).foldl (fun n m => n + daysInMonth year.natAbs m) 0 + day : Nat)

/-- Whether the calendar has this day. -/
def IsDay (year month day : Nat) : Prop :=
  1 ≤ year ∧ year ≤ 9999 ∧ 1 ≤ day ∧ day ≤ daysInMonth year month

instance (year month day : Nat) : Decidable (IsDay year month day) := by
  unfold IsDay
  infer_instance

/-- Whether a day has this time; fractions count millionths of a second. -/
def IsTime (hour minute second fraction : Nat) : Prop :=
  hour < 24 ∧ minute < 60 ∧ second < 60 ∧ fraction < 1000000

instance (hour minute second fraction : Nat) : Decidable (IsTime hour minute second fraction) := by
  unfold IsTime
  infer_instance

theorem IsDay.month_le {year month day : Nat} (h : IsDay year month day) :
    1 ≤ month ∧ month ≤ 12 := by
  obtain ⟨-, -, h1, h2⟩ := h
  unfold daysInMonth at h2
  split at h2 <;> try omega
  split at h2 <;> try omega
  split at h2 <;> omega

end TableTalk.Calendar
