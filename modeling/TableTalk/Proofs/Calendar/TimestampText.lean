import TableTalk.Calendar.Timestamp
import TableTalk.Proofs.Calendar.Gregorian
import TableTalk.Proofs.Number.Decimal

/-! Timestamps from their text, with fields of fixed width. The text of a valid timestamp is read
as that timestamp, and an offset of zero is told from no offset. -/
namespace TableTalk.Calendar.Timestamp
open TableTalk.Number TableTalk.Text

/-- A day and a time of the calendar, and an offset of less than a day. -/
structure IsValid (t : Timestamp) : Prop where
  day : IsDay t.year t.month t.day
  time : IsTime t.hour t.minute t.second t.fraction
  offset : ∀ minutes ∈ t.offset, minutes.natAbs < 1440

/-- A number of exactly so many digits, and the rest. -/
def number? (width : Nat) (s : List Char) : Option (Nat × List Char) :=
  if (s.take width).length = width ∧ (s.take width).all isAsciiDigit = true then
    some (Nat.ofDigitChars 10 (s.take width) 0, s.drop width)
  else none

def skip? (mark : Char) : List Char → Option (List Char)
  | [] => none
  | c :: rest => if c = mark then some rest else none

def fraction? : List Char → Option (Nat × List Char)
  | '.' :: rest => number? 6 rest
  | s => some (0, s)

/-- The end of the text: no offset, or a sign with hours and minutes. -/
def offset? : List Char → Option (Option Int)
  | [] => some none
  | sign :: rest => do
      let (hours, rest) ← number? 2 rest
      let (minutes, rest) ← number? 2 (← skip? ':' rest)
      let east : Int := 60 * hours + minutes
      if rest ≠ [] ∨ 24 ≤ hours ∨ 60 ≤ minutes then none
      else if sign = '+' then some (some east)
      else if sign = '-' then some (some (-east))
      else none

def ofText? (s : List Char) : Option Timestamp := do
  let (year, s) ← number? 4 s
  let (month, s) ← number? 2 (← skip? '-' s)
  let (day, s) ← number? 2 (← skip? '-' s)
  let (hour, s) ← number? 2 (← skip? 'T' s)
  let (minute, s) ← number? 2 (← skip? ':' s)
  let (second, s) ← number? 2 (← skip? ':' s)
  let (fraction, s) ← fraction? s
  let offset ← offset? s
  if IsDay year month day ∧ IsTime hour minute second fraction then
    some ⟨year, month, day, hour, minute, second, fraction, offset⟩
  else none

theorem isAsciiDigit_of_mem_padded {width n : Nat} {c : Char} (h : c ∈ padded width n) :
    isAsciiDigit c = true := by
  rw [padded, padLeft, List.mem_append, List.mem_replicate] at h
  rcases h with ⟨-, rfl⟩ | h
  · decide
  · exact isAsciiDigit_of_isDigit (Nat.isDigit_of_mem_toDigits (by decide) (by decide) h)

theorem length_padded {width n : Nat} (hwidth : 0 < width) (h : n < 10 ^ width) :
    (padded width n).length = width := by
  have hdigits := (Nat.length_toDigits_le_iff (by decide) hwidth).mpr h
  rw [padded, padLeft, List.length_append, List.length_replicate]
  omega

theorem ofDigitChars_padded (width n : Nat) : Nat.ofDigitChars 10 (padded width n) 0 = n := by
  rw [padded, padLeft, Nat.ofDigitChars_append, Nat.ofDigitChars_replicate_zero, Nat.mul_zero,
    Nat.ofDigitChars_ten_toDigits]

theorem number?_padded {width n : Nat} (rest : List Char) (hwidth : 0 < width)
    (h : n < 10 ^ width) : number? width (padded width n ++ rest) = some (n, rest) := by
  have hlength := length_padded hwidth h
  have htake : (padded width n ++ rest).take width = padded width n := List.take_left' hlength
  have hdrop : (padded width n ++ rest).drop width = rest := List.drop_left' hlength
  have hdigits : (padded width n).all isAsciiDigit = true :=
    List.all_eq_true.mpr fun c hc => isAsciiDigit_of_mem_padded hc
  rw [number?, htake, hdrop, if_pos ⟨hlength, hdigits⟩, ofDigitChars_padded]

theorem number?_two {n : Nat} (rest : List Char) (h : n < 100) :
    number? 2 (padded 2 n ++ rest) = some (n, rest) :=
  number?_padded rest (by decide) h

theorem skip?_cons (mark : Char) (rest : List Char) : skip? mark (mark :: rest) = some rest :=
  if_pos rfl

theorem offset?_offsetText {minutes : Int} (h : minutes.natAbs < 1440) :
    offset? (offsetText minutes) = some (some minutes) := by
  have hhours := number?_two (':' :: (padded 2 (minutes.natAbs % 60) ++ []))
    (show minutes.natAbs / 60 < 100 by omega)
  have hminutes := number?_two [] (show minutes.natAbs % 60 < 100 by omega)
  rw [List.append_nil] at hhours
  simp only [offsetText, offset?, hhours, skip?_cons, Option.bind_eq_bind, Option.bind_some]
  rw [List.append_nil] at hminutes
  simp only [hminutes, Option.bind_some]
  rw [if_neg (by simp; omega)]
  split
  · simp only [Char.reduceEq, if_false, if_true]
    congr 2
    omega
  · simp only [if_true]
    congr 2
    omega

/-- What follows the seconds does not begin with a digit or a point unless it is a fraction. -/
theorem fraction?_fractionText {fraction : Nat} {rest : List Char} (h : fraction < 1000000)
    (hrest : ∀ c ∈ rest.head?, c ≠ '.') :
    fraction? (fractionText fraction ++ rest) = some (fraction, rest) := by
  unfold fractionText
  split
  case isTrue hzero =>
    subst hzero
    cases rest with
    | nil => rfl
    | cons c rest =>
      have hc : c ≠ '.' := hrest c rfl
      simp [fraction?, hc]
  case isFalse => exact number?_padded rest (by decide) h

theorem offsetText_head (minutes : Int) : ∀ c ∈ (offsetText minutes).head?, c ≠ '.' := by
  intro c hc
  rw [offsetText, List.head?_cons, Option.mem_def, Option.some_inj] at hc
  subst hc
  split <;> decide

/-- The text of a valid timestamp denotes it. -/
theorem ofText?_toText {t : Timestamp} (h : t.IsValid) : ofText? t.toText.toList = some t := by
  obtain ⟨⟨hyear, hyear', hday, hday'⟩, ⟨hhour, hminute, hsecond, hfraction⟩, hoffset⟩ := h
  obtain ⟨hmonth, hmonth'⟩ := IsDay.month_le ⟨hyear, hyear', hday, hday'⟩
  have hdays := daysInMonth_le t.year t.month
  have hyears (rest : List Char) : number? 4 (padded 4 t.year ++ rest) = some (t.year, rest) :=
    number?_padded rest (by decide) (by omega)
  have htail (rest : List Char) (offset : Option Int) (hhead : ∀ c ∈ rest.head?, c ≠ '.')
      (hrest : offset? rest = some offset) :
      ofText? (t.localText ++ rest) = some { t with offset } := by
    simp only [ofText?, localText, List.append_assoc, List.cons_append, hyears, skip?_cons,
      number?_two _ (show t.month < 100 by omega), number?_two _ (show t.day < 100 by omega),
      number?_two _ (show t.hour < 100 by omega), number?_two _ (show t.minute < 100 by omega),
      number?_two _ (show t.second < 100 by omega), fraction?_fractionText hfraction hhead, hrest,
      Option.bind_eq_bind, Option.bind_some]
    rw [if_pos ⟨⟨hyear, hyear', hday, hday'⟩, hhour, hminute, hsecond, hfraction⟩]
  obtain ⟨year, month, day, hour, minute, second, fraction, offset⟩ := t
  rw [toText, String.toList_ofList]
  cases offset with
  | none => exact htail [] none (by simp) rfl
  | some minutes =>
    exact htail _ _ (offsetText_head minutes) (offset?_offsetText (hoffset minutes rfl))

end TableTalk.Calendar.Timestamp
