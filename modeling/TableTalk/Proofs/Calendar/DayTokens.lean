import TableTalk.Proofs.Calendar.DayText
import TableTalk.Proofs.Text.LowerCase

/-! Days in free form. A text of numbers with dashes between is cut up at the dashes; no number is
taken for a word; and the first number, as it has four digits, is the year. So month and day keep
their places, and the text is a date only if the calendar has the day. -/
namespace TableTalk.Calendar
open TableTalk.Number TableTalk.Text
open Timestamp (padded length_padded ofDigitChars_padded)

variable {c : Char} {token : Token} {words : List String} {digits : List Char}
  {year month day width n : Nat}

theorem lowered_digits (h : ∀ d ∈ token, isAsciiDigit d = true) :
    lowered token = String.ofList token := by
  have hsmall : ∀ d ∈ token, IsSmall d := fun d hd =>
    of_isAsciiDigit (p := IsSmall) (by decide +kernel) (h d hd)
  rw [lowered, lower_eq_self hsmall]

/-- A number is none of the words that begin otherwise. -/
theorem lowered_digits_notMem (hwords : ∀ word ∈ words, word.toList.head?.any isAsciiDigit = false)
    (hne : token ≠ []) (h : ∀ d ∈ token, isAsciiDigit d = true) : lowered token ∉ words := by
  intro hmem
  obtain ⟨c, rest, rfl⟩ := List.exists_cons_of_ne_nil hne
  have hhead := hwords _ hmem
  rw [lowered_digits h, String.toList_ofList, List.head?_cons, Option.any_some,
    h c List.mem_cons_self] at hhead
  cases hhead

theorem isConnective_digits (hne : token ≠ []) (h : ∀ d ∈ token, isAsciiDigit d = true) :
    isConnective token = false := by
  have hword : lowered token ∉ connectives := lowered_digits_notMem (by decide) hne h
  rw [isConnective, List.contains_eq_mem, decide_eq_false hword]

theorem month?_digits (hne : token ≠ []) (h : ∀ d ∈ token, isAsciiDigit d = true) :
    month? token = none := by
  have hgroups : ∀ group ∈ months, ∀ word ∈ group,
      word.toList.head?.any isAsciiDigit = false := by decide
  have hnone : groupOf? months token = none := by
    rw [groupOf?, List.findIdx?_eq_none_iff]
    intro group hgroup
    have hword : lowered token ∉ group := lowered_digits_notMem (hgroups group hgroup) hne h
    rw [List.contains_eq_mem, decide_eq_false hword]
  rw [month?, hnone, Option.map_none]

theorem isDigitMark_of_isAsciiDigit (h : isAsciiDigit c = true) : isDigitMark c = true := by
  rw [isDigitMark, isDigit_of_isAsciiDigit h, Bool.true_or]

theorem openWith_digit (h : isAsciiDigit c = true) :
    openWith c = .inl ⟨.number, [c], false⟩ := by
  have hletter : isLetter c = false :=
    of_isAsciiDigit (p := fun c => isLetter c = false) (by decide +kernel) h
  simp [openWith, hletter, isDigitMark_of_isAsciiDigit h]

/-- Digits go on with the number that has been opened. -/
theorem tokensFrom_digits (h : ∀ d ∈ digits, isAsciiDigit d = true) (reversed rest : List Char) :
    tokensFrom (some ⟨.number, reversed, false⟩) (digits ++ rest) =
      tokensFrom (some ⟨.number, digits.reverse ++ reversed, false⟩) rest := by
  induction digits generalizing reversed with
  | nil => rfl
  | cons c digits ih =>
    rw [List.forall_mem_cons] at h
    simp only [List.cons_append, tokensFrom, OpenToken.extend?, isDigitMark_of_isAsciiDigit h.1,
      if_true]
    rw [ih h.2, List.reverse_cons, List.append_assoc, List.singleton_append]

theorem tokensFrom_number (hne : digits ≠ []) (h : ∀ d ∈ digits, isAsciiDigit d = true) :
    tokensFrom none digits = [digits] := by
  obtain ⟨c, others, rfl⟩ := List.exists_cons_of_ne_nil hne
  rw [List.forall_mem_cons] at h
  have hothers := tokensFrom_digits h.2 [c] []
  rw [List.append_nil] at hothers
  simp [tokensFrom, openWith_digit h.1, hothers, OpenToken.close]

theorem tokensFrom_number_dash (hne : digits ≠ []) (h : ∀ d ∈ digits, isAsciiDigit d = true)
    (rest : List Char) :
    tokensFrom none (digits ++ '-' :: rest) = digits :: ['-'] :: tokensFrom none rest := by
  obtain ⟨c, others, rfl⟩ := List.exists_cons_of_ne_nil hne
  rw [List.forall_mem_cons] at h
  have hothers := tokensFrom_digits h.2 [c] ('-' :: rest)
  have hmark : isDigitMark '-' = false := by decide +kernel
  have hdash : openWith '-' = .inr ['-'] := by decide +kernel
  simp [tokensFrom, openWith_digit h.1, hothers, OpenToken.close, OpenToken.extend?, hmark, hdash]

theorem padded_ne_nil (hwidth : 0 < width) (h : n < 10 ^ width) : padded width n ≠ [] :=
  List.ne_nil_of_length_pos (by rwa [length_padded hwidth h])

theorem tokens_dayText (hyear : year < 10000) (hmonth : month < 100) (hday : day < 100) :
    tokens (dayText year month day) =
      [padded 4 year, ['-'], padded 2 month, ['-'], padded 2 day] := by
  have hkept : (dayText year month day).filter (fun c => c.toNat != 0) =
      dayText year month day := by
    have hvisible : ∀ c ∈ dayText year month day, (c.toNat != 0) = true :=
      of_mem_dayText (by decide) (by decide)
    exact List.filter_eq_self.mpr hvisible
  rw [tokens, hkept, dayText,
    tokensFrom_number_dash (padded_ne_nil (by decide) hyear) (padded_digits 4 year),
    tokensFrom_number_dash (padded_ne_nil (by decide) hmonth) (padded_digits 2 month),
    tokensFrom_number (padded_ne_nil (by decide) hday) (padded_digits 2 day)]

namespace FreeForm

theorem spanDigits_padded (width n : Nat) :
    spanDigits (padded width n) = ((padded width n).map fun c => c.toNat - 48, []) :=
  spanDigits_ascii (padded_digits width n)

theorem ofDigits_padded (width n : Nat) :
    ofDigits ((padded width n).map fun c => c.toNat - 48) = n := by
  rw [ofDigits, List.foldl_map]
  exact ofDigitChars_padded width n

theorem amount?_padded (hwidth : 0 < width) (h : n < 10 ^ width) :
    amount? (padded width n) = some ⟨n, []⟩ := by
  have hspan := spanDigits_padded width n
  have hvalue := ofDigits_padded width n
  obtain ⟨c, rest, htext⟩ := List.exists_cons_of_ne_nil (padded_ne_nil hwidth h)
  rw [htext, List.map_cons] at hvalue hspan
  rw [amount?, htext, hspan]
  simp only [hvalue]

theorem natural?_padded (hwidth : 0 < width) (hlimit : width ≤ digitLimit) (h : n < 10 ^ width) :
    natural? (padded width n) = some n := by
  have hspan := spanDigits_padded width n
  have hvalue := ofDigits_padded width n
  have hshort : ¬ digitLimit < ((padded width n).map fun c => c.toNat - 48).length := by
    rw [List.length_map, length_padded hwidth h]
    omega
  obtain ⟨c, rest, htext⟩ := List.exists_cons_of_ne_nil (padded_ne_nil hwidth h)
  rw [htext, List.map_cons] at hvalue hspan hshort
  rw [natural?, htext, hspan]
  simp only [hvalue, hshort, if_false]

/-- What is read of a day: three candidates, the first of which is the year. -/
def dayReading (year month day : Nat) : Reading :=
  { Reading.empty with values := [year, month, day], yearAt := some 0, century := true }

theorem datePart?_dayText (hyear : year < 10000) (hmonth : month < 100) (hday : day < 100) :
    datePart? .empty (padded 4 year) ['-'] [padded 2 month, ['-'], padded 2 day] =
      some (dayReading year month day, 4) := by
  have hsizes : (padded 4 year).length = 4 ∧ (padded 2 month).length = 2 ∧
      (padded 2 day).length = 2 :=
    ⟨length_padded (by decide) hyear, length_padded (by decide) hmonth,
      length_padded (by decide) hday⟩
  have hvalues : natural? (padded 4 year) = some year ∧ natural? (padded 2 month) = some month ∧
      natural? (padded 2 day) = some day :=
    ⟨natural?_padded (by decide) (by decide) hyear, natural?_padded (by decide) (by decide) hmonth,
      natural?_padded (by decide) (by decide) hday⟩
  have hconnective : isConnective (padded 2 month) = false :=
    isConnective_digits (padded_ne_nil (by decide) hmonth) (padded_digits 2 month)
  have hmarks : (padded 2 month).all isDigitMark = true :=
    List.all_eq_true.mpr fun d hd => isDigitMark_of_isAsciiDigit (padded_digits 2 month d hd)
  have hname : month? (padded 2 day) = none :=
    month?_digits (padded_ne_nil (by decide) hday) (padded_digits 2 day)
  simp [datePart?, Reading.pushDigits?, Reading.pushYear?, Reading.push, Reading.empty, dayReading,
    hsizes, hvalues, hconnective, hmarks, hname]

theorem unitFor?_dash (rest : List Token) : unitFor? [] (['-'] :: rest) = none := by
  have hdash : clockUnit? ['-'] = none := by decide +kernel
  simp [unitFor?, hdash]

/-- One step takes up the whole text: a number and a dash, twice, and a third number. -/
theorem step?_dayText (hyear : year < 10000) (hmonth : month < 100) (hday : day < 100) :
    step? .empty [] (padded 4 year) [['-'], padded 2 month, ['-'], padded 2 day] =
      some (dayReading year month day, 4) := by
  have hsize : (padded 4 year).length = 4 := length_padded (by decide) hyear
  have hfew : Reading.empty.values.length ≠ 3 := by decide
  rw [step?, amount?_padded (by decide) hyear]
  simp [readAmount?, isDateMark, hsize, hfew, unitFor?_dash, datePart?_dayText hyear hmonth hday]

theorem scan?_dayText (hyear : year < 10000) (hmonth : month < 100) (hday : day < 100) :
    scan? .empty [] (tokens (dayText year month day)) = some (dayReading year month day) := by
  rw [tokens_dayText hyear hmonth hday, scan?, step?_dayText hyear hmonth hday]
  simp [scan?, dayReading]

theorem isDate_dayText (hyear : year < 10000) (hmonth : month < 100) (hday : day < 100) :
    isDate (dayText year month day) = decide (IsDay year month day) := by
  rw [isDate, scan?_dayText hyear hmonth hday]
  simp [dayReading, Reading.parts?, Reading.empty, Reading.saysSomething, Reading.fullYear,
    Reading.hasZone, IsTime]

end FreeForm

theorem ofText?_dayText (hyear : year < 10000) :
    ofText? (dayText year month day) = .ok none := by
  obtain ⟨a, b, c, d, htext, hdigits, -⟩ := exists_padded_four hyear
  have hblank : ∀ c ∈ dayText year month day, isBlank c = false :=
    of_mem_dayText (by decide) (by decide)
  have hunderscore : ∀ c ∈ dayText year month day, c ≠ '_' :=
    of_mem_dayText (by decide) (by decide)
  rw [dayText, htext] at hblank hunderscore ⊢
  exact ofText?_dashed (List.all_eq_true.mp hdigits) hblank fun hmem => hunderscore _ hmem rfl

/-- By whatever form it is read, a text of a day is a date exactly if the calendar has the day. -/
theorem denotesDate_dayText (hyear : 1000 ≤ year) (hyear' : year < 10000) (hmonth : month < 100)
    (hday : day < 100) :
    denotesDate (dayText year month day) = decide (IsDay year month day) := by
  have hzero : ∀ c ∈ dayText year month day, (c.toNat == 0) = false :=
    of_mem_dayText (by decide) (by decide)
  rw [denotesDate, reverse_dropWhile_reverse_eq_self hzero,
    Iso.read?_dayText hyear hyear' hmonth hday]
  by_cases hreal : IsDay year month day
  · simp [hreal, isStorable_midnight hreal]
  · -- Without such a day the other forms have their turn, and only the free form takes it up.
    simp [hreal, isWrittenDate, isDelimited?_dayText hyear' hmonth hday,
      isAbbreviated?_dayText hyear' hmonth hday, FreeForm.isDate_dayText hyear' hmonth hday]

theorem isDateText_dayText (hyear : 1000 ≤ year) (hyear' : year < 10000) (hmonth : month < 100)
    (hday : day < 100) :
    isDateText (dayText year month day) = decide (IsDay year month day) := by
  have hdigit : (dayText year month day).any isDigit = true := by
    obtain ⟨a, b, c, d, htext, hdigits, -⟩ := exists_padded_four hyear'
    have ha : isAsciiDigit a = true := List.all_eq_true.mp hdigits a List.mem_cons_self
    rw [dayText, htext]
    simp [isDigit_of_isAsciiDigit ha]
  rw [isDateText, hdigit, denotesDate_dayText hyear hyear' hmonth hday, Bool.true_and]

end TableTalk.Calendar
