import TableTalk.Calendar.Recognition
import TableTalk.Proofs.Calendar.TimestampText
import TableTalk.Proofs.Number.Literal

/-! Days written from the year down, with dashes between. The machine form reads such a text
exactly if the calendar has the day; the forms with the year last and the abbreviations do not take
it up in any case. -/
namespace TableTalk.Calendar
open TableTalk.Number TableTalk.Text
open Timestamp (padded isAsciiDigit_of_mem_padded length_padded ofDigitChars_padded)

variable {year month day n : Nat} {c : Char}

theorem padded_digits (width n : Nat) : ∀ c ∈ padded width n, isAsciiDigit c = true :=
  fun _ => isAsciiDigit_of_mem_padded

/-- A day with four digits for the year, and two for the month and the day. -/
def dayText (year month day : Nat) : List Char :=
  padded 4 year ++ '-' :: (padded 2 month ++ '-' :: padded 2 day)

/-- What holds of the ten digits and of the dash holds of each character in the text of a day. -/
theorem of_mem_dayText {p : Char → Prop} (hdigits : ∀ d < 10, p (Nat.digitChar d)) (hdash : p '-') :
    ∀ c ∈ dayText year month day, p c := by
  have hpadded (width n : Nat) : ∀ c ∈ padded width n, p c := fun _ hc =>
    of_isAsciiDigit hdigits (isAsciiDigit_of_mem_padded hc)
  rw [dayText, List.forall_mem_append, List.forall_mem_cons, List.forall_mem_append,
    List.forall_mem_cons]
  exact ⟨hpadded 4 year, hdash, hpadded 2 month, hdash, hpadded 2 day⟩

theorem code_of_isAsciiDigit (h : isAsciiDigit c = true) : 48 ≤ c.toNat ∧ c.toNat ≤ 57 := by
  simpa [isAsciiDigit] using h

/-- Texts of digits with one length and one value are equal. -/
theorem eq_of_ofDigitChars_eq {s t : List Char} {start other : Nat} (hlength : s.length = t.length)
    (hs : ∀ c ∈ s, isAsciiDigit c = true) (ht : ∀ c ∈ t, isAsciiDigit c = true)
    (h : Nat.ofDigitChars 10 s start = Nat.ofDigitChars 10 t other) : s = t ∧ start = other := by
  induction s generalizing t start other with
  | nil =>
    obtain rfl := List.length_eq_zero_iff.mp hlength.symm
    exact ⟨rfl, h⟩
  | cons c s ih =>
    obtain ⟨d, t, rfl⟩ := List.exists_cons_of_length_eq_add_one hlength.symm
    rw [List.forall_mem_cons] at hs ht
    rw [Nat.ofDigitChars_cons, Nat.ofDigitChars_cons] at h
    obtain ⟨rfl, hvalue⟩ := ih (Nat.succ.inj hlength) hs.2 ht.2 h
    have hc := code_of_isAsciiDigit hs.1
    have hd := code_of_isAsciiDigit ht.1
    have hzero : '0'.toNat = 48 := rfl
    have hcode : c.toNat = d.toNat := by omega
    exact ⟨by rw [Char.toNat_inj.mp hcode], by omega⟩

theorem ofDigitChars_lt {s : List Char} (h : ∀ c ∈ s, isAsciiDigit c = true) :
    Nat.ofDigitChars 10 s 0 < 10 ^ s.length := by
  have hvalues : ∀ d ∈ s.map fun c => c.toNat - 48, d < 10 := by
    rw [List.forall_mem_map]
    intro c hc
    have := code_of_isAsciiDigit (h c hc)
    omega
  have hlt := ofDigits_lt hvalues
  rwa [List.length_map, ofDigits, List.foldl_map] at hlt

/-- Digits are the text of their value at their own width. -/
theorem padded_ofDigitChars {s : List Char} (hne : s ≠ []) (h : ∀ c ∈ s, isAsciiDigit c = true) :
    padded s.length (Nat.ofDigitChars 10 s 0) = s := by
  have hlength := length_padded (List.length_pos_iff.mpr hne) (ofDigitChars_lt h)
  exact (eq_of_ofDigitChars_eq hlength (padded_digits _ _) h (ofDigitChars_padded _ _)).1

/-- Four digits denote at least a thousand unless they begin with zero. -/
theorem thousand_le_iff {s : List Char} (hlength : s.length = 4)
    (h : ∀ c ∈ s, isAsciiDigit c = true) :
    1000 ≤ Nat.ofDigitChars 10 s 0 ↔ s.head? ≠ some '0' := by
  obtain ⟨a, b, c, d, rfl⟩ := List.length_eq_four.mp hlength
  have ha := code_of_isAsciiDigit (h a (by simp))
  have hb := code_of_isAsciiDigit (h b (by simp))
  have hc := code_of_isAsciiDigit (h c (by simp))
  have hd := code_of_isAsciiDigit (h d (by simp))
  have hzero : a = '0' ↔ a.toNat = 48 := by
    rw [← Char.toNat_inj]
    rfl
  simp only [Nat.ofDigitChars, List.foldl_cons, List.foldl_nil, List.head?_cons, ne_eq,
    Option.some.injEq, hzero]
  have hcode : '0'.toNat = 48 := rfl
  omega

theorem exists_padded_two (h : n < 100) : ∃ p q, padded 2 n = [p, q] ∧ isAsciiDigit p = true ∧
    isAsciiDigit q = true ∧ 10 * (p.toNat - 48) + (q.toNat - 48) = n := by
  obtain ⟨p, q, htext⟩ := List.length_eq_two.mp (length_padded (by decide) h)
  have hvalue := ofDigitChars_padded 2 n
  have hdigits := padded_digits 2 n
  rw [htext] at hvalue hdigits
  exact ⟨p, q, htext, hdigits p (by simp), hdigits q (by simp),
    by simpa [Nat.ofDigitChars] using hvalue⟩

theorem exists_padded_four (h : n < 10000) : ∃ a b c d, padded 4 n = [a, b, c, d] ∧
    ([a, b, c, d].all isAsciiDigit) = true ∧ Iso.digitsValue [a, b, c, d] = n := by
  obtain ⟨a, b, c, d, htext⟩ := List.length_eq_four.mp (length_padded (by decide) h)
  have hvalue : Iso.digitsValue (padded 4 n) = n := ofDigitChars_padded 4 n
  have hdigits : (padded 4 n).all isAsciiDigit = true :=
    List.all_eq_true.mpr (padded_digits 4 n)
  rw [htext] at hvalue hdigits
  exact ⟨a, b, c, d, htext, hdigits, hvalue⟩

namespace Iso

theorem isSpace_of_isAsciiDigit (h : isAsciiDigit c = true) : isSpace c = false :=
  of_isAsciiDigit (p := fun c => isSpace c = false) (by decide) h

theorem oneOrTwo?_padded (rest : List Char) (h : n < 100) :
    oneOrTwo? (padded 2 n ++ rest) = some (n, true, rest) := by
  obtain ⟨p, q, htext, hp, hq, hvalue⟩ := exists_padded_two h
  simp [htext, oneOrTwo?, asciiDigit?, hp, hq, hvalue]

theorem fourDigits?_padded (rest : List Char) (h : n < 10000) :
    fourDigits? (padded 4 n ++ rest) = some (n, rest) := by
  obtain ⟨a, b, c, d, htext, hdigits, hvalue⟩ := exists_padded_four h
  simp only [htext, List.cons_append, List.nil_append, fourDigits?, hdigits, if_true, hvalue]

theorem afterYear?_padded (year : Int) (hmonth : month < 100) (hday : day < 100) :
    afterYear? year ('-' :: (padded 2 month ++ '-' :: padded 2 day)) =
      if 1 ≤ month ∧ month ≤ 12 then ofDay? year month day [] else none := by
  have hdays := oneOrTwo?_padded [] hday
  rw [List.append_nil] at hdays
  have hdash : isAsciiDigit '-' = false ∧ isSeparator '-' = true := by decide
  simp [afterYear?, oneOrTwo?_padded _ hmonth, hdays, hdash]

theorem read?_of_isAsciiDigit (h : isAsciiDigit c = true) (rest : List Char) :
    read? (c :: rest) =
      (fourDigits? (c :: rest)).bind fun found => afterYear? (found.1 : Int) found.2 := by
  have hdash : c ≠ '-' := by
    rintro rfl
    exact absurd h (by decide)
  rw [read?, List.dropWhile_cons_of_neg (by simp [isSpace_of_isAsciiDigit h])]
  split
  case h_1 heq => exact absurd (List.head_eq_of_cons_eq heq) hdash
  case h_2 => rfl

/-- The machine form is that of a day at midnight, if there is such a day. -/
theorem read?_dayText (hyear : 1000 ≤ year) (hyear' : year < 10000) (hmonth : month < 100)
    (hday : day < 100) :
    read? (dayText year month day) =
      if IsDay year month day then some ⟨year, month, day, .midnight⟩ else none := by
  have hread : read? (dayText year month day) =
      afterYear? year ('-' :: (padded 2 month ++ '-' :: padded 2 day)) := by
    have hfour := fourDigits?_padded ('-' :: (padded 2 month ++ '-' :: padded 2 day)) hyear'
    obtain ⟨a, b, c, d, htext, hdigits, -⟩ := exists_padded_four hyear'
    have ha : isAsciiDigit a = true := List.all_eq_true.mp hdigits a List.mem_cons_self
    rw [htext] at hfour
    rw [dayText, htext, List.cons_append, read?_of_isAsciiDigit ha, ← List.cons_append, hfour]
    rfl
  rw [hread, afterYear?_padded _ hmonth hday]
  by_cases hreal : IsDay year month day
  · rw [if_pos hreal, if_pos hreal.month_le, ofDay?, Int.natAbs_natCast, if_pos hreal.2.2]
    rfl
  · have hnone : ofDay? year month day [] = none := by
      rw [ofDay?, Int.natAbs_natCast, if_neg]
      rintro ⟨hfirst, hlast⟩
      exact hreal ⟨by omega, by omega, hfirst, hlast⟩
    rw [if_neg hreal, hnone, ite_self]

end Iso

/-- Every day of the years from 1 to 9999 fits a count of millionths of a second. -/
theorem isStorable_midnight (h : IsDay year month day) :
    Iso.Moment.isStorable ⟨year, month, day, .midnight⟩ = true := by
  have hbounds := dayNumber_bounds h
  have hepoch : dayNumber 1970 1 1 = 719529 := by decide
  have hyear := h.2.1
  have hfraction : Iso.fractionUnits 6 [] = 0 := by decide
  simp only [Iso.Moment.isStorable, Iso.Clock.midnight, Iso.Moment.seconds, Iso.fitsCount, hepoch,
    List.length_nil, Bool.and_eq_true, decide_eq_true_eq, Nat.not_lt_zero, if_false, hfraction]
  norm_num
  omega

theorem exists_dayText_eq (hyear : year < 10000) (hmonth : month < 100) (hday : day < 100) :
    ∃ a b c d m n p q, dayText year month day = [a, b, c, d, '-', m, n, '-', p, q] ∧
      ∀ e ∈ [a, b, c, d, m, n, p, q], isAsciiDigit e = true := by
  obtain ⟨a, b, c, d, hyears, hdigits, -⟩ := exists_padded_four hyear
  obtain ⟨m, n, hmonths, hm, hn, -⟩ := exists_padded_two hmonth
  obtain ⟨p, q, hdays, hp, hq, -⟩ := exists_padded_two hday
  refine ⟨a, b, c, d, m, n, p, q, by simp [dayText, hyears, hmonths, hdays], ?_⟩
  simpa [hm, hn, hp, hq] using hdigits

theorem isDelimited?_dayText (hyear : year < 10000) (hmonth : month < 100) (hday : day < 100) :
    isDelimited? (dayText year month day) = none := by
  obtain ⟨a, b, c, d, m, n, p, q, htext, hdigits⟩ := exists_dayText_eq hyear hmonth hday
  have hc : isDateDelimiter c = false :=
    of_isAsciiDigit (p := fun c => isDateDelimiter c = false) (by decide) (hdigits c (by simp))
  rw [htext]
  simp [isDelimited?, delimitedParts?, monthAndYear?, hc]

theorem upperAscii_dayText (year month day : Nat) :
    upperAscii (dayText year month day) = dayText year month day := by
  have hkept : ∀ c ∈ dayText year month day, upperAsciiAt c = [c] :=
    of_mem_dayText (by decide) (by decide)
  rw [upperAscii, List.flatMap_congr hkept, List.flatMap_singleton']

theorem isAbbreviated?_dayText (hyear : year < 10000) (hmonth : month < 100)
    (hday : day < 100) : isAbbreviated? (dayText year month day) = none := by
  obtain ⟨a, b, c, d, m, n, p, q, htext, hdigits⟩ := exists_dayText_eq hyear hmonth hday
  have hnoMonth : [a, b, c] ∉ shortMonths := by
    have hletters : ∀ name ∈ shortMonths, name.head?.any isAsciiDigit = false := by decide
    intro hmem
    exact absurd ((hdigits a (by simp)).symm.trans (hletters _ hmem)) (by decide)
  rw [isAbbreviated?, upperAscii_dayText, htext]
  simp [quarter?, isMonthOfYear, isMonthText, hnoMonth]

end TableTalk.Calendar
