import TableTalk.Proofs.Calendar.DayTokens
import TableTalk.Proofs.Classification.Majority

/-! Columns of days. A text of a day is no number, and it is a date exactly if the Gregorian
calendar has the day. So a column of such texts is a column of dates or of text, by how many of
the days are real. -/
namespace TableTalk

namespace Calendar
open Number Text
open Timestamp (padded length_padded ofDigitChars_padded)

/-- A day as it may be written, whether or not there is such a month or such a day. -/
structure WrittenDay where
  year : Nat
  month : Nat
  day : Nat
  year_ge : 1000 ≤ year
  year_lt : year < 10000
  month_lt : month < 100
  day_lt : day < 100

namespace WrittenDay

variable (written : WrittenDay)

def text : List Char := dayText written.year written.month written.day

/-- The texts of days are those of four digits without a zero in front, and twice two digits. -/
theorem exists_text_eq_iff {s : List Char} :
    (∃ written : WrittenDay, written.text = s) ↔
      ∃ year month day : List Char, s = year ++ '-' :: (month ++ '-' :: day) ∧
        year.length = 4 ∧ month.length = 2 ∧ day.length = 2 ∧ year.head? ≠ some '0' ∧
        ∀ c ∈ year ++ month ++ day, isAsciiDigit c = true := by
  constructor
  · rintro ⟨⟨year, month, day, hge, hlt, hmonth, hday⟩, rfl⟩
    have hlength : (padded 4 year).length = 4 := length_padded (by decide) hlt
    refine ⟨_, _, _, rfl, hlength, length_padded (by decide) hmonth,
      length_padded (by decide) hday, ?_, ?_⟩
    · rw [← thousand_le_iff hlength (padded_digits 4 year), ofDigitChars_padded]
      exact hge
    · rw [List.forall_mem_append, List.forall_mem_append]
      exact ⟨⟨padded_digits 4 year, padded_digits 2 month⟩, padded_digits 2 day⟩
  · rintro ⟨year, month, day, rfl, hyear, hmonth, hday, hhead, hdigits⟩
    rw [List.forall_mem_append, List.forall_mem_append] at hdigits
    obtain ⟨⟨hyears, hmonths⟩, hdays⟩ := hdigits
    have hpadded {width : Nat} {s : List Char} (hwidth : 0 < width) (hlength : s.length = width)
        (hs : ∀ c ∈ s, isAsciiDigit c = true) :
        padded width (Nat.ofDigitChars 10 s 0) = s ∧ Nat.ofDigitChars 10 s 0 < 10 ^ width := by
      subst hlength
      exact ⟨padded_ofDigitChars (List.length_pos_iff.mp hwidth) hs, ofDigitChars_lt hs⟩
    obtain ⟨hyearText, hyearLt⟩ := hpadded (by decide) hyear hyears
    obtain ⟨hmonthText, hmonthLt⟩ := hpadded (by decide) hmonth hmonths
    obtain ⟨hdayText, hdayLt⟩ := hpadded (by decide) hday hdays
    refine ⟨⟨_, _, _, (thousand_le_iff hyear hyears).mpr hhead, hyearLt, hmonthLt, hdayLt⟩, ?_⟩
    rw [text, dayText, hyearText, hmonthText, hdayText]

def cell : Cell := .text (String.ofList written.text)

def IsReal : Prop := IsGregorian written.year written.month written.day

theorem isReal_iff_isDay : written.IsReal ↔ IsDay written.year written.month written.day := by
  have hge := written.year_ge
  have hlt := written.year_lt
  rw [isDay_iff_isGregorian, IsReal]
  exact ⟨fun h => ⟨by omega, by omega, h⟩, fun h => h.2.2⟩

instance : DecidablePred IsReal := fun written => decidable_of_iff' _ written.isReal_iff_isDay

theorem isEmpty_cell : written.cell.isEmpty = false := by
  simp [cell, Cell.isEmpty, text, dayText]

theorem denotesNumber_cell : written.cell.denotesNumber = false := by
  rw [Cell.denotesNumber, cell, Cell.toNumber?, String.toList_ofList, text,
    ofText?_dayText written.year_lt]

theorem isDate_cell : written.cell.isDate = decide written.IsReal := by
  have hdate := isDateText_dayText written.year_ge written.year_lt written.month_lt written.day_lt
  have hcell : written.cell.isDate = isDateText written.text := by
    simp [cell, Cell.isDate, Cell.isDateScalar]
  rw [hcell, text, hdate]
  exact decide_eq_decide.mpr written.isReal_iff_isDay.symm

end WrittenDay
end Calendar

namespace Classification
open Calendar

variable {table : Table} {classification : Classification} {column : String}

/-- A column of days is not numeric. It is a date if more than four fifths of the days are real, and
text otherwise. -/
theorem classify_writtenDays {days : List WrittenDay}
    (h : classify defaultSampling table = .ok classification) (hcolumn : column ∈ table.columns)
    (hcells : sampledCells table column = days.map WrittenDay.cell) :
    column ∉ classification.numeric ∧
      (column ∈ classification.date ↔
        4 * days.length < 5 * days.countP fun written => written.IsReal) ∧
      (column ∈ classification.text ↔
        5 * (days.countP fun written => written.IsReal) ≤ 4 * days.length) := by
  have hdecided := decidedBy_sampledCells h hcolumn
  have hnumbers : (days.map WrittenDay.cell).countP Cell.denotesNumber = 0 := by
    rw [List.countP_eq_zero, List.forall_mem_map]
    intro written _
    rw [written.denotesNumber_cell]
    exact Bool.false_ne_true
  have hdates : (days.map WrittenDay.cell).countP Cell.isDate =
      days.countP fun written => written.IsReal := by
    rw [List.countP_map]
    exact List.countP_congr fun written _ => by simp [WrittenDay.isDate_cell]
  rw [hcells] at hdecided
  rw [hdecided.numeric, hdecided.date, hdecided.text, hnumbers, hdates, List.length_map]
  omega

def leapDay (year : Nat) (hge : 1000 ≤ year) (hlt : year < 10000) : WrittenDay :=
  ⟨year, 2, 29, hge, hlt, by decide, by decide⟩

/-- Birthdays, of which the second is no real day. -/
def birthdays : List WrittenDay :=
  [leapDay 2000 (by decide) (by decide), leapDay 1900 (by decide) (by decide),
   leapDay 1996 (by decide) (by decide), leapDay 2020 (by decide) (by decide),
   leapDay 1600 (by decide) (by decide), leapDay 2024 (by decide) (by decide)]

def register (days : List WrittenDay) : Table := days.map fun written => [("born", written.cell)]

theorem sampledCells_register {days : List WrittenDay} (h : days.length ≤ 100) :
    sampledCells (register days) "born" = days.map WrittenDay.cell := by
  have htake : (register days).take 100 = register days :=
    List.take_of_length_le (by rwa [register, List.length_map])
  have hfilled : ∀ cell ∈ days.map WrittenDay.cell, (!cell.isEmpty) = true := by
    rw [List.forall_mem_map]
    intro written _
    rw [written.isEmpty_cell, Bool.not_false]
  rw [sampledCells, htake, filledCells, register, List.map_map]
  exact List.filter_eq_self.mpr hfilled

/-- Five of six birthdays are enough, and four of five are not. -/
theorem classify_writtenDays_birthdays :
    (∃ classification, classify defaultSampling (register birthdays) = .ok classification ∧
      "born" ∈ classification.date) ∧
    ∃ classification, classify defaultSampling (register (birthdays.take 5)) = .ok classification ∧
      "born" ∈ classification.text := by
  have hsix : classify defaultSampling (register birthdays) = .ok
      { numeric := [], text := [], date := ["born"], totalRows := 6, totalColumns := 1 } := by
    decide +kernel
  have hfive : classify defaultSampling (register (birthdays.take 5)) = .ok
      { numeric := [], text := ["born"], date := [], totalRows := 5, totalColumns := 1 } := by
    decide +kernel
  refine ⟨⟨_, hsix, ?_⟩, _, hfive, ?_⟩
  · have hcells := sampledCells_register (show birthdays.length ≤ 100 by decide)
    exact (classify_writtenDays hsix (by decide) hcells).2.1.mpr (by decide)
  · have hcells := sampledCells_register (show (birthdays.take 5).length ≤ 100 by decide)
    exact (classify_writtenDays hfive (by decide) hcells).2.2.mpr (by decide)

end Classification
end TableTalk
