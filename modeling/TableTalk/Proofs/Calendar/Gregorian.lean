import Mathlib.Algebra.Group.Nat.Defs
import Mathlib.Data.List.Basic
import TableTalk.Calendar.Date

/-! The days of the Gregorian calendar by its own rules: months of 31 days, months of 30 days, and
February. They are the days that the lengths of the months leave, and their positions grow by 365
or 366 from year to year. -/
namespace TableTalk.Calendar

variable {year month day : Nat}

/-- The days of the Gregorian calendar. The 29th of February belongs to the years that four divides,
except for those that end a century which 400 does not divide. -/
inductive IsGregorian (year : Nat) : Nat → Nat → Prop
  | long {month day : Nat} (hmonth : month ∈ [1, 3, 5, 7, 8, 10, 12]) (hfirst : 1 ≤ day)
      (hlast : day ≤ 31) : IsGregorian year month day
  | short {month day : Nat} (hmonth : month ∈ [4, 6, 9, 11]) (hfirst : 1 ≤ day)
      (hlast : day ≤ 30) : IsGregorian year month day
  | february {day : Nat} (hfirst : 1 ≤ day) (hlast : day ≤ 28) : IsGregorian year 2 day
  | leapDay (hfour : 4 ∣ year) (hcentury : 100 ∣ year → 400 ∣ year) : IsGregorian year 2 29

theorem isLeap_iff : isLeap year = true ↔ 4 ∣ year ∧ (100 ∣ year → 400 ∣ year) := by
  simp only [isLeap, Bool.and_eq_true, Bool.or_eq_true, beq_iff_eq, bne_iff_ne, ne_eq]
  omega

theorem isGregorian_of_le (hmonth : 1 ≤ month ∧ month ≤ 12) (hfirst : 1 ≤ day)
    (hlast : day ≤ daysInMonth year month) : IsGregorian year month day := by
  unfold daysInMonth at hlast
  split at hlast
  case isTrue htwo =>
    subst htwo
    split at hlast
    case isTrue hleap =>
      obtain ⟨hfour, hcentury⟩ := isLeap_iff.mp hleap
      rcases Nat.lt_or_eq_of_le hlast with hbefore | rfl
      · exact .february hfirst (by omega)
      · exact .leapDay hfour hcentury
    case isFalse => exact .february hfirst hlast
  case isFalse hother =>
    split at hlast
    case isTrue hshort => exact .short (by simpa using hshort) hfirst hlast
    case isFalse hlong => exact .long (by simp; omega) hfirst hlast

theorem IsGregorian.le_daysInMonth (h : IsGregorian year month day) :
    1 ≤ day ∧ day ≤ daysInMonth year month := by
  have hfebruary : 28 ≤ daysInMonth year 2 := by
    unfold daysInMonth
    split <;> split <;> omega
  cases h with
  | long hmonth hfirst hlast =>
    have hlong : daysInMonth year month = 31 := by
      simp only [List.mem_cons, List.not_mem_nil, or_false] at hmonth
      rcases hmonth with rfl | rfl | rfl | rfl | rfl | rfl | rfl <;> rfl
    exact ⟨hfirst, by omega⟩
  | short hmonth hfirst hlast =>
    have hshort : daysInMonth year month = 30 := by
      simp only [List.mem_cons, List.not_mem_nil, or_false] at hmonth
      rcases hmonth with rfl | rfl | rfl | rfl <;> rfl
    exact ⟨hfirst, by omega⟩
  | february hfirst hlast => exact ⟨hfirst, by omega⟩
  | leapDay hfour hcentury =>
    rw [daysInMonth, if_pos rfl, if_pos (isLeap_iff.mpr ⟨hfour, hcentury⟩)]
    exact ⟨by decide, Nat.le_refl _⟩

theorem isDay_iff_isGregorian :
    IsDay year month day ↔ 1 ≤ year ∧ year ≤ 9999 ∧ IsGregorian year month day := by
  constructor
  · intro h
    exact ⟨h.1, h.2.1, isGregorian_of_le h.month_le h.2.2.1 h.2.2.2⟩
  · rintro ⟨hyear, hyear', h⟩
    exact ⟨hyear, hyear', h.le_daysInMonth⟩

theorem daysInMonth_le (year month : Nat) : daysInMonth year month ≤ 31 := by
  unfold daysInMonth
  repeat' split
  all_goals omega

theorem foldl_daysInMonth_le (year count : Nat) :
    (List.range count).foldl (fun days month => days + daysInMonth year month) 0 ≤
      31 * count := by
  induction count with
  | zero => exact Nat.le_refl 0
  | succ count ih =>
    rw [List.range_succ, List.foldl_append, List.foldl_cons, List.foldl_nil]
    have := daysInMonth_le year count
    omega

theorem dayNumber_bounds (h : IsDay year month day) :
    365 * (year : Int) ≤ dayNumber year month day ∧
      dayNumber year month day ≤ 366 * (year : Int) + 1000 := by
  have hmonth := h.month_le
  have hdays := foldl_daysInMonth_le (year : Int).natAbs month
  have hday := daysInMonth_le year month
  obtain ⟨hyear, hyear', hfirst, hlast⟩ := h
  unfold dayNumber daysBeforeYear
  omega

end TableTalk.Calendar
