import Mathlib.Data.List.Nodup
import TableTalk.Csv.Reader

/-! Names from a header, one for each text of it. Distinct texts, none of them empty, are kept; a
name that is no text of the header has a number in it. -/
namespace TableTalk.Csv.Header
open TableTalk.Number

/-- Settling a name that was not met before notes it and changes none. -/
theorem settle_of_count {names : List String} {seen : Seen} {index : Nat}
    (h : seen.count (names.getD index "") = 0) :
    settle (names, seen) index = (names, seen.set (names.getD index "") 1) := by
  simp only [settle]
  rw [if_pos h]

theorem count_set_of_ne {seen : Seen} {name other : String} {n : Nat} (h : other ≠ name) :
    (seen.set name n).count other = seen.count other := by
  have hbeq : (other == name) = false := by simpa using h
  simp only [Seen.set, Seen.count, List.lookup_cons, hbeq]

/-- The names at the indices that are left have not been met yet. -/
theorem foldl_settle {names : List String} (hnames : names.Nodup) (indices : List Nat)
    (hindices : indices.Nodup) (hlength : ∀ index ∈ indices, index < names.length) {seen : Seen}
    (hseen : ∀ index ∈ indices, seen.count (names.getD index "") = 0) :
    (indices.foldl settle (names, seen)).1 = names := by
  induction indices generalizing seen with
  | nil => rfl
  | cons index rest ih =>
    rw [List.nodup_cons] at hindices
    rw [List.forall_mem_cons] at hlength hseen
    rw [List.foldl_cons, settle_of_count hseen.1]
    apply ih hindices.2 hlength.2
    intro other hother
    have hne : names.getD other "" ≠ names.getD index "" := by
      rw [← List.getElem_eq_getD (h := hlength.2 other hother),
        ← List.getElem_eq_getD (h := hlength.1)]
      intro heq
      have hindex : other = index := hnames.getElem_inj_iff.mp heq
      exact hindices.1 (hindex ▸ hother)
    rw [count_set_of_ne hne]
    exact hseen.2 other hother

/-- Settling changes names, but not how many there are. -/
theorem length_settle (state : List String × Seen) (index : Nat) :
    (settle state index).1.length = state.1.length := by
  obtain ⟨names, seen⟩ := state
  simp only [settle]
  split <;> simp

theorem length_names (texts : List String) : (names texts).length = texts.length := by
  have hfold (indices : List Nat) (state : List String × Seen) :
      (indices.foldl settle state).1.length = state.1.length := by
    induction indices generalizing state with
    | nil => rfl
    | cons index rest ih => rw [List.foldl_cons, ih, length_settle]
  unfold names
  rw [hfold, List.length_map, List.length_zipIdx]

/-- There is a digit in the text of a number, and so in all that it is written into. -/
theorem exists_isDigit_append (text : String) (n : Nat) :
    ∃ c ∈ (text ++ naturalText n).toList, c.isDigit = true := by
  obtain ⟨c, rest, hdigits⟩ := List.exists_cons_of_ne_nil (Nat.toDigits_ne_nil (b := 10) (n := n))
  have hc : c ∈ Nat.toDigits 10 n := hdigits ▸ List.mem_cons_self
  refine ⟨c, ?_, Nat.isDigit_of_mem_toDigits (by decide) (by decide) hc⟩
  rw [String.toList_append, naturalText, String.toList_ofList]
  exact List.mem_append_right _ hc

/-- A text of the header, or a name with a digit, as placeholders and numbered names have one. -/
def IsGivenOrNumbered (texts : List String) (name : String) : Prop :=
  name ∈ texts ∨ ∃ c ∈ name.toList, c.isDigit = true

theorem isGivenOrNumbered_settle {texts : List String} {state : List String × Seen} (index : Nat)
    (h : ∀ name ∈ state.1, IsGivenOrNumbered texts name) :
    ∀ name ∈ (settle state index).1, IsGivenOrNumbered texts name := by
  obtain ⟨names, seen⟩ := state
  simp only [settle]
  split
  · exact h
  · intro name hname
    rcases List.mem_or_eq_of_mem_set hname with hold | rfl
    · exact h name hold
    · exact .inr (exists_isDigit_append _ _)

theorem isGivenOrNumbered_names (texts : List String) :
    ∀ name ∈ names texts, IsGivenOrNumbered texts name := by
  have hfold (indices : List Nat) {state : List String × Seen}
      (h : ∀ name ∈ state.1, IsGivenOrNumbered texts name) :
      ∀ name ∈ (indices.foldl settle state).1, IsGivenOrNumbered texts name := by
    induction indices generalizing state with
    | nil => exact h
    | cons index rest ih => exact ih (isGivenOrNumbered_settle index h)
  unfold names
  apply hfold
  rw [List.forall_mem_map]
  rintro ⟨text, index⟩ hentry
  split_ifs
  · exact .inr (exists_isDigit_append _ _)
  · exact .inl (List.fst_mem_of_mem_zipIdx hentry)

theorem names_eq_self {texts : List String} (hnodup : texts.Nodup)
    (hne : ∀ text ∈ texts, text ≠ "") : names texts = texts := by
  have hfilled : ∀ entry ∈ texts.zipIdx, entry.1.isEmpty = false := by
    rintro ⟨text, index⟩ hentry
    simpa using hne text (List.fst_mem_of_mem_zipIdx hentry)
  have hnamed : texts.zipIdx.filter (fun entry => !entry.1.isEmpty) = texts.zipIdx :=
    List.filter_eq_self.mpr fun entry hentry => by simp [hfilled entry hentry]
  have hunnamed : texts.zipIdx.filter (fun entry => entry.1.isEmpty) = [] :=
    List.filter_eq_nil_iff.mpr fun entry hentry => by simp [hfilled entry hentry]
  have hkept : texts.zipIdx.map
      (fun entry => if entry.1.isEmpty then placeholder entry.2 else entry.1) = texts := by
    rw [List.map_congr_left (g := Prod.fst) fun entry hentry => by simp [hfilled entry hentry]]
    exact List.zipIdx_map_fst 0 texts
  simp only [names, hnamed, hunnamed, hkept, List.map_nil, List.append_nil, List.zipIdx_map_snd]
  apply foldl_settle hnodup
  · exact List.nodup_range'
  · intro index hindex
    rw [List.mem_range'_1] at hindex
    omega
  · intro index _
    rfl

end TableTalk.Csv.Header

namespace TableTalk.Csv

theorem Sheet.records_eq_map (sheet : Sheet) :
    sheet.records = sheet.lines.map fun fields => (Header.names sheet.header).zip
      (fields.drop (fields.length - (Header.names sheet.header).length)) := by
  unfold records
  cases sheet.lines with
  | nil => rfl
  | cons first rest => rfl

theorem Sheet.mem_records {sheet : Sheet} {record : List (String × String)}
    (h : record ∈ sheet.records) : ∀ entry ∈ record,
      entry.1 ∈ Header.names sheet.header ∧ ∃ fields ∈ sheet.lines, entry.2 ∈ fields := by
  rw [records_eq_map, List.mem_map] at h
  obtain ⟨fields, hfields, rfl⟩ := h
  intro entry hentry
  obtain ⟨hname, hfield⟩ := List.of_mem_zip hentry
  exact ⟨hname, fields, hfields, List.mem_of_mem_drop hfield⟩

end TableTalk.Csv
