import TableTalk.Proofs.Number.Grammar
import TableTalk.Proofs.Text.WhiteSpace
import TableTalk.Question.Matching

/-! How many rows a question asks for. A count is a word, white space and digits; the first place at
which one stands decides, whatever words without digits may come before it, and it goes on as far
as its digits do. -/
namespace TableTalk.Question
open TableTalk.Text TableTalk.Number

/-- A text that begins with a count: one of the words, white space, and a run of digits that what
follows does not prolong. -/
structure BeginsWithCount (words : List (List Char)) (s run : List Char) : Prop where
  spelled : ∃ word ∈ words, ∃ blanks rest, s = word ++ (blanks ++ (run ++ rest)) ∧
    blanks ≠ [] ∧ AllBlank blanks ∧ ∀ c ∈ rest.head?, isDigit c = false
  run_ne_nil : run ≠ []
  isDigit_of_mem : ∀ c ∈ run, isDigit c = true

/-- The first place of a text at which a count stands, and its digits. -/
structure IsFirstCount (words : List (List Char)) (s : List Char) (position : Nat)
    (run : List Char) : Prop where
  here : BeginsWithCount words (s.drop position) run
  first : ∀ earlier < position, ∀ other, ¬ BeginsWithCount words (s.drop earlier) other

/-- The limit that a text gives by some words: none without any of them, the first count, which can
be too long to be read, and the default where the words have no count. -/
structure LimitIsRead (words : List (List Char)) (fallback : Int) (s : List Char)
    (limit : Except Fault (Option Int)) : Prop where
  absent_iff : limit = .ok none ↔ ∀ word ∈ words, ¬ word <:+: s
  counted : ∀ position run, IsFirstCount words s position run →
    limit = if run.length ≤ digitLimit then .ok (some (digitsValue run))
      else .error (.literalTooLong run.length)
  otherwise : (∃ word ∈ words, word <:+: s) →
    (∀ position run, ¬ BeginsWithCount words (s.drop position) run) → limit = .ok (some fallback)

/-- No word begins another one, so that a text begins with at most one of them. -/
def AreApart (words : List (List Char)) : Prop :=
  ∀ word ∈ words, ∀ other ∈ words, word <+: other → word = other

variable {words : List (List Char)} {s rest run : List Char} {fallback : Int} {position : Nat}

theorem areApart_headWords : AreApart headWords := by
  simp [AreApart, headWords]

theorem areApart_tailWords : AreApart tailWords := by
  simp [AreApart, tailWords]

theorem afterWord?_eq_some_iff {word : List Char} :
    afterWord? word s = some rest ↔ s = word ++ rest := by
  unfold afterWord?
  split
  next h =>
    obtain ⟨tail, rfl⟩ := List.isPrefixOf_iff_prefix.mp h
    simp [eq_comm]
  next h =>
    have hnone : s ≠ word ++ rest := fun heq =>
      h (List.isPrefixOf_iff_prefix.mpr (heq ▸ List.prefix_append word rest))
    simp [hnone]

/-- What follows the word at the start of a text. -/
theorem findSome?_afterWord?_iff (hwords : AreApart words) :
    words.findSome? (fun word => afterWord? word s) = some rest ↔
      ∃ word ∈ words, s = word ++ rest := by
  constructor
  · intro h
    obtain ⟨word, hword, hrest⟩ := List.exists_of_findSome?_eq_some h
    exact ⟨word, hword, afterWord?_eq_some_iff.mp hrest⟩
  · rintro ⟨word, hword, hs⟩
    have hsome : (words.findSome? fun word => afterWord? word s).isSome = true := by
      rw [List.findSome?_isSome_iff]
      exact ⟨word, hword, by rw [afterWord?_eq_some_iff.mpr hs]; rfl⟩
    obtain ⟨tail, htail⟩ := Option.isSome_iff_exists.mp hsome
    obtain ⟨other, hother, hfound⟩ := List.exists_of_findSome?_eq_some htail
    have hs' := afterWord?_eq_some_iff.mp hfound
    have hword' : word <+: s := hs ▸ List.prefix_append word rest
    have hother' : other <+: s := hs' ▸ List.prefix_append other tail
    obtain rfl : word = other := by
      rcases List.prefix_or_prefix_of_prefix hword' hother' with hbegins | hbegins
      · exact hwords word hword other hother hbegins
      · exact (hwords other hother word hword hbegins).symm
    rw [htail, List.append_cancel_left (hs.symm.trans hs')]

/-- White space ends where the digits begin. -/
theorem trimStart_blanks {blanks : List Char} (hblanks : AllBlank blanks) (hne : run ≠ [])
    (hrun : ∀ c ∈ run, isDigit c = true) (rest : List Char) :
    trimStart (blanks ++ (run ++ rest)) = run ++ rest := by
  obtain ⟨c, digits, rfl⟩ := List.exists_cons_of_ne_nil hne
  have hc : isBlank c = false := by
    by_contra hblank
    have hdigit := isDigit_of_isBlank (Bool.eq_true_of_not_eq_false hblank)
    rw [hrun c List.mem_cons_self] at hdigit
    cases hdigit
  rw [trimStart, List.dropWhile_append_of_pos hblanks, List.cons_append,
    List.dropWhile_cons_of_neg (by simp [hc])]

theorem countHere?_of_begins (hwords : AreApart words) (h : BeginsWithCount words s run) :
    countHere? words s = some (run.filterMap digitValue?) := by
  obtain ⟨⟨word, hword, blanks, rest, hs, hne, hblanks, hrest⟩, hrun, hdigits⟩ := h
  have hafter := (findSome?_afterWord?_iff hwords).mpr ⟨word, hword, hs⟩
  have hstart : startsBlank (blanks ++ (run ++ rest)) = true := by
    obtain ⟨c, others, rfl⟩ := List.exists_cons_of_ne_nil hne
    exact hblanks c List.mem_cons_self
  have hlength : (run.filterMap digitValue?).length ≠ 0 := by
    rw [length_filterMap_digitValue? hdigits]
    exact fun hzero => hrun (List.length_eq_zero_iff.mp hzero)
  rw [countHere?, hafter, Option.bind_some, if_pos hstart, trimStart_blanks hblanks hrun hdigits,
    spanDigits_of_stop hdigits hrest]
  split
  next hnil => exact absurd (congrArg List.length hnil) hlength
  next => rfl

/-- Digits are found only where a text begins with a count. -/
theorem begins_of_countHere? {digits : List Nat} (h : countHere? words s = some digits) :
    ∃ run, BeginsWithCount words s run := by
  obtain ⟨after, hafter, hdigits⟩ := Option.bind_eq_some_iff.mp h
  obtain ⟨word, hword, hfound⟩ := List.exists_of_findSome?_eq_some hafter
  split at hdigits
  next hblank =>
    have hsplit : after = after.takeWhile isBlank ++ ((trimStart after).takeWhile isDigit ++
        (trimStart after).dropWhile isDigit) := by
      rw [List.takeWhile_append_dropWhile, trimStart, List.takeWhile_append_dropWhile]
    refine ⟨(trimStart after).takeWhile isDigit, ⟨word, hword, after.takeWhile isBlank,
      (trimStart after).dropWhile isDigit, ?_, ?_, fun c hc => List.mem_takeWhile_imp hc, ?_⟩, ?_,
      fun c hc => List.mem_takeWhile_imp hc⟩
    · rw [← hsplit]
      exact afterWord?_eq_some_iff.mp hfound
    · cases after with
      | nil => cases hblank
      | cons c rest =>
        have hc : isBlank c = true := hblank
        simp [hc]
    · intro c hc
      have hnext := List.head?_dropWhile_not isDigit (trimStart after)
      rwa [Option.mem_def.mp hc] at hnext
    · intro hnil
      simp [spanDigits, hnil] at hdigits
  next => cases hdigits

theorem countDigits?_of_first (hwords : AreApart words) (h : IsFirstCount words s position run) :
    countDigits? words s = some (run.filterMap digitValue?) := by
  induction position generalizing s with
  | zero =>
    obtain ⟨hhere, -⟩ := h
    have hcount := countHere?_of_begins hwords hhere
    cases s with
    | nil =>
      obtain ⟨⟨word, -, blanks, rest, hs, hne, -⟩, -⟩ := hhere
      simp [hne] at hs
    | cons c s =>
      rw [List.drop_zero] at hcount
      rw [countDigits?, hcount, Option.some_or]
  | succ position ih =>
    obtain ⟨hhere, hfirst⟩ := h
    cases s with
    | nil =>
      obtain ⟨⟨word, -, blanks, rest, hs, hne, -⟩, -⟩ := hhere
      simp [hne] at hs
    | cons c s =>
      have hnone : countHere? words (c :: s) = none := by
        rw [Option.eq_none_iff_forall_ne_some]
        intro digits hdigits
        obtain ⟨other, hother⟩ := begins_of_countHere? hdigits
        exact hfirst 0 (Nat.zero_lt_succ position) other hother
      rw [countDigits?, hnone, Option.none_or]
      exact ih ⟨hhere, fun earlier hearlier => hfirst (earlier + 1) (Nat.succ_lt_succ hearlier)⟩

/-- Where counts stand, one of them is the first. -/
theorem exists_isFirstCount (h : BeginsWithCount words (s.drop position) run) :
    ∃ first digits, IsFirstCount words s first digits := by
  induction position using Nat.strongRecOn generalizing run with
  | ind position ih =>
    by_cases hearlier : ∃ earlier < position, ∃ other, BeginsWithCount words (s.drop earlier) other
    · obtain ⟨earlier, hlt, other, hother⟩ := hearlier
      exact ih earlier hlt hother
    · exact ⟨position, run, h, fun earlier hlt other hother => hearlier ⟨earlier, hlt, other, hother⟩⟩

theorem countDigits?_eq_none_iff (hwords : AreApart words) :
    countDigits? words s = none ↔ ∀ position run, ¬ BeginsWithCount words (s.drop position) run := by
  constructor
  · intro h position run hbegins
    obtain ⟨first, digits, hfirst⟩ := exists_isFirstCount hbegins
    rw [countDigits?_of_first hwords hfirst] at h
    cases h
  · intro h
    induction s with
    | nil => rfl
    | cons c rest ih =>
      have hnone : countHere? words (c :: rest) = none := by
        rw [Option.eq_none_iff_forall_ne_some]
        intro digits hdigits
        obtain ⟨run, hrun⟩ := begins_of_countHere? hdigits
        exact h 0 run hrun
      rw [countDigits?, hnone, Option.none_or]
      exact ih fun position => h (position + 1)

theorem mentions_iff : mentions words s = true ↔ ∃ word ∈ words, word <:+: s := by
  simp only [mentions, List.any_eq_true, occursIn_iff]

theorem limit_eq_none_iff : limit words fallback s = .ok none ↔ ∀ word ∈ words, ¬ word <:+: s := by
  unfold limit
  split
  next hmentions =>
    obtain ⟨word, hword, hinfix⟩ := mentions_iff.mp hmentions
    have hsome : ¬ ∀ word ∈ words, ¬ word <:+: s := fun h => h word hword hinfix
    cases countDigits? words s <;> simp [hsome]
  next hmentions =>
    rw [mentions_iff] at hmentions
    simpa using hmentions

theorem readInteger_run (hdigits : ∀ c ∈ run, isDigit c = true) :
    readInteger false (run.filterMap digitValue?) =
      if run.length ≤ digitLimit then .ok (digitsValue run : Int)
      else .error (.literalTooLong run.length) := by
  rw [readInteger, length_filterMap_digitValue? hdigits, ofDigits_filterMap]
  by_cases hshort : run.length ≤ digitLimit
  · rw [if_pos hshort, if_neg (Nat.not_lt.mpr hshort)]
    rfl
  · rw [if_neg hshort, if_pos (Nat.lt_of_not_le hshort)]

/-- The limit that a text asks for is that of its first count. -/
theorem limitIsRead (hwords : AreApart words) (fallback : Int) (s : List Char) :
    LimitIsRead words fallback s (limit words fallback s) := by
  refine ⟨limit_eq_none_iff, ?_, ?_⟩
  · intro position run h
    have hcount := countDigits?_of_first hwords h
    obtain ⟨⟨⟨word, hword, blanks, rest, hs, -⟩, -, hdigits⟩, -⟩ := h
    have hinfix : word <:+: s := by
      have hdrop : word <:+: s.drop position := hs ▸ (List.prefix_append word _).isInfix
      exact hdrop.trans (List.drop_suffix position s).isInfix
    simp only [limit, mentions_iff.mpr ⟨word, hword, hinfix⟩, if_true, hcount,
      readInteger_run hdigits]
    split_ifs <;> rfl
  · intro hmentions hnone
    simp only [limit, mentions_iff.mpr hmentions, if_true, (countDigits?_eq_none_iff hwords).mpr hnone]
    rfl

end TableTalk.Question
