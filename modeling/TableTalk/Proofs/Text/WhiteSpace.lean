import TableTalk.Proofs.Number.Literal
import TableTalk.Proofs.Text.LowerCase
import TableTalk.Text.Word

/-! White space around a text. Trimming takes all of it away and nothing else, and lower case leaves
it as it is: no white space is a letter, and a letter beside it is one at the end of the text. -/
namespace TableTalk.Text

/-- Nothing but white space. -/
def AllBlank (s : List Char) : Prop := ∀ c ∈ s, isBlank c = true

instance (s : List Char) : Decidable (AllBlank s) :=
  decidable_of_iff (s.all isBlank = true) List.all_eq_true

variable {s before after blanks : List Char} {c : Char}

theorem exists_range_of_inRanges {ranges : List (Nat × Nat)} {n : Nat}
    (h : inRanges ranges n = true) : ∃ range ∈ ranges, range.1 ≤ n ∧ n ≤ range.2 := by
  induction ranges with
  | nil => cases h
  | cons range rest ih =>
    obtain ⟨first, last⟩ := range
    rw [inRanges] at h
    split at h
    · cases h
    · rw [Bool.or_eq_true, decide_eq_true_eq] at h
      rcases h with hlast | hrest
      · exact ⟨_, List.mem_cons_self, by omega, hlast⟩
      · obtain ⟨other, hother, hn⟩ := ih hrest
        exact ⟨other, List.mem_cons_of_mem _ hother, hn⟩

/-- White space is few enough characters to look at each of them. -/
theorem of_isBlank {p : Nat → Bool}
    (hp : (blankRanges.flatMap fun range => List.range' range.1 (range.2 + 1 - range.1)).all p = true)
    (h : isBlank c = true) : p c.toNat = true := by
  obtain ⟨range, hrange, hfirst, hlast⟩ := exists_range_of_inRanges h
  rw [List.all_eq_true] at hp
  apply hp
  rw [List.mem_flatMap]
  exact ⟨range, hrange, List.mem_range'_1.mpr ⟨hfirst, by omega⟩⟩

theorem isDigit_of_isBlank (h : isBlank c = true) : isDigit c = false := by
  have hnone := of_isBlank (p := fun n => (digitValueFrom zeroDigits n).isNone) (by decide +kernel) h
  rw [isDigit, digitValue?]
  simpa using hnone

theorem isWord_of_isBlank (h : isBlank c = true) : isWord c = false := by
  have hword := of_isBlank (p := fun n => !isWord (Char.ofNat n)) (by decide +kernel) h
  rwa [Char.ofNat_toNat, Bool.not_eq_true'] at hword

theorem isSmall_of_isBlank (h : isBlank c = true) : IsSmall c := by
  have hcode := of_isBlank (p := fun n => lowerCodeFrom capitalRuns n == n) (by decide +kernel) h
  refine ⟨?_, ?_, ?_⟩
  · rw [lowerLetter, beq_iff_eq.mp hcode, Char.ofNat_toNat]
  · rintro rfl
    exact absurd h (by decide)
  · rintro rfl
    exact absurd h (by decide)

/-- White space ends the search for the next letter, as the end of the text does. -/
theorem nextIsCased_append (h : AllBlank blanks) (s : List Char) :
    nextIsCased (s ++ blanks) = nextIsCased s := by
  have hblank : nextIsCased blanks = false := by
    cases blanks with
    | nil => rfl
    | cons c rest =>
      have hclass := of_isBlank
        (p := fun n => !inRanges caseIgnorableRanges n && !inRanges casedRanges n)
        (by decide +kernel) (h c List.mem_cons_self)
      rw [Bool.and_eq_true, Bool.not_eq_true', Bool.not_eq_true'] at hclass
      rw [nextIsCased, List.dropWhile_cons_of_neg (by simp [hclass.1])]
      exact hclass.2
  unfold nextIsCased at hblank ⊢
  rw [List.dropWhile_append]
  cases s.dropWhile fun c => inRanges caseIgnorableRanges c.toNat with
  | nil => exact hblank
  | cons c rest => rfl

theorem lowerFrom_append_small (h : ∀ c ∈ s, IsSmall c) (context rest : List Char) :
    lowerFrom context (s ++ rest) = s ++ lowerFrom (s.reverse ++ context) rest := by
  induction s generalizing context with
  | nil => rfl
  | cons c s ih =>
    rw [List.forall_mem_cons] at h
    rw [List.cons_append, lowerFrom, lowerAt, if_neg h.1.dotted, if_neg h.1.sigma, h.1.letter,
      ih h.2, List.singleton_append, List.reverse_cons, List.append_assoc, List.singleton_append,
      List.cons_append]

/-- The letters of a text look no further than white space, before it and behind it. -/
theorem lowerFrom_between (hbefore : AllBlank before) (hafter : AllBlank after)
    (context s : List Char) :
    lowerFrom (context ++ before) (s ++ after) = lowerFrom context s ++ after := by
  induction s generalizing context with
  | nil =>
    have hsmall : ∀ c ∈ after, IsSmall c := fun c hc => isSmall_of_isBlank (hafter c hc)
    have hlower := lowerFrom_append_small hsmall (context ++ before) []
    rwa [lowerFrom, List.append_nil] at hlower
  | cons c s ih =>
    have hat : lowerAt (context ++ before) c (s ++ after) = lowerAt context c s := by
      rw [lowerAt, lowerAt, nextIsCased_append hbefore, nextIsCased_append hafter]
    rw [List.cons_append, lowerFrom, lowerFrom, hat, ← List.cons_append, ih, List.append_assoc]

theorem lower_padded (hbefore : AllBlank before) (hafter : AllBlank after) (s : List Char) :
    lower (before ++ s ++ after) = before ++ lower s ++ after := by
  have hsmall : ∀ c ∈ before, IsSmall c := fun c hc => isSmall_of_isBlank (hbefore c hc)
  have hreverse : AllBlank before.reverse := fun c hc => hbefore c (List.mem_reverse.mp hc)
  rw [lower, List.append_assoc, lowerFrom_append_small hsmall, List.append_nil,
    ← List.nil_append before.reverse, lowerFrom_between hreverse hafter, lower, List.append_assoc]

/-- Without letters whose small form is not looked up alone, lower case goes letter by letter. -/
theorem lower_eq_map (h : ∀ c ∈ s, c ≠ '\u0130' ∧ c ≠ '\u03a3') : lower s = s.map lowerLetter := by
  have hfrom (context : List Char) : lowerFrom context s = s.map lowerLetter := by
    induction s generalizing context with
    | nil => rfl
    | cons c rest ih =>
      rw [List.forall_mem_cons] at h
      rw [lowerFrom, lowerAt, if_neg h.1.1, if_neg h.1.2, ih h.2, List.singleton_append,
        List.map_cons]
  exact hfrom []

theorem trim_padded (hbefore : AllBlank before) (hafter : AllBlank after) (s : List Char) :
    trim (before ++ s ++ after) = trim s := by
  have hend (s : List Char) : trimEnd (s ++ after) = trimEnd s := by
    have hreverse : ∀ c ∈ after.reverse, isBlank c = true :=
      fun c hc => hafter c (List.mem_reverse.mp hc)
    rw [trimEnd, List.reverse_append, List.dropWhile_append_of_pos hreverse, trimEnd]
  rw [trim, trim, trimStart, List.append_assoc, List.dropWhile_append_of_pos hbefore,
    List.dropWhile_append]
  split
  next hall =>
    rw [List.dropWhile_eq_nil_iff.mpr hafter, trimStart, List.isEmpty_iff.mp hall]
  next => rw [hend, trimStart]

/-- What trimming takes away is white space. -/
theorem exists_padding (s : List Char) :
    ∃ before after, AllBlank before ∧ AllBlank after ∧ s = before ++ trim s ++ after := by
  refine ⟨s.takeWhile isBlank, ((trimStart s).reverse.takeWhile isBlank).reverse,
    fun c hc => List.mem_takeWhile_imp hc,
    fun c hc => List.mem_takeWhile_imp (List.mem_reverse.mp hc), ?_⟩
  rw [trim, trimEnd, List.append_assoc, ← List.reverse_append, List.takeWhile_append_dropWhile,
    List.reverse_reverse, trimStart, List.takeWhile_append_dropWhile]

theorem trim_trim (s : List Char) : trim (trim s) = trim s := by
  obtain ⟨before, after, hbefore, hafter, hs⟩ := exists_padding s
  conv_rhs => rw [hs, trim_padded hbefore hafter]

end TableTalk.Text
