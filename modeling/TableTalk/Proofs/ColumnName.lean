import TableTalk.ColumnName
import TableTalk.Proofs.Number.Decimal
import TableTalk.Proofs.Number.Literal
import TableTalk.Proofs.Text.Ascii
import TableTalk.Proofs.Text.LowerCase
import TableTalk.Proofs.Text.WhiteSpace

/-! Clean column names. Cleaning leaves only characters that need no cleaning, so that a name once
clean stays as it is and cleaning is a projection onto such names; among these characters are the
small letters, the digits and the underscore. -/
namespace TableTalk.ColumnName
open TableTalk.Text

/-- A character that cleaning leaves alone. -/
structure IsClean (c : Char) : Prop where
  word : isWord c = true
  visible : isBlank c = false
  small : IsSmall c

variable {s : List Char} {c : Char}

theorem collapseBlanks_eq_self {separator : Char} (h : ∀ c ∈ s, isBlank c = false) :
    collapseBlanks separator s = s := by
  induction s with
  | nil => rfl
  | cons c rest ih =>
    rw [List.forall_mem_cons] at h
    rw [collapseBlanks, if_neg (by simp [h.1]), ih h.2]

theorem mem_collapseBlanks {separator : Char} (h : c ∈ collapseBlanks separator s) :
    c = separator ∨ c ∈ s ∧ isBlank c = false := by
  induction s with
  | nil => cases h
  | cons d rest ih =>
    have hrest (h : c ∈ collapseBlanks separator rest) :
        c = separator ∨ c ∈ d :: rest ∧ isBlank c = false :=
      (ih h).imp_right fun hmem => ⟨List.mem_cons_of_mem d hmem.1, hmem.2⟩
    rw [collapseBlanks] at h
    split_ifs at h with hblank hnext
    · exact hrest h
    · exact (List.mem_cons.mp h).elim .inl hrest
    · rcases List.mem_cons.mp h with rfl | h
      · exact .inr ⟨List.mem_cons_self, by simpa using hblank⟩
      · exact hrest h

theorem mem_collapseBlanks_of_visible {separator : Char} (hc : c ∈ s) (h : isBlank c = false) :
    c ∈ collapseBlanks separator s := by
  induction s with
  | nil => cases hc
  | cons d rest ih =>
    rw [collapseBlanks]
    rcases List.mem_cons.mp hc with rfl | hc
    · rw [if_neg (by simp [h])]
      exact List.mem_cons_self
    · split_ifs
      · exact ih hc
      · exact List.mem_cons_of_mem _ (ih hc)
      · exact List.mem_cons_of_mem _ (ih hc)

theorem mem_normalizeChars (hc : c ∈ s) (h : IsClean c) : c ∈ normalizeChars s := by
  have hkept : c ∈ (lower (trim s)).filter (fun c => isWord c || isBlank c) :=
    List.mem_filter.mpr ⟨mem_lower (Number.mem_trim hc h.visible) h.small, by simp [h.word]⟩
  exact mem_collapseBlanks_of_visible hkept h.visible

theorem normalizeChars_eq_self (h : ∀ c ∈ s, IsClean c) : normalizeChars s = s := by
  have hblank : ∀ c ∈ s, isBlank c = false := fun c hc => (h c hc).visible
  have hword : s.filter (fun c => isWord c || isBlank c) = s :=
    List.filter_eq_self.mpr fun c hc => by simp [(h c hc).word]
  rw [normalizeChars, Number.trim_eq_self hblank, lower_eq_self fun c hc => (h c hc).small, hword,
    collapseBlanks_eq_self hblank]

theorem isClean_underscore : IsClean '_' := ⟨by decide, by decide, by decide +kernel⟩

theorem isClean_of_mem_normalizeChars (h : c ∈ normalizeChars s) : IsClean c := by
  rcases mem_collapseBlanks h with rfl | ⟨hmem, hblank⟩
  · exact isClean_underscore
  · obtain ⟨hlower, hkept⟩ := List.mem_filter.mp hmem
    exact ⟨by simpa [hblank] using hkept, hblank, isSmall_of_mem_lower hlower⟩

/-- A name that was cleaned needs no cleaning. -/
theorem normalize_normalize (name : String) : normalize (normalize name) = normalize name := by
  unfold normalize
  rw [String.toList_ofList, normalizeChars_eq_self fun c hc => isClean_of_mem_normalizeChars hc]

/-- White space is no word character, so what cleaning does with it leaves the others alone. -/
theorem filter_collapseBlanks {separator : Char} {p : Char → Bool} (hseparator : p separator = false)
    (hblank : ∀ c, isBlank c = true → p c = false) :
    (collapseBlanks separator s).filter p = s.filter p := by
  induction s with
  | nil => rfl
  | cons c rest ih =>
    rw [collapseBlanks]
    split_ifs with hc hnext
    · rw [ih, List.filter_cons_of_neg (by simp [hblank c hc])]
    · rw [List.filter_cons_of_neg (by simp [hseparator]), ih,
        List.filter_cons_of_neg (by simp [hblank c hc])]
    · rw [List.filter_cons, List.filter_cons, ih]

theorem filter_normalizeChars (s : List Char) :
    (normalizeChars s).filter (· != '_') =
      (lower (trim s)).filter fun c => isWord c && c != '_' := by
  have hword : (normalizeChars s).filter (· != '_') =
      (normalizeChars s).filter fun c => isWord c && c != '_' :=
    List.filter_congr fun c hc => by simp [(isClean_of_mem_normalizeChars hc).word]
  rw [hword, normalizeChars, filter_collapseBlanks (by decide) fun c hc => by
    rw [isWord_of_isBlank hc, Bool.false_and], List.filter_filter]
  exact List.filter_congr fun c _ => by cases isWord c <;> simp

/-- A name without capitals that is made of word characters and has no white space. -/
structure IsCleanName (name : String) : Prop where
  word : ∀ c ∈ name.toList, isWord c = true
  visible : ∀ c ∈ name.toList, isBlank c = false
  small : lower name.toList = name.toList

theorem isCleanName_iff {name : String} : IsCleanName name ↔ ∀ c ∈ name.toList, IsClean c := by
  constructor
  · intro h c hc
    have hlower : c ∈ lower name.toList := h.small.symm ▸ hc
    exact ⟨h.word c hc, h.visible c hc, isSmall_of_mem_lower hlower⟩
  · intro h
    exact ⟨fun c hc => (h c hc).word, fun c hc => (h c hc).visible,
      lower_eq_self fun c hc => (h c hc).small⟩

/-- Cleaning is a projection onto the clean names: it gives one, a name is left alone if it is one
and only then, so that what was cleaned needs no cleaning. But for underscores the clean name is
made of all the word characters of the name in lower case, in their order. -/
theorem normalize_projects (name : String) :
    IsCleanName (normalize name) ∧ normalize (normalize name) = normalize name ∧
      (normalize name = name ↔ IsCleanName name) ∧
      (normalize name).toList.filter (· != '_') =
        (lower (trim name.toList)).filter fun c => isWord c && c != '_' := by
  have hclean (name : String) : IsCleanName (normalize name) := by
    rw [isCleanName_iff, normalize, String.toList_ofList]
    exact fun c hc => isClean_of_mem_normalizeChars hc
  refine ⟨hclean name, normalize_normalize name, ?_, ?_⟩
  · constructor
    · intro h
      exact h ▸ hclean name
    · intro h
      rw [normalize, normalizeChars_eq_self (isCleanName_iff.mp h), String.ofList_toList]
  · rw [normalize, String.toList_ofList, filter_normalizeChars]

/-- What plain names are made of. -/
def IsNameChar (c : Char) : Prop := c.isLower = true ∨ c.isDigit = true ∨ c = '_'

instance : DecidablePred IsNameChar := fun c =>
  inferInstanceAs (Decidable (c.isLower = true ∨ c.isDigit = true ∨ c = '_'))

theorem IsNameChar.code (h : IsNameChar c) :
    (97 ≤ c.toNat ∧ c.toNat ≤ 122) ∨ (48 ≤ c.toNat ∧ c.toNat ≤ 57) ∨ c.toNat = 95 := by
  rcases h with hlower | hdigit | rfl
  · exact .inl (isLower_iff.mp hlower)
  · right; left
    simpa [isAsciiDigit] using Number.isAsciiDigit_of_isDigit hdigit
  · exact .inr (.inr rfl)

theorem IsNameChar.isBlank_eq_false (h : IsNameChar c) : isBlank c = false := by
  obtain ⟨rest, hranges⟩ : ∃ rest, blankRanges = (9, 13) :: (28, 32) :: (133, 133) :: rest :=
    ⟨_, rfl⟩
  have hcode := h.code
  simp only [isBlank, hranges, inRanges]
  rw [if_neg (by omega), if_neg (by omega), if_pos (by omega)]
  simp only [Bool.or_false, Bool.or_eq_false_iff, decide_eq_false_iff_not]
  omega

theorem IsNameChar.isWord (h : IsNameChar c) : isWord c = true := by
  rcases h with hlower | hdigit | rfl
  · obtain ⟨rest, hranges⟩ : ∃ rest, letterRanges = (65, 90) :: (97, 122) :: rest := ⟨_, rfl⟩
    have hcode : 97 ≤ c.toNat ∧ c.toNat ≤ 122 := isLower_iff.mp hlower
    have hletter : isLetter c = true := by
      simp only [isLetter, hranges, inRanges]
      rw [if_neg (by omega), if_neg (by omega)]
      simp [hcode.2]
    simp [Text.isWord, hletter]
  · have hcode : 48 ≤ c.toNat ∧ c.toNat ≤ 57 := by
      simpa [isAsciiDigit] using Number.isAsciiDigit_of_isDigit hdigit
    have hvalue : digitValue? c = some (c.toNat - 48) := by
      rw [digitValue?, zeroDigits, digitValueFrom, if_neg (by omega), if_pos (by omega)]
    simp [Text.isWord, isDigit, hvalue]
  · decide

theorem IsNameChar.lowerLetter_eq_self (h : IsNameChar c) : lowerLetter c = c := by
  obtain ⟨rest, hruns⟩ :
      ∃ rest, capitalRuns = (65, 90, 1, 32) :: (192, 214, 1, 32) :: rest := ⟨_, rfl⟩
  have hcode := h.code
  have hcode : lowerCodeFrom capitalRuns c.toNat = c.toNat := by
    simp only [hruns, lowerCodeFrom]
    split_ifs <;> omega
  rw [lowerLetter, hcode, Char.ofNat_toNat]

theorem IsNameChar.isClean (h : IsNameChar c) : IsClean c := by
  refine ⟨h.isWord, h.isBlank_eq_false, h.lowerLetter_eq_self, ?_, ?_⟩ <;> rintro rfl <;>
    exact absurd h (by decide)

theorem normalize_eq_self {name : String} (h : ∀ c ∈ name.toList, IsNameChar c) :
    normalize name = name := by
  rw [normalize, normalizeChars_eq_self fun c hc => (h c hc).isClean, String.ofList_toList]

end TableTalk.ColumnName
