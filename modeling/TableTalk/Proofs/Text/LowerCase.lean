import Mathlib.Data.List.Infix
import TableTalk.Text.Digit
import TableTalk.Text.LowerCase

/-! Texts in lower case. The table of capitals gives each of them a small letter that is neither a
capital nor a digit: so a text in lower case stays as it is, and the digits of a text stand in it
as they stood before. -/
namespace TableTalk.Text

/-- A run of capitals in the table: first, last, step and distance to the small letters. -/
abbrev CapitalRun := Nat × Nat × Nat × Int

namespace CapitalRun

/-- The distance between two capitals of a run, zero where there is only one. -/
def stride (run : CapitalRun) : Nat := if run.1 = run.2.1 then 0 else run.2.2.1

def firstSmall (run : CapitalRun) : Nat := ((run.1 : Int) + run.2.2.2).toNat

def lastSmall (run : CapitalRun) : Nat := ((run.2.1 : Int) + run.2.2.2).toNat

/-- The code is that of a capital in the run. -/
def Holds (run : CapitalRun) (n : Nat) : Prop := ∃ k, n = run.1 + k * run.stride ∧ n ≤ run.2.1

/-- No capital is among the codes from the first to the last one by steps. The search stops at the
first run beyond them. -/
def noneAmong (first last step : Nat) : List CapitalRun → Bool
  | [] => true
  | (low, high, stride, _) :: rest =>
      last.blt low ||
        (high.blt first ||
          (low.ble first && step % stride == 0 && (first - low) % stride != 0)) &&
          noneAmong first last step rest

end CapitalRun

/-- No digit is among the codes from the first to the last one. -/
def noDigitAmong (first last : Nat) : List Nat → Bool
  | [] => true
  | base :: rest => last.blt base || (base + 9).blt first && noDigitAmong first last rest

variable {runs : List CapitalRun} {run : CapitalRun} {first last step n : Nat} {c : Char}

theorem lowerCodeFrom_of_noneAmong (h : CapitalRun.noneAmong first last step runs = true) (k : Nat)
    (hn : first + k * step ≤ last) :
    lowerCodeFrom runs (first + k * step) = first + k * step := by
  induction runs with
  | nil => rfl
  | cons run rest ih =>
    obtain ⟨low, high, stride, shift⟩ := run
    simp only [CapitalRun.noneAmong, Bool.or_eq_true, Bool.and_eq_true, Nat.blt_eq, Nat.ble_eq,
      beq_iff_eq, bne_iff_ne] at h
    rw [lowerCodeFrom]
    rcases h with hbefore | ⟨hafter | ⟨⟨hlow, hstep⟩, hoff⟩, hrest⟩
    · rw [if_pos (by omega)]
    · have hhigh : ¬ first + k * step ≤ high := by omega
      rw [if_neg hhigh, ih hrest, ite_self]
    · -- The codes go by whole steps of the run, beside its capitals.
      have hmod : (first + k * step - low) % stride = (first - low) % stride := by
        rw [Nat.sub_add_comm hlow, Nat.add_mod, Nat.mul_mod, hstep, Nat.mul_zero, Nat.zero_mod,
          Nat.add_zero, Nat.mod_mod]
      rw [hmod]
      split_ifs
      · rfl
      · rfl
      · exact ih hrest

/-- A code stays, or it is that of a capital and is moved to its small letter. -/
theorem lowerCodeFrom_cases (runs : List CapitalRun) (n : Nat) :
    lowerCodeFrom runs n = n ∨
      ∃ run ∈ runs, run.Holds n ∧ lowerCodeFrom runs n = ((n : Int) + run.2.2.2).toNat := by
  induction runs with
  | nil => exact .inl rfl
  | cons run rest ih =>
    obtain ⟨low, high, step, shift⟩ := run
    rw [lowerCodeFrom]
    split_ifs with hbefore hin haligned
    · exact .inl rfl
    · refine .inr ⟨_, List.mem_cons_self, ?_, rfl⟩
      by_cases hsingle : low = high
      · exact ⟨0, by simp only [Nat.zero_mul]; omega, hin⟩
      · refine ⟨(n - low) / step, ?_, hin⟩
        rw [CapitalRun.stride, if_neg hsingle, Nat.div_mul_cancel (Nat.dvd_of_mod_eq_zero haligned)]
        omega
    · exact .inl rfl
    · rcases ih with hsame | ⟨other, hother, hmoved⟩
      · exact .inl hsame
      · exact .inr ⟨other, List.mem_cons_of_mem _ hother, hmoved⟩

theorem capitalRuns_small : ∀ run ∈ capitalRuns, 0 ≤ (run.1 : Int) + run.2.2.2 ∧
    CapitalRun.noneAmong (CapitalRun.firstSmall run) (CapitalRun.lastSmall run)
      (CapitalRun.stride run) capitalRuns = true := by
  decide +kernel

theorem capitalRuns_noDigit : ∀ run ∈ capitalRuns,
    noDigitAmong (CapitalRun.firstSmall run) (CapitalRun.lastSmall run) zeroDigits = true := by
  decide +kernel

/-- The small letter of a capital stands in its run's row of small letters. -/
theorem CapitalRun.Holds.small (h : run.Holds n) (hsmall : 0 ≤ (run.1 : Int) + run.2.2.2) :
    ∃ k, ((n : Int) + run.2.2.2).toNat = run.firstSmall + k * run.stride ∧
      run.firstSmall + k * run.stride ≤ run.lastSmall := by
  obtain ⟨k, hk, hlast⟩ := h
  refine ⟨k, ?_, ?_⟩ <;> simp only [firstSmall, lastSmall] <;> omega

theorem lowerCode_lowerCode (n : Nat) :
    lowerCodeFrom capitalRuns (lowerCodeFrom capitalRuns n) = lowerCodeFrom capitalRuns n := by
  rcases lowerCodeFrom_cases capitalRuns n with hsame | ⟨run, hrun, hholds, hmoved⟩
  · rw [hsame, hsame]
  · obtain ⟨hpositive, hnone⟩ := capitalRuns_small run hrun
    obtain ⟨k, hk, hlast⟩ := hholds.small hpositive
    rw [hmoved, hk]
    exact lowerCodeFrom_of_noneAmong hnone k hlast

theorem digitValueFrom_of_noDigitAmong {zeros : List Nat} (h : noDigitAmong first last zeros = true)
    (hfirst : first ≤ n) (hlast : n ≤ last) : digitValueFrom zeros n = none := by
  induction zeros with
  | nil => rfl
  | cons base rest ih =>
    simp only [noDigitAmong, Bool.or_eq_true, Bool.and_eq_true, Nat.blt_eq] at h
    rw [digitValueFrom]
    rcases h with hbefore | ⟨hafter, hrest⟩
    · rw [if_pos (by omega)]
    · split_ifs
      · rfl
      · omega
      · exact ih hrest

/-- A letter that lower case changes does not become a digit. -/
theorem digitValueFrom_lowerCode (h : lowerCodeFrom capitalRuns n ≠ n) :
    digitValueFrom zeroDigits (lowerCodeFrom capitalRuns n) = none := by
  rcases lowerCodeFrom_cases capitalRuns n with hsame | ⟨run, hrun, hholds, hmoved⟩
  · exact absurd hsame h
  · obtain ⟨k, hk, hlast⟩ := hholds.small (capitalRuns_small run hrun).1
    rw [hmoved, hk]
    exact digitValueFrom_of_noDigitAmong (capitalRuns_noDigit run hrun) (Nat.le_add_right _ _) hlast

theorem toNat_lowerLetter (c : Char) :
    (lowerLetter c).toNat = lowerCodeFrom capitalRuns c.toNat ∨ lowerLetter c = Char.ofNat 0 := by
  rw [lowerLetter]
  by_cases hvalid : (lowerCodeFrom capitalRuns c.toNat).isValidChar
  · exact .inl (by rw [Char.ofNat, dif_pos hvalid]; rfl)
  · exact .inr (by rw [Char.ofNat, dif_neg hvalid]; rfl)

theorem lowerLetter_lowerLetter (c : Char) : lowerLetter (lowerLetter c) = lowerLetter c := by
  rcases toNat_lowerLetter c with hcode | hzero
  · rw [lowerLetter, hcode, lowerCode_lowerCode]
    rfl
  · rw [hzero]
    rfl

/-- A character that lower case leaves alone. -/
structure IsSmall (c : Char) : Prop where
  letter : lowerLetter c = c
  dotted : c ≠ '\u0130'
  sigma : c ≠ '\u03a3'

instance : DecidablePred IsSmall := fun c =>
  decidable_of_iff (lowerLetter c = c ∧ c ≠ '\u0130' ∧ c ≠ '\u03a3')
    ⟨fun h => ⟨h.1, h.2.1, h.2.2⟩, fun h => ⟨h.letter, h.dotted, h.sigma⟩⟩

theorem capitalRuns_noDotted :
    ∀ run ∈ capitalRuns, CapitalRun.lastSmall run < 304 ∨ 304 < CapitalRun.firstSmall run := by
  decide +kernel

theorem lowerLetter_ne_dotted (h : c ≠ '\u0130') : lowerLetter c ≠ '\u0130' := by
  intro hdotted
  have hcode : lowerCodeFrom capitalRuns c.toNat = 304 := by
    rcases toNat_lowerLetter c with hcode | hzero
    · rw [← hcode, hdotted]
      rfl
    · exact absurd (hzero.symm.trans hdotted) (by decide)
  rcases lowerCodeFrom_cases capitalRuns c.toNat with hsame | ⟨run, hrun, hholds, hmoved⟩
  · apply h
    rw [← Char.ofNat_toNat c, ← hsame, hcode]
  · obtain ⟨k, hk, hlast⟩ := hholds.small (capitalRuns_small run hrun).1
    have hrange := capitalRuns_noDotted run hrun
    omega

theorem isSmall_lowerLetter (h : c ≠ '\u0130') : IsSmall (lowerLetter c) := by
  refine ⟨lowerLetter_lowerLetter c, lowerLetter_ne_dotted h, ?_⟩
  intro hsigma
  have hfixed := lowerLetter_lowerLetter c
  rw [hsigma] at hfixed
  exact absurd hfixed (by decide +kernel)

/-- The small form of a character is one letter, but for the dotted capital. -/
theorem lowerAt_cases (before : List Char) (c : Char) (after : List Char) :
    lowerAt before c after = ['i', '\u0307'] ∨ lowerAt before c after = ['\u03c2'] ∨
      lowerAt before c after = ['\u03c3'] ∨
      c ≠ '\u0130' ∧ lowerAt before c after = [lowerLetter c] := by
  unfold lowerAt
  split_ifs with hdotted hsigma hlast
  · exact .inl rfl
  · exact .inr (.inl rfl)
  · exact .inr (.inr (.inl rfl))
  · exact .inr (.inr (.inr ⟨hdotted, rfl⟩))

theorem isSmall_of_mem_lowerAt {before after : List Char} {d : Char}
    (h : d ∈ lowerAt before c after) : IsSmall d := by
  rcases lowerAt_cases before c after with heq | heq | heq | ⟨hdotted, heq⟩ <;> rw [heq] at h
  · simp only [List.mem_cons, List.not_mem_nil, or_false] at h
    rcases h with rfl | rfl <;> decide +kernel
  · rw [List.mem_singleton.mp h]
    decide +kernel
  · rw [List.mem_singleton.mp h]
    decide +kernel
  · rw [List.mem_singleton.mp h]
    exact isSmall_lowerLetter hdotted

theorem isSmall_of_mem_lower {s : List Char} (h : c ∈ lower s) : IsSmall c := by
  have hfrom (before : List Char) (h : c ∈ lowerFrom before s) : IsSmall c := by
    clear * - h
    induction s generalizing before with
    | nil => cases h
    | cons d rest ih =>
      rw [lowerFrom, List.mem_append] at h
      rcases h with h | h
      · exact isSmall_of_mem_lowerAt h
      · exact ih _ h
  exact hfrom [] h

theorem lower_eq_self {s : List Char} (h : ∀ c ∈ s, IsSmall c) : lower s = s := by
  have hfrom (before : List Char) : lowerFrom before s = s := by
    induction s generalizing before with
    | nil => rfl
    | cons c rest ih =>
      rw [List.forall_mem_cons] at h
      rw [lowerFrom, lowerAt, if_neg h.1.dotted, if_neg h.1.sigma, h.1.letter, ih h.2,
        List.singleton_append]
  exact hfrom []

theorem mem_lower {s : List Char} (hc : c ∈ s) (h : IsSmall c) : c ∈ lower s := by
  have hfrom (before : List Char) : c ∈ lowerFrom before s := by
    induction s generalizing before with
    | nil => cases hc
    | cons d rest ih =>
      rw [lowerFrom, List.mem_append]
      rcases List.mem_cons.mp hc with rfl | hc
      · rw [lowerAt, if_neg h.dotted, if_neg h.sigma, h.letter]
        exact .inl (List.mem_singleton_self c)
      · exact .inr (ih hc _)
  exact hfrom []

theorem lowerLetter_of_isDigit (h : isDigit (lowerLetter c) = true) : lowerLetter c = c := by
  by_contra hne
  have hcode : lowerCodeFrom capitalRuns c.toNat ≠ c.toNat := fun hsame =>
    hne (by rw [lowerLetter, hsame, Char.ofNat_toNat])
  rcases toNat_lowerLetter c with hletter | hzero
  · rw [isDigit, digitValue?, hletter, digitValueFrom_lowerCode hcode] at h
    cases h
  · rw [hzero] at h
    exact absurd h (by decide)

/-- A digit in lower case was there before, alone. -/
theorem lowerAt_of_isDigit {before after tail : List Char} {d : Char} (hd : isDigit d = true)
    (h : lowerAt before c after = d :: tail) : d = c ∧ tail = [] := by
  rcases lowerAt_cases before c after with heq | heq | heq | ⟨-, heq⟩ <;>
    rw [heq, List.cons.injEq] at h <;> obtain ⟨rfl, rfl⟩ := h
  · exact absurd hd (by decide)
  · exact absurd hd (by decide)
  · exact absurd hd (by decide)
  · exact ⟨lowerLetter_of_isDigit hd, rfl⟩

theorem exists_lowerAt_eq_cons (before : List Char) (c : Char) (after : List Char) :
    ∃ d tail, lowerAt before c after = d :: tail ∧ ∀ e ∈ tail, isDigit e = false := by
  have hmark : isDigit '\u0307' = false := by decide
  rcases lowerAt_cases before c after with heq | heq | heq | ⟨-, heq⟩
  · exact ⟨_, _, heq, List.forall_mem_singleton.mpr hmark⟩
  · exact ⟨_, _, heq, List.forall_mem_nil _⟩
  · exact ⟨_, _, heq, List.forall_mem_nil _⟩
  · exact ⟨_, _, heq, List.forall_mem_nil _⟩

/-- Digits at the start of a text in lower case are those at the start of the text. -/
theorem prefix_of_prefix_lowerFrom {before s digits : List Char}
    (hdigits : ∀ c ∈ digits, isDigit c = true) (h : digits <+: lowerFrom before s) :
    digits <+: s := by
  induction s generalizing before digits with
  | nil => exact h
  | cons c rest ih =>
    cases digits with
    | nil => exact List.nil_prefix
    | cons d digits =>
      rw [List.forall_mem_cons] at hdigits
      obtain ⟨e, tail, hlower, -⟩ := exists_lowerAt_eq_cons before c rest
      rw [lowerFrom, hlower, List.cons_append, List.cons_prefix_cons] at h
      obtain ⟨rfl, hrest⟩ := h
      obtain ⟨rfl, rfl⟩ := lowerAt_of_isDigit hdigits.1 hlower
      exact List.cons_prefix_cons.mpr ⟨rfl, ih hdigits.2 hrest⟩

theorem infix_of_infix_append {others s digits : List Char}
    (hothers : ∀ c ∈ others, isDigit c = false) (hdigits : ∀ c ∈ digits, isDigit c = true)
    (h : digits <:+: others ++ s) : digits <:+: s := by
  induction others with
  | nil => exact h
  | cons d others ih =>
    rw [List.forall_mem_cons] at hothers
    rw [List.cons_append, List.infix_cons_iff] at h
    rcases h with hprefix | hinfix
    · cases digits with
      | nil => exact List.nil_infix
      | cons e digits =>
        rw [List.cons_prefix_cons] at hprefix
        rw [List.forall_mem_cons, hprefix.1, hothers.1] at hdigits
        exact absurd hdigits.1 Bool.false_ne_true
    · exact ih hothers.2 hinfix

/-- A run of digits in lower case stands in the text as it is. -/
theorem infix_of_infix_lower {s digits : List Char} (hdigits : ∀ c ∈ digits, isDigit c = true)
    (h : digits <:+: lower s) : digits <:+: s := by
  have hfrom (before : List Char) (h : digits <:+: lowerFrom before s) : digits <:+: s := by
    clear * - hdigits h
    induction s generalizing before with
    | nil => exact h
    | cons c rest ih =>
      rw [List.infix_cons_iff]
      obtain ⟨d, tail, hlower, htail⟩ := exists_lowerAt_eq_cons before c rest
      cases hd : isDigit d with
      | true =>
        obtain ⟨rfl, rfl⟩ := lowerAt_of_isDigit hd hlower
        rw [lowerFrom, hlower, List.singleton_append, List.infix_cons_iff] at h
        rcases h with hprefix | hinfix
        · rw [← List.singleton_append, ← hlower, ← lowerFrom] at hprefix
          exact .inl (prefix_of_prefix_lowerFrom hdigits hprefix)
        · exact .inr (ih _ hinfix)
      | false =>
        rw [lowerFrom, hlower] at h
        exact .inr (ih _ (infix_of_infix_append (List.forall_mem_cons.mpr ⟨hd, htail⟩) hdigits h))
  exact hfrom [] h

end TableTalk.Text
