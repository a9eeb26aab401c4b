import TableTalk.Proofs.Number.Literal
import TableTalk.Proofs.Text.LowerCase
import TableTalk.Question.Matching

/-! The counts that questions give. They are written with digits that stand in the question side by
side, so that a question without too long a run of digits can be read. -/
namespace TableTalk.Question
open TableTalk.Text TableTalk.Number

variable {words : List (List Char)} {s : List Char} {digits : List Nat}

/-- No more digits stand side by side than an integer may have. -/
def HasShortRuns (s : List Char) : Prop :=
  ∀ run, run <:+: s → (∀ c ∈ run, isDigit c = true) → run.length ≤ digitLimit

theorem hasShortRuns_of_length (h : s.length ≤ digitLimit) : HasShortRuns s :=
  fun _ hrun _ => hrun.length_le.trans h

/-- Runs of digits are not joined by bringing a question into the form in which it is read. -/
theorem HasShortRuns.normalize (h : HasShortRuns s) : HasShortRuns (normalize s) :=
  fun run hrun hdigits =>
    h run (infix_of_infix_lower hdigits (hrun.trans (infix_trim (lower s)))) hdigits

theorem afterWord?_suffix {word rest : List Char} (h : afterWord? word s = some rest) :
    rest <:+ s := by
  unfold afterWord? at h
  split at h
  · cases h
    exact List.drop_suffix _ _
  · cases h

/-- A count has its digits from a run that stands in the text. -/
theorem countHere?_run (h : countHere? words s = some digits) :
    ∃ run, run <:+: s ∧ (∀ c ∈ run, isDigit c = true) ∧ digits = (spanDigits run).1 := by
  obtain ⟨rest, hrest, hdigits⟩ := Option.bind_eq_some_iff.mp h
  obtain ⟨word, -, hword⟩ := List.exists_of_findSome?_eq_some hrest
  split at hdigits
  · have hrun : digits = (spanDigits (trimStart rest)).1 := by
      split at hdigits
      · cases hdigits
      · exact (Option.some.inj hdigits).symm
    have hinfix : (trimStart rest).takeWhile isDigit <:+: s :=
      (List.takeWhile_prefix isDigit).isInfix.trans
        ((List.dropWhile_suffix isBlank).isInfix.trans (afterWord?_suffix hword).isInfix)
    have hall : ∀ c ∈ (trimStart rest).takeWhile isDigit, isDigit c = true :=
      fun c hc => List.mem_takeWhile_imp hc
    refine ⟨_, hinfix, hall, ?_⟩
    rw [hrun, spanDigits, spanDigits, List.takeWhile_eq_self_iff.mpr hall]
  · cases hdigits

theorem countDigits?_run (h : countDigits? words s = some digits) :
    ∃ run, run <:+: s ∧ (∀ c ∈ run, isDigit c = true) ∧ digits = (spanDigits run).1 := by
  induction s with
  | nil => cases h
  | cons c rest ih =>
    rw [countDigits?, Option.or_eq_some_iff] at h
    rcases h with hhere | ⟨-, hlater⟩
    · exact countHere?_run hhere
    · obtain ⟨run, hrun, hdigits⟩ := ih hlater
      exact ⟨run, hrun.trans (List.suffix_cons c rest).isInfix, hdigits⟩

/-- A limit is told, and it can be written in a query if the default can. -/
theorem exists_limit_eq_ok (words : List (List Char)) {fallback : Int} (h : HasShortRuns s)
    (hfallback : fallback.natAbs < 10 ^ digitLimit) :
    ∃ count, limit words fallback s = .ok count ∧
      ∀ n, count = some n → n.natAbs < 10 ^ digitLimit := by
  unfold limit
  split
  · cases hdigits : countDigits? words s with
    | none => exact ⟨some fallback, rfl, fun n hn => Option.some.inj hn ▸ hfallback⟩
    | some digits =>
      obtain ⟨run, hrun, hall, rfl⟩ := countDigits?_run hdigits
      have hlength := length_spanDigits hall
      have hshort := h run hrun hall
      have hread : readInteger false (spanDigits run).1 =
          .ok (signed false (ofDigits (spanDigits run).1)) := by
        rw [readInteger, if_neg (by omega)]
      refine ⟨some _, by simp only [hread]; rfl, ?_⟩
      rintro n ⟨rfl⟩
      rw [natAbs_signed]
      exact (ofDigits_lt (spanDigits_lt run)).trans_le
        (Nat.pow_le_pow_right (by decide) (by omega))
  · refine ⟨none, rfl, fun n hn => ?_⟩
    cases hn

/-- Counts are written without a sign, so that a limit is negative only if the default is. -/
theorem limit_nonneg {fallback count : Int} (h : limit words fallback s = .ok (some count))
    (hfallback : 0 ≤ fallback) : 0 ≤ count := by
  unfold limit at h
  split at h
  · cases hdigits : countDigits? words s with
    | none =>
      simp only [hdigits, Except.pure_eq_ok_iff, Option.some.injEq] at h
      rwa [← h]
    | some digits =>
      simp only [hdigits, Except.bind_eq_ok_iff, Except.pure_eq_ok_iff, Option.some.injEq] at h
      obtain ⟨n, hread, rfl⟩ := h
      unfold readInteger at hread
      split at hread
      · cases hread
      · rw [← Except.ok.inj hread]
        exact Int.natCast_nonneg _
  · cases h

end TableTalk.Question
