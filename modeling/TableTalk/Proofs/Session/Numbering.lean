import Mathlib.Data.List.Nodup
import TableTalk.Proofs.History.Clock
import TableTalk.Proofs.Session.Effects

/-! The log of a session as a numbered one. A session counts the entries it ever recorded, and what
the log holds are the last of them, so that an id that never repeats is that of one entry at most,
also where entries are gone. -/
namespace TableTalk

namespace History

variable {history : History} {entry : Entry} {id : String}

theorem entries_foldl_append (later : List Entry) :
    (later.foldl append history).entries = history.entries ++ later := by
  induction later generalizing history with
  | nil => simp
  | cons entry rest ih => rw [List.foldl_cons, ih, append, List.append_assoc, List.singleton_append]

/-- What is found stays found, whatever is appended. -/
theorem find?_foldl_append (later : List Entry) (h : history.find? id = some entry) :
    (later.foldl append history).find? id = some entry := by
  rw [find?] at h ⊢
  rw [entries_foldl_append, List.find?_append, h, Option.some_or]

/-- Under ids that are all different, an entry is found by its own. -/
theorem find?_of_mem (hnodup : (history.entries.map fun entry => entry.stamp.id).Nodup)
    (hmem : entry ∈ history.entries) : history.find? entry.stamp.id = some entry := by
  rw [find?, List.find?_eq_some_iff_append]
  obtain ⟨before, after, hsplit⟩ := List.append_of_mem hmem
  refine ⟨decide_eq_true rfl, before, after, hsplit, fun other hother => ?_⟩
  rw [hsplit, List.map_append, List.map_cons] at hnodup
  have hne : other.stamp.id ≠ entry.stamp.id :=
    (List.nodup_append.mp hnodup).2.2 _ (List.mem_map_of_mem hother) _ List.mem_cons_self
  simpa using hne

end History

namespace Session

variable {clock : Clock} {settings : Settings} {session : Session} {operation : Operation}
  {first : Nat}

/-- An operation that is carried out has a question with words. -/
theorem isBlankText_of_succeeds {question : String}
    (hsucceeds : Succeeds clock settings session operation)
    (hquestion : operation.question? session = some question) : isBlankText question = false := by
  have hallowed : ¬ session.IsRefused settings operation := by
    obtain ⟨outcome, hrun⟩ := hsucceeds
    rw [isRefused_iff clock, hrun]
    simp
  by_contra hblank
  rw [Bool.not_eq_false] at hblank
  cases operation with
  | query text =>
    obtain rfl := Option.some.inj hquestion
    exact hallowed (.inr hblank)
  | rerun id =>
    obtain ⟨entry, hfind, rfl⟩ := Option.map_eq_some_iff.mp hquestion
    refine hallowed fun other hother => .inr ?_
    rwa [← Option.some.inj (hfind.symm.trans hother)]
  | _ => cases hquestion

/-- What an operation that is tried does to the log: nothing, or it is cleared, or it gets an entry
with the next number for a question with words. -/
theorem log_step_cases (clock : Clock) (settings : Settings) (session : Session)
    (operation : Operation) :
    ((session.step clock settings operation).history = session.history ∧
      (session.step clock settings operation).recorded = session.recorded) ∨
    ((session.step clock settings operation).history = .empty ∧
      (session.step clock settings operation).recorded = session.recorded) ∨
    ∃ dataset question, session.dataset = some dataset ∧ isBlankText question = false ∧
      session.step clock settings operation = session.answered clock settings dataset question := by
  rcases step_cases clock settings session operation with
    ⟨next, hnext, hsucceeds, hbecomes⟩ | ⟨hsame, -⟩
  · rw [hnext]
    cases hbecomes with
    | load dataset _ => exact .inl ⟨rfl, rfl⟩
    | answer question dataset hquestion hdataset =>
      exact .inr (.inr ⟨dataset, question, hdataset,
        isBlankText_of_succeeds hsucceeds hquestion, rfl⟩)
    | clear => exact .inr (.inl ⟨rfl, rfl⟩)
    | view => exact .inl ⟨rfl, rfl⟩
  · rw [hsame]
    exact .inl ⟨rfl, rfl⟩

/-- The sessions that come about from a session by trying operations, each under settings of its
own. -/
inductive Reaches (clock : Clock) (session : Session) : Session → Prop
  | refl : Reaches clock session session
  | step {next : Session} (settings : Settings) (operation : Operation)
      (h : Reaches clock session next) :
      Reaches clock session (next.step clock settings operation)

theorem Reaches.runs {next : Session} (h : Reaches clock session next) (settings : Settings)
    (operations : List Operation) :
    Reaches clock session (next.runs clock settings operations) := by
  induction operations using List.reverseRecOn with
  | nil => exact h
  | append_singleton operations operation ih =>
    rw [runs_concat]
    exact ih.step settings operation

/-- The entries of the log have the stamps of the last numbers given out, one after the other, and
none of them is from before a first number. -/
def IsNumbered (clock : Clock) (first : Nat) (session : Session) : Prop :=
  ∃ start, first ≤ start ∧ start + session.history.size = session.recorded + 1 ∧
    session.history.entries.map Entry.stamp =
      (List.range' start session.history.size).map clock

theorem isNumbered_fresh : IsNumbered clock 1 fresh := ⟨1, Nat.le_refl 1, rfl, rfl⟩

/-- A log that is cleared goes on with the next number. -/
theorem isNumbered_of_empty (hempty : session.history = .empty) :
    IsNumbered clock (session.recorded + 1) session :=
  ⟨session.recorded + 1, Nat.le_refl _, by rw [hempty]; rfl, by rw [hempty]; rfl⟩

theorem IsNumbered.first_le (h : IsNumbered clock first session) :
    first ≤ session.recorded + 1 := by
  obtain ⟨start, hfirst, hcount, -⟩ := h
  omega

theorem IsNumbered.mono {other : Nat} (h : IsNumbered clock first session) (hle : other ≤ first) :
    IsNumbered clock other session := by
  obtain ⟨start, hfirst, hrest⟩ := h
  exact ⟨start, Nat.le_trans hle hfirst, hrest⟩

theorem entries_answered (dataset : Dataset) (question : String) :
    (session.answered clock settings dataset question).history.entries =
      session.history.entries ++ [Entry.ofAnswer (clock (session.recorded + 1)) question
        (Answer.ask settings dataset.rows question)] :=
  rfl

theorem IsNumbered.answered (h : IsNumbered clock first session) (dataset : Dataset)
    (question : String) :
    IsNumbered clock first (session.answered clock settings dataset question) := by
  obtain ⟨start, hfirst, hcount, hstamps⟩ := h
  have hsize : (session.answered clock settings dataset question).history.size =
      session.history.size + 1 := by
    rw [History.size, entries_answered, List.length_append]
    rfl
  refine ⟨start, hfirst, ?_, ?_⟩
  · rw [hsize, ← Nat.add_assoc, hcount]
    rfl
  · rw [entries_answered, hsize, List.map_append, hstamps, List.range'_1_concat, List.map_append,
      hcount]
    rfl

theorem IsNumbered.step (h : IsNumbered clock first session) :
    IsNumbered clock first (session.step clock settings operation) := by
  rcases log_step_cases clock settings session operation with
    ⟨hhistory, hrecorded⟩ | ⟨hhistory, hrecorded⟩ | ⟨dataset, question, -, -, hstep⟩
  · rw [IsNumbered, hhistory, hrecorded]
    exact h
  · exact (isNumbered_of_empty hhistory).mono (hrecorded ▸ h.first_le)
  · rw [hstep]
    exact h.answered dataset question

/-- Whatever operations are tried, the log stays numbered. -/
theorem IsNumbered.of_reaches {next : Session} (h : IsNumbered clock first session)
    (hreaches : Reaches clock session next) : IsNumbered clock first next := by
  induction hreaches with
  | refl => exact h
  | step settings operation _ ih => exact ih.step

theorem IsNumbered.exists_number {entry : Entry} (h : IsNumbered clock first session)
    (hentry : entry ∈ session.history.entries) :
    ∃ n, first ≤ n ∧ n ≤ session.recorded ∧ entry.stamp = clock n := by
  obtain ⟨start, hfirst, hcount, hstamps⟩ := h
  have hstamp : entry.stamp ∈ (List.range' start session.history.size).map clock :=
    hstamps ▸ List.mem_map_of_mem hentry
  obtain ⟨n, hn, hclock⟩ := List.mem_map.mp hstamp
  rw [List.mem_range'_1] at hn
  exact ⟨n, by omega, by omega, hclock.symm⟩

theorem IsNumbered.nodup_ids (h : IsNumbered clock first session) (hclock : clock.NeverRepeats)
    (hfirst : 0 < first) : (session.history.entries.map fun entry => entry.stamp.id).Nodup := by
  obtain ⟨start, hstart, -, hstamps⟩ := h
  have hids : (session.history.entries.map fun entry => entry.stamp.id) =
      (List.range' start session.history.size).map fun n => (clock n).id := by
    have hmap := congrArg (List.map Stamp.id) hstamps
    rwa [List.map_map, List.map_map] at hmap
  rw [hids]
  refine List.Nodup.map_on (fun m hm n hn heq => ?_) List.nodup_range'
  rw [List.mem_range'_1] at hm hn
  exact hclock m n (by omega) (by omega) heq

end Session
end TableTalk
