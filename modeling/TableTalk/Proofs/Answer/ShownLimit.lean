import TableTalk.Proofs.Answer.Execution
import TableTalk.Proofs.Question.Limits
import TableTalk.Proofs.Question.Query
import TableTalk.Proofs.Question.Requests

/-! The limit of an answer. What its query shows at the end is the count that was read from the
question, and no other one was applied to the rows. -/
namespace TableTalk
open TableTalk.Text TableTalk.Number

theorem Cascade.takeFirst_mem_steps_iff {signals : Signals} {count : Int} :
    Step.takeFirst count ∈ steps signals ↔ signals.limitHead = some count := by
  unfold steps
  cases Signals.named? signals.aggregateColumn with
  | none => simp
  | some column => split_ifs <;> simp

namespace Answer
open Question

variable {settings : Settings} {table : Table} {question : String}

/-- An answer whose query ends in the limit that was read from its question and applied to its
rows, and in none if there was none. -/
structure ShowsItsLimit (settings : Settings) (table : Table) (question : String)
    (signals : Signals) (answer : Answer) : Prop where
  matched : Question.signals settings table question.toList = .ok signals
  read : limit headWords settings.defaultLimit (normalize question.toList) =
    .ok signals.limitHead
  rows : Cascade.run table signals = .ok answer.rows
  applied : ∀ count, Cascade.Step.takeFirst count ∈ Cascade.steps signals ↔
    Signals.ShowsLimit answer.query count
  shown : ∀ count, Signals.ShowsLimit answer.query count ↔ signals.limitHead = some count
  absent : (∀ count, ¬ Signals.ShowsLimit answer.query count) ↔ signals.limitHead = none

theorem exists_showsItsLimit (h : (ask settings table question).error = none) :
    ∃ signals, ShowsItsLimit settings table question signals (ask settings table question) := by
  obtain ⟨signals, hsignals, hrows, hquery⟩ := ask_answered h
  have hshown (count : Int) :
      Signals.ShowsLimit (ask settings table question).query count ↔
        signals.limitHead = some count :=
    Signals.showsLimit_iff hquery
  refine ⟨signals, hsignals, (signals_eq_ok_iff.mp hsignals).head, hrows, fun count => ?_,
    hshown, ?_⟩
  · rw [Cascade.takeFirst_mem_steps_iff, hshown]
  · simp only [hshown, Option.eq_none_iff_forall_ne_some, ne_eq]

/-- Limits from the start and from the end are those of the first count that the question has for
them, and the former is the one that an answer shows and applies. -/
theorem limit_readAndShown (settings : Settings) :
    (∀ s, LimitIsRead headWords settings.defaultLimit s
      (limit headWords settings.defaultLimit s)) ∧
    (∀ s, LimitIsRead tailWords settings.defaultLimit s
      (limit tailWords settings.defaultLimit s)) ∧
    ∀ table question, (ask settings table question).error = none →
      ∃ signals, ShowsItsLimit settings table question signals (ask settings table question) :=
  ⟨limitIsRead areApart_headWords settings.defaultLimit,
    limitIsRead areApart_tailWords settings.defaultLimit,
    fun _ _ h => exists_showsItsLimit h⟩

/-- The first words have no count, the count is in digits of two scripts, and the last one has
none. -/
def topics : String := "Stop at the FIRST\u00a0\t\u0661\u0662 topics, top 3, at last"

theorem isFirstCount_topics :
    IsFirstCount headWords (normalize topics.toList) 12 ['\u0661', '\u0662'] := by
  have hnormal : normalize topics.toList =
      "stop at the first\u00a0\t\u0661\u0662 topics, top 3, at last".toList := by decide +kernel
  have hnone : ∀ earlier < 12,
      countHere? headWords ((normalize topics.toList).drop earlier) = none := by decide +kernel
  constructor
  · refine ⟨⟨['f', 'i', 'r', 's', 't'], by decide, ['\u00a0', '\t'],
      ' ' :: "topics, top 3, at last".toList, ?_, by decide, by decide, ?_⟩, by decide, ?_⟩
    · rw [hnormal]
      decide +kernel
    · intro c hc
      cases hc
      decide
    · exact List.forall_mem_cons.mpr ⟨by decide, List.forall_mem_singleton.mpr (by decide)⟩
  · intro earlier hearlier other hother
    have hsome := countHere?_of_begins areApart_headWords hother
    rw [hnone earlier hearlier] at hsome
    cases hsome

theorem limit_readAndShown_topics :
    IsFirstCount headWords (normalize topics.toList) 12 ['\u0661', '\u0662'] ∧
    limit headWords 10 (normalize topics.toList) = .ok (some 12) ∧
    (∀ position run, ¬ BeginsWithCount tailWords ((normalize topics.toList).drop position) run) ∧
    limit tailWords 10 (normalize topics.toList) = .ok (some 10) ∧
    (ask {} [[("topic", .text "ink")]] topics).error = none ∧
    Signals.ShowsLimit (ask {} [[("topic", .text "ink")]] topics).query 12 := by
  obtain ⟨hhead, htail, hshown⟩ := limit_readAndShown {}
  have hlimit : limit headWords 10 (normalize topics.toList) = .ok (some 12) :=
    (hhead _).counted 12 _ isFirstCount_topics
  have hnone : ∀ position run,
      ¬ BeginsWithCount tailWords ((normalize topics.toList).drop position) run :=
    (countDigits?_eq_none_iff areApart_tailWords).mp (by decide +kernel)
  have hlast : ∃ word ∈ tailWords, word <:+: normalize topics.toList :=
    mentions_iff.mp (by decide +kernel)
  have herror : (ask {} [[("topic", .text "ink")]] topics).error = none := by decide +kernel
  obtain ⟨signals, hsignals⟩ := hshown _ _ herror
  refine ⟨isFirstCount_topics, hlimit, hnone, (htail _).otherwise hlast hnone, herror, ?_⟩
  rw [hsignals.shown]
  exact Except.ok.inj (hsignals.read.symm.trans hlimit)

end Answer
end TableTalk
