import TableTalk.Proofs.Answer.Execution
import TableTalk.Proofs.Cascade.ClosedForm
import TableTalk.Proofs.Question.Query
import TableTalk.Proofs.Question.Requests

/-! Whether the query of an answer shows the aggregate that its rows are. The two agree unless a
question has words for an average and for a sum: then the total is computed, which comes last, but
the average is shown, which is looked at first. -/
namespace TableTalk.Answer
open Cascade Signals

variable {settings : Settings} {table rows : Table} {signals : Signals} {query column : String}

/-- A query that selects an aggregate is that of the only cell, and a total that is computed is
what the query selects unless groups were asked for. -/
structure ShowsAggregate (signals : Signals) (answer : Answer) : Prop where
  average : ∀ column, Projects answer.query (averageProjection column) →
    HasOnlyCell answer.rows ("average_" ++ column)
  total : ∀ column, Projects answer.query (sumProjection column) →
    HasOnlyCell answer.rows ("total_" ++ column)
  selected : ∀ column, named? signals.aggregateColumn = some column →
    signals.sumRequested = true → signals.groupRequested = false →
      Projects answer.query (sumProjection column)

/-- An average and a total of a column are asked for, and no groups. -/
def AsksBoth (signals : Signals) : Prop :=
  signals.groupRequested = false ∧ signals.averageRequested = true ∧
    signals.sumRequested = true ∧ ∃ column, named? signals.aggregateColumn = some column

theorem hasOnlyCell_inj {other : String} (h : HasOnlyCell rows column)
    (h' : HasOnlyCell rows other) : column = other := by
  obtain ⟨cell, rfl⟩ := h
  obtain ⟨cell', h'⟩ := h'
  simp only [List.cons.injEq, Prod.mk.injEq, and_true] at h'
  exact h'.1

/-- A total that is asked for is what the rows are. -/
theorem hasOnlyCell_total (hrun : run table signals = .ok rows)
    (hcolumn : named? signals.aggregateColumn = some column) (hsum : signals.sumRequested = true) :
    HasOnlyCell rows ("total_" ++ column) := by
  have hclosed := (run_eq_ok_iff.mp hrun).2
  rw [closedForm_eq_totalOf hcolumn hsum] at hclosed
  exact totalOf_hasOnlyCell hclosed

theorem hasOnlyCell_average (hrun : run table signals = .ok rows)
    (hcolumn : named? signals.aggregateColumn = some column) (hsum : signals.sumRequested = false)
    (haverage : signals.averageRequested = true) : HasOnlyCell rows ("average_" ++ column) := by
  have hclosed := (run_eq_ok_iff.mp hrun).2
  rw [closedForm_eq_averageOf hcolumn hsum haverage] at hclosed
  exact averageOf_hasOnlyCell hclosed

theorem showsAggregate_iff {answer : Answer} (hrun : run table signals = .ok answer.rows)
    (hquery : signals.query = .ok answer.query) :
    ShowsAggregate signals answer ↔ ¬ AsksBoth signals := by
  constructor
  · rintro hshows ⟨hgroup, haverage, hsum, column, hcolumn⟩
    have hselected := hshows.selected column hcolumn hsum hgroup
    rw [projects_sum_iff hquery] at hselected
    simp [haverage] at hselected
  · intro hboth
    refine ⟨fun column h => ?_, fun column h => ?_, fun column hcolumn hsum hgroup => ?_⟩
    · rw [projects_average_iff hquery] at h
      obtain ⟨hgroup, hcolumn, haverage⟩ := h
      have hsum : signals.sumRequested = false := by
        by_contra hsum
        exact hboth ⟨hgroup, haverage, by simpa using hsum, column, hcolumn⟩
      exact hasOnlyCell_average hrun hcolumn hsum haverage
    · rw [projects_sum_iff hquery] at h
      obtain ⟨-, hcolumn, -, hsum⟩ := h
      exact hasOnlyCell_total hrun hcolumn hsum
    · rw [projects_sum_iff hquery]
      have haverage : signals.averageRequested = false := by
        by_contra haverage
        exact hboth ⟨hgroup, by simpa using haverage, hsum, column, hcolumn⟩
      exact ⟨hgroup, hcolumn, haverage, hsum⟩

/-- The words of a question ask for an average and a total, and not for groups. -/
def MixesAggregates (question : List Char) : Prop :=
  Question.mentions Question.averageWords (Question.normalize question) = true ∧
    Question.mentions Question.sumWords (Question.normalize question) = true ∧
    Question.mentions Question.groupWords (Question.normalize question) = false

theorem asksBoth_iff {question : List Char}
    (h : Question.signals settings table question = .ok signals) :
    AsksBoth signals ↔ MixesAggregates question ∧
      ∃ column, named? signals.aggregateColumn = some column := by
  have hmatches := Question.signals_eq_ok_iff.mp h
  rw [AsksBoth, MixesAggregates, hmatches.groupRequested, hmatches.average, hmatches.sum]
  constructor
  · rintro ⟨hgroup, haverage, hsum, hcolumn⟩
    exact ⟨⟨haverage, hsum, hgroup⟩, hcolumn⟩
  · rintro ⟨⟨haverage, hsum, hgroup⟩, hcolumn⟩
    exact ⟨hgroup, haverage, hsum, hcolumn⟩

/-- An answer shows the aggregate that it has computed, unless the question mixes aggregates of a
numeric column: then it shows the average and has computed the total. -/
theorem query_shows_aggregate_iff {items : List Item} {question : Prompt}
    (h : (execute settings items question).error = none) :
    ∃ table text signals, items = table.map Item.row ∧ question = .text text ∧
      Question.signals settings table text.toList = .ok signals ∧
      (ShowsAggregate signals (execute settings items question) ↔
        ¬ (MixesAggregates text.toList ∧
          ∃ column, named? signals.aggregateColumn = some column)) ∧
      (MixesAggregates text.toList → ∀ column, named? signals.aggregateColumn = some column →
        Projects (execute settings items question).query (averageProjection column) ∧
          HasOnlyCell (execute settings items question).rows ("total_" ++ column)) := by
  obtain ⟨table, text, signals, hitems, htext, hsignals, hrun, hquery⟩ := execute_answered h
  refine ⟨table, text, signals, hitems, htext, hsignals, ?_, fun hmixes column hcolumn => ?_⟩
  · rw [showsAggregate_iff hrun hquery, asksBoth_iff hsignals]
  · obtain ⟨hgroup, haverage, hsum, -⟩ := (asksBoth_iff hsignals).mpr ⟨hmixes, column, hcolumn⟩
    rw [projects_average_iff hquery]
    exact ⟨⟨hgroup, hcolumn, haverage⟩, hasOnlyCell_total hrun hcolumn hsum⟩

/-- A question with a limit and a total of the first numeric column shows what it computes. -/
theorem query_shows_aggregate_first_total :
    (execute {} (articles.map Item.row) (.text "Total of the first 2")).error = none ∧
      ∃ table text signals, articles.map Item.row = table.map Item.row ∧
        Prompt.text "Total of the first 2" = .text text ∧
        Question.signals {} table text.toList = .ok signals ∧
        ShowsAggregate signals
          (execute {} (articles.map Item.row) (.text "Total of the first 2")) := by
  have herror : (execute {} (articles.map Item.row) (.text "Total of the first 2")).error =
      none := by decide +kernel
  obtain ⟨table, text, signals, hitems, htext, hsignals, hshows, -⟩ :=
    query_shows_aggregate_iff herror
  have hmixes : ¬ MixesAggregates "Total of the first 2".toList := fun hmixes =>
    absurd hmixes.1 (by decide +kernel)
  refine ⟨herror, table, text, signals, hitems, htext, hsignals, hshows.mpr fun hboth => ?_⟩
  cases htext
  exact hmixes hboth.1

/-- Asked for the average and the sum, an answer shows an average and has computed the total. -/
theorem query_shows_average_of_total :
    (execute {} (articles.map Item.row) (.text "average and sum of price")).error = none ∧
      Projects (execute {} (articles.map Item.row) (.text "average and sum of price")).query
        (averageProjection "price") ∧
      ¬ HasOnlyCell (execute {} (articles.map Item.row) (.text "average and sum of price")).rows
        "average_price" := by
  have hrows : (execute {} (articles.map Item.row) (.text "average and sum of price")).rows =
      [[("total_price", .int 11)]] := by rfl
  refine ⟨by rfl, ⟨none, by decide +kernel⟩, ?_⟩
  rw [hrows]
  exact fun h => absurd (hasOnlyCell_inj h ⟨.int 11, rfl⟩) (by decide)

end TableTalk.Answer
