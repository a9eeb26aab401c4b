import TableTalk.Proofs.Answer.Execution
import TableTalk.Proofs.Cascade.ClosedForm
import TableTalk.Proofs.Classification
import TableTalk.Proofs.Question.Counts
import TableTalk.Proofs.Question.Query
import TableTalk.Proofs.Question.Requests
import TableTalk.Proofs.Table.Reasonable

/-! Questions that have an answer without an error. About a reasonable table these are all that do
not ask for a number of rows with too many digits. -/
namespace TableTalk
open TableTalk.Text

namespace Cascade

variable {table rows : Table} {signals : Signals}

theorem Proceeds.of_isReasonable (h : table.IsReasonable)
    (hne : ∀ column, Signals.named? signals.aggregateColumn = some column → table ≠ []) :
    Proceeds table signals where
  filter column _ _ hrow := (h.get (mem_of_mem_inLimits hrow) column).shows
  group column _ _ hrow := (h.get (mem_of_mem_selected hrow) column).shows
  average column hcolumn _ := h.exists_averageOf_eq_ok (hne column hcolumn) column
  total column _ _ := h.exists_totalOf_eq_ok column

end Cascade

namespace Answer
open Cascade

variable {table : Table} {question : String}

/-- The first numeric column, if it is looked for, is a column of some rows. -/
theorem exists_aggregateColumn (h : table.IsReasonable) (requested : Bool) :
    ∃ aggregate : Option String, (if requested = true
      then ∃ classification,
        Classification.classify (.ofSettings {} none none) table = .ok classification ∧
          aggregate = classification.firstNumeric
      else aggregate = none) ∧ ∀ column, aggregate = some column → table ≠ [] := by
  obtain ⟨classification, hclassify⟩ := Classification.exists_classify_eq_ok
    (.ofSettings {} none none)
    fun row hrow entry hentry => (h.cells row hrow entry hentry).not_isOverlong
  cases requested with
  | false => exact ⟨none, rfl, nofun⟩
  | true =>
    exact ⟨classification.firstNumeric, ⟨classification, hclassify, rfl⟩,
      fun _ hfirst => Classification.ne_nil_of_firstNumeric hclassify hfirst⟩

/-- The signals of a question without too long numbers. An aggregate has a table to work on. -/
theorem exists_signals_eq_ok (h : table.IsReasonable)
    (hquestion : Question.HasShortRuns question.toList) :
    ∃ signals, Question.signals {} table question.toList = .ok signals ∧
      (∃ query, signals.query = .ok query) ∧
      ∀ column, Signals.named? signals.aggregateColumn = some column → table ≠ [] := by
  have hdefault : (({} : Settings).defaultLimit).natAbs < 10 ^ digitLimit := by decide +kernel
  obtain ⟨head, hhead, hwritable⟩ :=
    Question.exists_limit_eq_ok Question.headWords hquestion.normalize hdefault
  obtain ⟨tail, htail, -⟩ :=
    Question.exists_limit_eq_ok Question.tailWords hquestion.normalize hdefault
  obtain ⟨aggregate, haggregate, hne⟩ := exists_aggregateColumn h
    (Question.mentions Question.averageWords (Question.normalize question.toList) ||
      Question.mentions Question.sumWords (Question.normalize question.toList))
  obtain ⟨signals, hsignals, rfl, rfl⟩ := Question.exists_signals_eq_ok hhead htail haggregate
  refine ⟨signals, hsignals, ?_, fun column hcolumn => ?_⟩
  · exact Signals.exists_query_eq_ok hwritable
  · exact hne column (Option.filter_eq_some_iff.mp hcolumn).1

/-- Every question about a reasonable table is answered: its signals are found, every step goes
through, and an average is taken of one row at least. -/
theorem ask_reasonable (h : table.IsReasonable)
    (hquestion : Question.HasShortRuns question.toList) :
    (ask {} table question).error = none ∧
      ∃ signals, Question.signals {} table question.toList = .ok signals ∧
        run table signals = .ok (ask {} table question).rows ∧ Proceeds table signals ∧
        ∀ column, Signals.named? signals.aggregateColumn = some column → table ≠ [] := by
  obtain ⟨signals, hsignals, ⟨query, hquery⟩, hne⟩ := exists_signals_eq_ok h hquestion
  have hproceeds : Proceeds table signals := .of_isReasonable h hne
  obtain ⟨rows, hclosed⟩ := exists_closedForm_eq_ok hproceeds
  have hrun : run table signals = .ok rows := run_eq_ok_iff.mpr ⟨hproceeds, hclosed⟩
  have hlegal : IsLegal rows :=
    run_legal (fun row hrow entry hentry => (h.cells row hrow entry hentry).legal) hrun
  have hcheck : checkCells "QueryResult" rows = .ok () := by
    rw [checkCells, Table.illegalCells_eq_zero_iff.mpr hlegal]
    rfl
  rw [ask_eq hsignals hrun hquery hcheck]
  exact ⟨rfl, signals, hsignals, hrun, hproceeds, hne⟩

/-- Rows of different columns, with an infinite float between large and small numbers. -/
def raggedRows : Table :=
  [[("n", .int (10 ^ 299)), ("x", .float (1 / 0))], [("n", .float (1 / 4))],
   [("x", .null), ("n", .text " -12 "), ("label", .text "inf")], []]

theorem isReasonable_raggedRows : raggedRows.IsReasonable := by
  have hlarge : ((10 : Int) ^ 299).natAbs < 10 ^ 300 := by decide +kernel
  refine ⟨by decide, ?_⟩
  simp only [raggedRows, List.forall_mem_cons, List.not_mem_nil, false_implies, forall_const,
    and_true]
  exact ⟨⟨Cell.isReasonable_int hlarge, Cell.isReasonable_float _⟩, Cell.isReasonable_float _,
    Cell.isReasonable_null, Cell.isReasonable_text (by decide), Cell.isReasonable_text (by decide)⟩

/-- An average is asked for, of rows with all kinds of cells and of no rows at all. -/
theorem ask_reasonable_raggedRows :
    raggedRows.IsReasonable ∧ Table.IsReasonable [] ∧
      Question.HasShortRuns "average and total of the top 3".toList ∧
      (ask {} raggedRows "average and total of the top 3").error = none ∧
      (ask {} [] "average and total of the top 3").error = none := by
  have hempty : Table.IsReasonable [] := ⟨by decide, nofun⟩
  have hquestion : Question.HasShortRuns "average and total of the top 3".toList :=
    Question.hasShortRuns_of_length (by decide)
  exact ⟨isReasonable_raggedRows, hempty, hquestion,
    (ask_reasonable isReasonable_raggedRows hquestion).1, (ask_reasonable hempty hquestion).1⟩

end Answer
end TableTalk
