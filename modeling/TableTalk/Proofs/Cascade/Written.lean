import TableTalk.Proofs.Cascade.ClosedForm
import TableTalk.Proofs.Table.Written

/-! A cascade over a table with its integers written out. Filters, groups, averages and totals see
the texts and the numbers of cells only, so they do the same; rows that are neither grouped nor
replaced by an aggregate come out with their integers written out as well. -/
namespace TableTalk.Cascade
open TableTalk.Text

variable {table rows : Table} {signals : Signals} {column : String} {row : Row}

theorem renderText_get_written (h : row.IsWritable) (column : String) :
    (row.written.get column).renderText = (row.get column).renderText := by
  rw [Row.get_written, Cell.renderText_written (h column)]

/-- The filter keeps the same rows. -/
theorem keepMentions_written (h : ∀ row ∈ rows, row.IsWritable) :
    keepMentions column rows.written = (keepMentions column rows).map Table.written := by
  induction rows with
  | nil => rfl
  | cons row rest ih =>
    rw [List.forall_mem_cons] at h
    have hcons : Table.written (row :: rest) = row.written :: Table.written rest := rfl
    rw [hcons, keepMentions, keepMentions, mentionsColumn, renderText_get_written h.1, ih h.2,
      ← mentionsColumn]
    cases mentionsColumn column row with
    | error fault => rfl
    | ok keep =>
      cases keepMentions column rest with
      | error fault => rfl
      | ok kept => cases keep <;> rfl

theorem countBy_written (h : ∀ row ∈ rows, row.IsWritable) :
    countBy column rows.written = countBy column rows := by
  have htexts : shownTexts column rows.written = shownTexts column rows := by
    rw [shownTexts, Table.written, List.mapM_map, shownTexts]
    exact Except.mapM_congr fun row hrow => renderText_get_written (h row hrow) column
  rw [countBy, htexts, countBy]

theorem columnSum_written (h : ∀ row ∈ table, row.IsWritable) :
    columnSum table.written column = columnSum table column := by
  have hnumbers : table.written.mapM (fun row => (row.get column).toNumberOrZero) =
      table.mapM (fun row => (row.get column).toNumberOrZero) := by
    rw [Table.written, List.mapM_map]
    apply Except.mapM_congr
    intro row hrow
    rw [Function.comp_apply, Row.get_written, Cell.toNumberOrZero_written (h row hrow column)]
  rw [columnSum, hnumbers, columnSum]

theorem aggregated_written (h : ∀ row ∈ table, row.IsWritable) (rows : Table) :
    aggregated table.written signals rows = aggregated table signals rows := by
  have hlength : table.written.length = table.length := List.length_map _
  have haverage (column : String) : averageOf table.written column = averageOf table column := by
    rw [averageOf, columnSum_written h, hlength, averageOf]
  have htotal (column : String) : totalOf table.written column = totalOf table column := by
    rw [totalOf, columnSum_written h, totalOf]
  simp only [aggregated, haverage, htotal]

theorem limited_written (table : Table) (signals : Signals) :
    limited table.written signals = (limited table signals).written := by
  unfold limited Table.written
  cases signals.limitHead <;> cases signals.limitTail <;>
    simp [Table.takeFirst_map, Table.takeLast_map]

/-- Rows are grouped, or an aggregate takes their place. -/
def Transforms (signals : Signals) : Prop :=
  (∃ column, Signals.named? signals.groupColumn = some column) ∨ HasAggregate signals

theorem aggregated_eq_self (h : ¬ HasAggregate signals) (rows : Table) :
    aggregated table signals rows = .ok rows := by
  unfold aggregated
  cases hcolumn : Signals.named? signals.aggregateColumn with
  | none => rfl
  | some column =>
    have hrequested : signals.sumRequested = false ∧ signals.averageRequested = false := by
      simpa [HasAggregate, hcolumn] using h
    simp [hrequested]

/-- An aggregate does not look at the rows before it. -/
theorem aggregated_eq_of_hasAggregate (h : HasAggregate signals) (rows other : Table) :
    aggregated table signals rows = aggregated table signals other := by
  obtain ⟨⟨column, hcolumn⟩, hrequested⟩ := h
  simp only [aggregated, hcolumn]
  cases haverage : signals.averageRequested with
  | true => rfl
  | false =>
    have hsum : signals.sumRequested = true := by simpa [haverage] using hrequested
    simp [hsum]

theorem stage_keepMentions_written (h : ∀ row ∈ rows, row.IsWritable) (filter : Option String) :
    stage keepMentions filter rows.written =
      (stage keepMentions filter rows).map Table.written := by
  cases filter with
  | none => rfl
  | some column => exact keepMentions_written h

theorem run_written (h : ∀ row ∈ table, row.IsWritable) (signals : Signals) :
    (Transforms signals → run table.written signals = run table signals) ∧
      (¬ Transforms signals →
        run table.written signals = (run table signals).map Table.written) := by
  have hlimited : ∀ row ∈ limited table signals, row.IsWritable :=
    fun row hrow => h row (mem_of_mem_limited hrow)
  simp only [run_eq_stages, limited_written, stage_keepMentions_written hlimited]
  cases hkept : stage keepMentions (Signals.named? signals.filterColumn)
      (limited table signals) with
  | error fault => exact ⟨fun _ => rfl, fun _ => rfl⟩
  | ok kept =>
    have hwritable : ∀ row ∈ kept, row.IsWritable :=
      fun row hrow => hlimited row (mem_of_mem_stage_keepMentions hkept hrow)
    simp only [Except.map, Except.ok_bind]
    constructor
    · intro htransforms
      cases hgroup : Signals.named? signals.groupColumn with
      | some column =>
        have haggregated : aggregated table.written signals = aggregated table signals :=
          funext (aggregated_written h)
        rw [stage, countBy_written hwritable, stage, haggregated]
      | none =>
        have haggregate : HasAggregate signals := by simpa [Transforms, hgroup] using htransforms
        simp only [stage, Except.ok_bind, aggregated_written h]
        exact aggregated_eq_of_hasAggregate haggregate _ _
    · intro hplain
      obtain ⟨hgroup, haggregate⟩ := not_or.mp hplain
      have hgroup : Signals.named? signals.groupColumn = none :=
        Option.eq_none_iff_forall_ne_some.mpr (not_exists.mp hgroup)
      simp only [hgroup, stage, Except.ok_bind, aggregated_eq_self haggregate]

end TableTalk.Cascade
