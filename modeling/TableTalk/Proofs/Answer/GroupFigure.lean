import TableTalk.Proofs.Answer.Execution
import TableTalk.Proofs.Cascade.Groups
import TableTalk.Proofs.Chart.Agreement
import TableTalk.Proofs.Question.Requests

/-! The figure of groups. A question that asks for groups has a word for which bars are chosen, or
lines if it speaks of time, and the counts are numbers in every row, whatever the grouped column is
called and shows. So there is always a figure, and the counts are one of its series. -/
namespace TableTalk
open TableTalk.Text TableTalk.Number

variable {table groups : Table} {signals : Signals} {column text : String}

namespace Cascade

theorem length_selected_le (table : Table) (signals : Signals) :
    (selected table signals).length ≤ table.length := by
  have hlimits : (inLimits table signals).length ≤ table.length := by
    rw [inLimits, between_eq_drop_take]
    exact ((List.drop_sublist _ _).trans (List.take_sublist _ _)).length_le
  unfold selected
  split
  · exact (List.length_filter_le _ _).trans hlimits
  · exact hlimits

/-- Groups of cells that are not overlong can be drawn: the texts that they show are not overlong
either, and there are no more rows to count than the limit on integers allows. -/
theorem isPresentable_countBy {rows : Table} (h : countBy column rows = .ok groups)
    (hshort : ∀ row ∈ rows, ¬ (row.get column).IsOverlong)
    (hsize : rows.length < 10 ^ digitLimit) : groups.IsPresentable := by
  obtain ⟨texts, hrows, hgroups⟩ := exists_countBy_eq_ok (exists_countBy_iff.mp ⟨groups, h⟩)
  obtain rfl := Except.ok.inj (hgroups.symm.trans h)
  apply Table.isPresentable_of_cells
  rw [List.forall_mem_map]
  intro text htext entry hentry
  rcases mem_groupRow hentry with hcell | hcell
  · obtain ⟨row, hrow, hshown⟩ := hrows.exists_of_mem_right (List.mem_eraseDups.mp htext)
    rw [hcell]
    exact ⟨Cell.not_isOverlong_renderText hshown (hshort row hrow), text,
      Cell.renderText_ofSymbols text⟩
  · have hbelow : (Cell.int (rows.countP (showsText column text))).IntegersBelow
        (10 ^ digitLimit) := by
      rw [Cell.IntegersBelow, Int.natAbs_natCast]
      exact List.countP_le_length.trans_lt hsize
    rw [hcell]
    exact ⟨by simp [Cell.IsOverlong], hbelow.shows le_rfl⟩

theorem get_count {rows : Table} (h : countBy column rows = .ok groups) {group : Row}
    (hgroup : group ∈ groups) : group.get "count" = .int (countOf group) := by
  obtain ⟨texts, -, hgroups⟩ := exists_countBy_eq_ok (exists_countBy_iff.mp ⟨groups, h⟩)
  obtain rfl := Except.ok.inj (hgroups.symm.trans h)
  obtain ⟨text, -, rfl⟩ := List.mem_map.mp hgroup
  rw [countOf, groupRow_count]

theorem isNumeric_count {rows : Table} (h : countBy column rows = .ok groups) :
    groups.isNumeric "count" = true := by
  rw [Table.isNumeric, List.all_eq_true]
  intro group hgroup
  rw [get_count h hgroup]
  rfl

/-- The counts are the only series of their name, next to the grouped column at most. -/
theorem columns_countBy {rows : Table} (h : countBy column rows = .ok groups)
    (hne : groups ≠ []) : groups.columns.Nodup ∧ groups.columns.length ≤ 2 ∧
      "count" ∈ groups.columns := by
  obtain ⟨group, rest, rfl⟩ := List.exists_cons_of_ne_nil hne
  have hcolumns := columns_of_countBy h group List.mem_cons_self
  rw [Table.columns, hcolumns]
  split
  · decide
  case isFalse hcount => exact ⟨by simpa using hcount, le_rfl, by simp⟩

end Cascade

namespace Figure

/-- The figure of groups: a label for each row that is shown, and one series with the counts. -/
structure ShowsCounts (groups : Table) (labels : List Symbols) (series : List Series) : Prop where
  labelled : labels.length = min 20 groups.length
  distinct : (series.map Series.name).Nodup
  counts : ∃ counts ∈ series, counts.name = "count" ∧
    counts.values = (groups.take 20).map fun group => .int (Cascade.countOf group)

variable {rows : Table} {type : ChartType} {plot : List Symbols → List Series → Plot}

/-- The values of the count column are the counts of the groups. -/
theorem values_of_draws_count (h : Cascade.countBy column rows = .ok groups) {series : Series}
    (hdraws : Draws "count" (groups.take 20) series) :
    series.values = (groups.take 20).map fun group => .int (Cascade.countOf group) := by
  have hcounts : ∀ group ∈ groups.take 20, group.get "count" = .int (Cascade.countOf group) :=
    fun group hgroup => Cascade.get_count h (List.mem_of_mem_take hgroup)
  have hvalues := ((List.forall₂_and_left _ _).mpr ⟨hcounts, hdraws.values⟩).imp
    (S := fun group value => .int (Cascade.countOf group) = value) fun group value hvalue => by
      obtain ⟨hcount, hvalue⟩ := hvalue
      rw [hcount] at hvalue
      exact Except.ok.inj hvalue
  rw [← List.forall₂_map_left_iff, List.forall₂_eq_eq_eq] at hvalues
  exact hvalues.symm

theorem exists_draw_counts (h : Cascade.countBy column rows = .ok groups)
    (hpresentable : groups.IsPresentable) (hne : groups ≠ []) (htype : DrawsSeries type plot)
    (question : String) :
    ∃ labels series, draw {} groups question type = some ⟨titleOf question, plot labels series⟩ ∧
      ShowsCounts groups labels series := by
  obtain ⟨hnodup, hlength, hcount⟩ := Cascade.columns_countBy h hne
  have hmem : "count" ∈ drawn groups :=
    List.mem_filter.mpr ⟨hcount, Table.isNumeric_take (Cascade.isNumeric_count h) _⟩
  have hall : (drawn groups).take 3 = drawn groups :=
    List.take_of_length_le ((List.length_filter_le _ _).trans (hlength.trans (by decide)))
  obtain ⟨column, -, labels, series, hdraw, hlabels, hseries⟩ :=
    exists_draw hpresentable htype question (List.ne_nil_of_mem hmem)
  rw [hall] at hseries
  have hnames : series.map Series.name = drawn groups := by
    have hsame := hseries.imp fun _ _ hdraws => hdraws.name.symm
    rw [← List.forall₂_map_right_iff, List.forall₂_eq_eq_eq] at hsame
    exact hsame.symm
  obtain ⟨counts, hcounts, hdraws⟩ := hseries.flip.exists_of_mem_right hmem
  refine ⟨labels, series, hdraw, ?_, ?_, counts, hcounts, hdraws.name,
    values_of_draws_count h hdraws⟩
  · rw [hlabels.length, List.length_take]
  · rw [hnames]
    exact hnodup.filter _

end Figure

namespace Answer
open Cascade Figure ChartType

/-- A question that names a column to group by speaks of counts or groups. -/
theorem occurs_of_groupColumn {settings : Settings}
    (hsignals : Question.signals settings table text.toList = .ok signals)
    (hcolumn : Signals.named? signals.groupColumn = some column) :
    (occurs text "count" || occurs text "group") = true := by
  have hgroup := (Question.signals_eq_ok_iff.mp hsignals).group
  split_ifs at hgroup with hmentions
  · rw [Question.mentions, List.any_eq_true] at hmentions
    obtain ⟨word, hword, hoccurs⟩ := hmentions
    have hinfix : word <:+: lower text.toList :=
      (occursIn_iff.mp hoccurs).trans (infix_trim _)
    rw [Bool.or_eq_true, occurs, occurs, occursIn_iff, occursIn_iff]
    simp only [Question.groupWords, List.mem_cons, List.not_mem_nil, or_false] at hword
    rcases hword with rfl | rfl
    · have hstart : "group".toList <:+: "group by".toList := by decide
      exact .inr (hstart.trans hinfix)
    · exact .inl hinfix
  · rw [hgroup] at hcolumn
    cases hcolumn

/-- Groups always come with a figure of their counts. -/
theorem group_figure (hcells : ∀ row ∈ table, ∀ entry ∈ row, ¬ entry.2.IsOverlong)
    (hsize : table.length < 10 ^ digitLimit) (hanswer : (ask {} table text).error = none)
    (hsignals : Question.signals {} table text.toList = .ok signals)
    (hcolumn : Signals.named? signals.groupColumn = some column)
    (haggregate : ¬ HasAggregate signals) (hrows : (ask {} table text).rows ≠ []) :
    ∃ labels series, ShowsCounts (ask {} table text).rows labels series ∧
      ofRows {} (ask {} table text).rows text none = .ok (some ⟨titleOf text,
        if occurs text "trend" || occurs text "over time" then .lines labels series
        else .bars labels series⟩) := by
  obtain ⟨signals', hsignals', hrun, -⟩ := ask_answered hanswer
  cases hsignals.symm.trans hsignals'
  have hgroups : countBy column (selected table signals) = .ok (ask {} table text).rows := by
    have hclosed := (run_eq_ok_iff.mp hrun).2
    rwa [closedForm_eq_groups haggregate, hcolumn] at hclosed
  have hpresentable : (ask {} table text).rows.IsPresentable := by
    refine isPresentable_countBy hgroups (fun row hrow => ?_)
      ((length_selected_le table signals).trans_lt hsize)
    rcases row.get_eq_null_or_mem column with hnull | ⟨entry, hentry, hget⟩
    · simp [hnull, Cell.IsOverlong]
    · exact hget ▸ hcells row (mem_of_mem_selected hrow) entry hentry
  have hchoose := choose_eq hrows hpresentable text
  rw [occurs_of_groupColumn hsignals hcolumn, if_pos rfl] at hchoose
  split_ifs at hchoose ⊢ with htime
  · obtain ⟨labels, series, hdraw, hcounts⟩ :=
      exists_draw_counts hgroups hpresentable hrows .line text
    exact ⟨labels, series, hcounts, by rw [ofRows_of_choose hrows hchoose, hdraw]⟩
  · obtain ⟨labels, series, hdraw, hcounts⟩ :=
      exists_draw_counts hgroups hpresentable hrows .bar text
    exact ⟨labels, series, hcounts, by rw [ofRows_of_choose hrows hchoose, hdraw]⟩

/-- Visits with a column of the name of the counts, and days that look like numbers. -/
def visits : Table :=
  [[("count", .int 7), ("day", .text "1")], [("count", .null), ("day", .int 1)],
   [("day", .float 2), ("count", .text "7")]]

theorem not_isOverlong_visits : ∀ row ∈ visits, ∀ entry ∈ row, ¬ entry.2.IsOverlong := by
  have hother (cell : Cell) (h : cell.kindName ≠ "str") : ¬ cell.IsOverlong := by
    rintro ⟨s, count, rfl, -⟩
    exact h rfl
  simp only [visits, List.forall_mem_cons, List.not_mem_nil, false_implies, forall_const, and_true]
  exact ⟨⟨hother _ (by decide), Cell.not_isOverlong_of_length (by decide)⟩,
    ⟨hother _ (by decide), hother _ (by decide)⟩,
    hother _ (by decide), Cell.not_isOverlong_of_length (by decide)⟩

/-- Lines for the counts themselves, bars for the days. -/
theorem group_figure_visits :
    (∀ row ∈ visits, ∀ entry ∈ row, ¬ entry.2.IsOverlong) ∧
      (∃ labels series, ShowsCounts (ask {} visits "Count over time").rows labels series ∧
        ofRows {} (ask {} visits "Count over time").rows "Count over time" none =
          .ok (some ⟨titleOf "Count over time", .lines labels series⟩)) ∧
      ∃ labels series, ShowsCounts (ask {} visits "group by day").rows labels series ∧
        ofRows {} (ask {} visits "group by day").rows "group by day" none =
          .ok (some ⟨titleOf "group by day", .bars labels series⟩) := by
  have hsize : visits.length < 10 ^ digitLimit := by decide +kernel
  refine ⟨not_isOverlong_visits, ?_, ?_⟩
  · have hsignals : Question.signals {} visits "Count over time".toList =
        .ok { groupRequested := true, groupColumn := some "count" } := by decide +kernel
    exact group_figure not_isOverlong_visits hsize (by decide +kernel) hsignals rfl
      (by simp [HasAggregate]) (by decide +kernel)
  · have hsignals : Question.signals {} visits "group by day".toList =
        .ok { groupRequested := true, groupColumn := some "day" } := by decide +kernel
    exact group_figure not_isOverlong_visits hsize (by decide +kernel) hsignals rfl
      (by simp [HasAggregate]) (by decide +kernel)

end Answer
end TableTalk
