import Mathlib.Algebra.BigOperators.Ring.Finset
import TableTalk.Proofs.Cascade.ClosedForm
import TableTalk.Proofs.Tally

/-! The groups of a column. There is one for each text that the column shows, in the order in which
the texts first come, and it counts the rows that show its text. So every row is in one group, and
the counts add up to the number of rows that were grouped. -/
namespace TableTalk.Cascade
open TableTalk.Text

variable {table rows groups : Table} {signals : Signals} {column : String} {text : Symbols}
  {texts : List Symbols}

/-- Whether a row shows a text in a column. -/
def showsText (column : String) (text : Symbols) (row : Row) : Bool :=
  match (row.get column).renderText with
  | .ok shown => shown == text
  | .error _ => false

/-- The group of a text in some rows. If the grouped column is itself called "count", the count
takes the place of the text. -/
structure IsGroup (column : String) (rows : Table) (text : Symbols) (group : Row) : Prop where
  columns : group.columns = if column = "count" then ["count"] else [column, "count"]
  key : column ≠ "count" → group.get column = .ofSymbols text
  count : group.get "count" = .int (rows.countP (showsText column text))
  pos : 0 < rows.countP (showsText column text)

/-- The number in the count column of a row. -/
def countOf (group : Row) : Int :=
  match group.get "count" with
  | .int n => n
  | _ => 0

theorem groupRow_count (column : String) (n : Nat) :
    (groupRow column (text, n)).get "count" = .int n := by
  by_cases h : column = "count"
  · simp [groupRow, Row.ofCells, Row.set, Row.get, h]
  · have hne : ("count" == column) = false := by simpa using Ne.symm h
    simp [groupRow, Row.ofCells, Row.set, Row.get, h, List.lookup_cons, hne]

theorem columns_groupRow (column : String) (n : Nat) : (groupRow column (text, n)).columns =
    if column = "count" then ["count"] else [column, "count"] := by
  by_cases h : column = "count" <;> simp [groupRow, Row.ofCells, Row.set, Row.columns, h]

theorem groupRow_key (h : column ≠ "count") (n : Nat) :
    (groupRow column (text, n)).get column = .ofSymbols text := by
  simp [groupRow, Row.ofCells, Row.set, Row.get, h]

theorem columns_of_countBy (h : countBy column rows = .ok groups) : ∀ group ∈ groups,
    group.columns = if column = "count" then ["count"] else [column, "count"] := by
  simp only [countBy, Except.bind_eq_ok_iff, Except.pure_eq_ok_iff] at h
  obtain ⟨texts, -, rfl⟩ := h
  rw [List.forall_mem_map]
  exact fun group _ => columns_groupRow column group.2

/-- How often a text is among the texts of some rows. -/
theorem count_texts
    (h : List.Forall₂ (fun row text => (row.get column).renderText = .ok text) rows texts) :
    texts.count text = rows.countP (showsText column text) := by
  induction h with
  | nil => rfl
  | cons hrow _ ih => rw [List.count_cons, List.countP_cons, ih, showsText, hrow]

/-- Rows that all show something are grouped by the texts that they show. -/
theorem exists_countBy_eq_ok (h : ∀ row ∈ rows, Shows (row.get column)) :
    ∃ texts, List.Forall₂ (fun row text => (row.get column).renderText = .ok text) rows texts ∧
      countBy column rows = .ok (texts.eraseDups.map fun text =>
        groupRow column (text, rows.countP (showsText column text))) := by
  obtain ⟨texts, htexts⟩ := Except.exists_mapM_eq_ok_iff.mpr h
  have hrows := Except.mapM_eq_ok_iff.mp htexts
  have hcounts : (Tally.ofList texts).map (groupRow column) = texts.eraseDups.map fun text =>
      groupRow column (text, rows.countP (showsText column text)) := by
    rw [Tally.ofList_eq, List.map_map]
    exact List.map_congr_left fun text _ => by rw [Function.comp_apply, count_texts hrows]
  refine ⟨texts, hrows, ?_⟩
  rw [← hcounts, countBy, shownTexts, htexts]
  rfl

/-- Each row is in one group, so the counts add up to the number of rows. -/
theorem countBy_groups (h : ∀ row ∈ rows, Shows (row.get column)) :
    ∃ texts groups, countBy column rows = .ok groups ∧
      List.Forall₂ (fun row text => (row.get column).renderText = .ok text) rows texts ∧
      List.Forall₂ (IsGroup column rows) texts.eraseDups groups ∧
      (groups.map countOf).sum = rows.length := by
  obtain ⟨texts, hrows, hgroups⟩ := exists_countBy_eq_ok h
  refine ⟨texts, _, hgroups, hrows, ?_, ?_⟩
  · rw [List.forall₂_map_right_iff, List.forall₂_same]
    intro text htext
    refine ⟨columns_groupRow column _, fun hne => groupRow_key hne _, groupRow_count column _, ?_⟩
    rw [← count_texts hrows, List.count_pos_iff]
    exact List.mem_eraseDups.mp htext
  · have hcounts : (texts.eraseDups.map fun text =>
        groupRow column (text, rows.countP (showsText column text))).map countOf =
        ((Tally.ofList texts).map Prod.snd).map Nat.cast := by
      rw [Tally.ofList_eq, List.map_map, List.map_map, List.map_map]
      apply List.map_congr_left
      intro text _
      simp only [Function.comp_apply, countOf, groupRow_count, count_texts hrows]
    rw [hcounts, ← Nat.cast_list_sum, Tally.sum_ofList, hrows.length_eq]

/-- The counts of a run that ends with its groups add up to the rows that were selected. -/
theorem sum_countOf_of_run (hrun : run table signals = .ok groups)
    (hcolumn : Signals.named? signals.groupColumn = some column) (h : ¬ HasAggregate signals) :
    (groups.map countOf).sum = (selected table signals).length := by
  obtain ⟨hproceeds, hclosed⟩ := run_eq_ok_iff.mp hrun
  obtain ⟨texts, groups', hgroups, -, -, hsum⟩ := countBy_groups (hproceeds.group column hcolumn)
  rw [closedForm_eq_groups h, hcolumn] at hclosed
  obtain rfl : groups' = groups := Except.ok.inj (hgroups.symm.trans hclosed)
  exact hsum

/-- Without a filter and a limit from the end, the first rows up to the limit are selected. -/
theorem length_selected (hfilter : Signals.named? signals.filterColumn = none)
    (htail : signals.limitTail = none) :
    (selected table signals).length = stopPosition table.length signals.limitHead := by
  have hstop := stopPosition_le table.length signals.limitHead
  rw [selected, hfilter]
  simp only [inLimits, between_eq_drop_take, htail, startPosition, List.drop_zero,
    List.length_take]
  omega

end TableTalk.Cascade
