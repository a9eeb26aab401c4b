import TableTalk.Proofs.Answer.Execution
import TableTalk.Proofs.Cascade.Groups
import TableTalk.Proofs.Question.Counts
import TableTalk.Proofs.Question.Requests

/-! Answers that are groups. Grouping loses no row and counts none twice, and an answer that ends
with groups of the first rows counts just these. -/
namespace TableTalk.Answer
open Cascade Signals

variable {settings : Settings} {table rows : Table} {signals : Signals} {column : String}

/-- The groups of the first rows count as many rows as were asked for, if there are so many. -/
theorem sum_countOf_of_limitHead {question : List Char} {count : Int}
    (hsignals : Question.signals settings table question = .ok signals)
    (hdefault : 0 ≤ settings.defaultLimit) (hrun : run table signals = .ok rows)
    (hcolumn : named? signals.groupColumn = some column)
    (hfilter : named? signals.filterColumn = none) (haggregate : ¬ HasAggregate signals)
    (hhead : signals.limitHead = some count) (htail : signals.limitTail = none) :
    (rows.map countOf).sum = min count table.length := by
  have hlimit := (Question.signals_eq_ok_iff.mp hsignals).head
  rw [hhead] at hlimit
  have hcount : 0 ≤ count := Question.limit_nonneg hlimit hdefault
  rw [sum_countOf_of_run hrun hcolumn haggregate, length_selected hfilter htail, hhead,
    stopPosition, if_pos hcount]
  omega

/-- Rows that all show something in a column have a group for each text in order of first
appearance, and the counts of the groups add up to the number of rows. The groups of the first rows,
when they are what an answer has, add up to their number. -/
theorem groups_cover_rows :
    (∀ column rows, (∀ row ∈ rows, Shows (Row.get row column)) →
      ∃ texts groups, countBy column rows = .ok groups ∧
        List.Forall₂ (fun row text => (Row.get row column).renderText = .ok text) rows texts ∧
        List.Forall₂ (IsGroup column rows) texts.eraseDups groups ∧
        (groups.map countOf).sum = rows.length) ∧
    ∀ (settings : Settings) (items : List Item) (question : Prompt), 0 ≤ settings.defaultLimit →
      (execute settings items question).error = none →
      ∃ table text signals, items = table.map Item.row ∧ question = .text text ∧
        Question.signals settings table text.toList = .ok signals ∧
        ∀ column count, named? signals.groupColumn = some column →
          named? signals.filterColumn = none → ¬ HasAggregate signals →
          signals.limitHead = some count → signals.limitTail = none →
            ((execute settings items question).rows.map countOf).sum = min count table.length := by
  refine ⟨fun column rows h => countBy_groups h, ?_⟩
  intro settings items question hdefault hanswer
  obtain ⟨table, text, signals, hitems, htext, hsignals, hrun, -⟩ := execute_answered hanswer
  refine ⟨table, text, signals, hitems, htext, hsignals, ?_⟩
  intro column count hcolumn hfilter haggregate hhead htail
  exact sum_countOf_of_limitHead hsignals hdefault hrun hcolumn hfilter haggregate hhead htail

/-- Orders of which some have no count, and two have the same one, as an integer and as a float. -/
def orders : Table :=
  [[("count", .int 2), ("kind", .text "pen")], [("kind", .null)],
   [("count", .float 2), ("kind", .text "pen")], [("count", .null), ("kind", .text "null")]]

/-- The column of the counts is grouped itself, and the kinds of three of the four orders. -/
theorem groups_cover_rows_orders :
    (∀ row ∈ orders, Shows (Row.get row "count")) ∧
      (countBy "count" orders).map (List.map countOf) = .ok [2, 2] ∧
      (∃ groups, countBy "count" orders = .ok groups ∧ (groups.map countOf).sum = 4) ∧
      (execute {} (orders.map Item.row) (.text "Group by kind: the first 3")).error = none ∧
      ((execute {} (orders.map Item.row) (.text "Group by kind: the first 3")).rows.map
        countOf).sum = 3 := by
  have hshown : orders.all (fun row => (Row.get row "count").renderText.isOk) = true := by
    decide +kernel
  have hshows : ∀ row ∈ orders, Shows (Row.get row "count") := by
    intro row hrow
    have hok := List.all_eq_true.mp hshown row hrow
    cases hcell : (Row.get row "count").renderText with
    | error fault => simp [hcell, Except.isOk, Except.toBool] at hok
    | ok text => exact ⟨text, hcell⟩
  have herror : (execute {} (orders.map Item.row) (.text "Group by kind: the first 3")).error =
      none := by decide +kernel
  obtain ⟨texts, groups, hgroups, -, -, hsum⟩ := groups_cover_rows.1 "count" orders hshows
  obtain ⟨table, text, signals, hitems, htext, hsignals, htotal⟩ :=
    groups_cover_rows.2 {} (orders.map Item.row) (.text "Group by kind: the first 3") (by decide)
      herror
  obtain rfl : orders = table :=
    List.map_injective_iff.mpr (fun _ _ hrow => Item.row.inj hrow) hitems
  cases htext
  have hknown : Question.signals {} orders "Group by kind: the first 3".toList =
      .ok { limitHead := some 3, groupRequested := true, groupColumn := some "kind" } := by
    decide +kernel
  obtain rfl := Except.ok.inj (hknown.symm.trans hsignals)
  have haggregate : ¬ HasAggregate
      { limitHead := some 3, groupRequested := true, groupColumn := some "kind" } := by
    simp [HasAggregate]
  exact ⟨hshows, by decide +kernel, ⟨groups, hgroups, hsum⟩, herror,
    htotal "kind" 3 rfl rfl haggregate rfl rfl⟩

end TableTalk.Answer
