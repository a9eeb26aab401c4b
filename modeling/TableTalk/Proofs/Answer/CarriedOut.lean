import TableTalk.Proofs.Answer.Execution
import TableTalk.Proofs.Cascade.Groups
import TableTalk.Proofs.Ingest.Records
import TableTalk.Proofs.Question.Requests

/-! Whether the aggregate or the groups that a question asks for are what its answer has. They are,
unless the column they fall on has the empty name. A name of punctuation is cleaned to that; it is
found in every question and may be the first of the numeric columns, but a step on it is passed
over, also where a column with a name could have been taken. -/
namespace TableTalk.Answer
open Cascade Signals

/-- A question with words for an average or a total. -/
def AsksAggregate (question : List Char) : Prop :=
  Question.mentions Question.averageWords (Question.normalize question) = true ∨
    Question.mentions Question.sumWords (Question.normalize question) = true

def AsksGroups (question : List Char) : Prop :=
  Question.mentions Question.groupWords (Question.normalize question) = true

/-- A name that stands in a question. -/
def Names (question : List Char) (column : String) : Prop :=
  column ≠ "" ∧ Text.occursIn column.toList (Question.normalize question) = true

/-- A question that can be answered by an average or a total of a numeric column with a name. -/
def WantsAggregate (dataset : Dataset) (question : List Char) : Prop :=
  AsksAggregate question ∧ ∃ column ∈ dataset.classification.numeric, column ≠ ""

/-- A question that can be answered by the groups of a column with a name. -/
structure WantsGroups (dataset : Dataset) (question : List Char) : Prop where
  noAggregate : ¬ WantsAggregate dataset question
  asked : AsksGroups question
  named : ∃ column ∈ Table.columns dataset.rows, Names question column

/-- The rows are an aggregate or groups if the question asks for them. -/
structure CarriesOut (dataset : Dataset) (question : List Char) (signals : Signals)
    (rows : Table) : Prop where
  aggregate : WantsAggregate dataset question →
    ∃ column ∈ dataset.classification.numeric, column ≠ "" ∧
      (averageOf dataset.rows column = .ok rows ∨ totalOf dataset.rows column = .ok rows)
  groups : WantsGroups dataset question →
    ∃ column ∈ Table.columns dataset.rows, Names question column ∧
      countBy column (selected dataset.rows signals) = .ok rows

/-- The request falls on a column without a name: as the first numeric one, or as the first one
whose name stands in the question. -/
def FallsOnUnnamed (dataset : Dataset) (question : List Char) : Prop :=
  (WantsAggregate dataset question ∧ dataset.classification.firstNumeric = some "") ∨
    (WantsGroups dataset question ∧
      Question.mentionedColumn? (Question.normalize question) (Table.columns dataset.rows) =
        some "")

/-- The rows are those that there would be without the request. -/
structure PassesOver (dataset : Dataset) (question : List Char) (signals : Signals)
    (rows : Table) : Prop where
  aggregate : WantsAggregate dataset question →
    stage countBy (named? signals.groupColumn) (selected dataset.rows signals) = .ok rows
  groups : WantsGroups dataset question → rows = selected dataset.rows signals

variable {settings : Settings} {dataset : Dataset} {question : List Char} {signals : Signals}
  {rows : Table} {column : String}

/-- The column of groups is the first one that stands in the question. -/
theorem exists_groupColumn
    (hsignals : Question.signals settings dataset.rows question = .ok signals)
    (h : WantsGroups dataset question) :
    ∃ column ∈ Table.columns dataset.rows, signals.groupColumn = some column ∧
      Question.mentionedColumn? (Question.normalize question) (Table.columns dataset.rows) =
        some column ∧
      Text.occursIn column.toList (Question.normalize question) = true := by
  obtain ⟨other, hother, -, hoccurs⟩ := h.named
  have hsome : (Question.mentionedColumn? (Question.normalize question)
      (Table.columns dataset.rows)).isSome = true :=
    List.find?_isSome.mpr ⟨other, hother, hoccurs⟩
  obtain ⟨column, hcolumn⟩ := Option.isSome_iff_exists.mp hsome
  have hfound : (Table.columns dataset.rows).find? (fun column =>
      Text.occursIn column.toList (Question.normalize question)) = some column := hcolumn
  have hstands := List.find?_some hfound
  refine ⟨column, List.mem_of_find?_eq_some hfound, ?_, hcolumn, hstands⟩
  have hasked : Question.mentions Question.groupWords (Question.normalize question) = true :=
    h.asked
  rw [(Question.signals_eq_ok_iff.mp hsignals).group, if_pos hasked, hcolumn]

section
variable (hclassify : Classification.classify (.ofSettings settings none none) dataset.rows =
    .ok dataset.classification)
  (hsignals : Question.signals settings dataset.rows question = .ok signals)
include hclassify hsignals

/-- The column of an aggregate is the first numeric one, if an aggregate is asked for. -/
theorem aggregateColumn_eq_some_iff : signals.aggregateColumn = some column ↔
      AsksAggregate question ∧ dataset.classification.firstNumeric = some column := by
  have hmatches := Question.signals_eq_ok_iff.mp hsignals
  have haggregate := hmatches.aggregate
  rw [hmatches.average, hmatches.sum] at haggregate
  have hasks : (Question.mentions Question.averageWords (Question.normalize question) ||
      Question.mentions Question.sumWords (Question.normalize question)) = true ↔
        AsksAggregate question := by rw [Bool.or_eq_true, AsksAggregate]
  split at haggregate
  next hasked =>
    obtain ⟨classification, hclassify', hcolumn⟩ := haggregate
    obtain rfl := Except.ok.inj (hclassify.symm.trans hclassify')
    rw [hcolumn]
    exact ⟨fun h => ⟨hasks.mp hasked, h⟩, fun h => h.2⟩
  next hasked =>
    rw [haggregate]
    exact ⟨nofun, fun h => absurd (hasks.mpr h.1) hasked⟩

theorem hasAggregate_iff : HasAggregate signals ↔
      WantsAggregate dataset question ∧ dataset.classification.firstNumeric ≠ some "" := by
  have hcolumn {column : String} : signals.aggregateColumn = some column ↔
      AsksAggregate question ∧ dataset.classification.firstNumeric = some column :=
    aggregateColumn_eq_some_iff hclassify hsignals
  have hmatches := Question.signals_eq_ok_iff.mp hsignals
  constructor
  · rintro ⟨⟨column, hnamed⟩, -⟩
    obtain ⟨hsome, hne⟩ := Option.filter_eq_some_iff.mp hnamed
    obtain ⟨hasks, hfirst⟩ := hcolumn.mp hsome
    have hne : column ≠ "" := by simpa using hne
    refine ⟨⟨hasks, column, List.mem_of_head? hfirst, hne⟩, ?_⟩
    rw [hfirst]
    simpa using hne
  · rintro ⟨⟨hasks, other, hother, -⟩, hfirst⟩
    obtain ⟨column, rest, hnumeric⟩ := List.exists_cons_of_ne_nil (List.ne_nil_of_mem hother)
    have hhead : dataset.classification.firstNumeric = some column := by
      rw [Classification.firstNumeric, hnumeric, List.head?_cons]
    rw [hhead] at hfirst
    have hne : column ≠ "" := by simpa using hfirst
    refine ⟨⟨column, ?_⟩, ?_⟩
    · rw [hcolumn.mpr ⟨hasks, hhead⟩, named?, Option.filter_some, if_pos (by simpa using hne)]
    · rw [hmatches.average, hmatches.sum]
      exact hasks.symm

/-- An aggregate that is in effect is what the rows are. -/
theorem aggregate_of_run (hrun : run dataset.rows signals = .ok rows) (h : HasAggregate signals) :
    ∃ column ∈ dataset.classification.numeric, column ≠ "" ∧
      (averageOf dataset.rows column = .ok rows ∨ totalOf dataset.rows column = .ok rows) := by
  obtain ⟨⟨column, hnamed⟩, hrequested⟩ := h
  obtain ⟨hsome, hne⟩ := Option.filter_eq_some_iff.mp hnamed
  obtain ⟨-, hfirst⟩ := (aggregateColumn_eq_some_iff hclassify hsignals).mp hsome
  have hclosed := (run_eq_ok_iff.mp hrun).2
  refine ⟨column, List.mem_of_head? hfirst, by simpa using hne, ?_⟩
  cases hsum : signals.sumRequested with
  | true =>
    rw [closedForm_eq_totalOf hnamed hsum] at hclosed
    exact .inr hclosed
  | false =>
    have haverage : signals.averageRequested = true := by simpa [hsum] using hrequested
    rw [closedForm_eq_averageOf hnamed hsum haverage] at hclosed
    exact .inl hclosed

theorem carriesOut_of_run (hrun : run dataset.rows signals = .ok rows)
    (h : ¬ FallsOnUnnamed dataset question) :
    CarriesOut dataset question signals rows := by
  constructor
  · intro hwants
    have hnamed : dataset.classification.firstNumeric ≠ some "" :=
      fun hfirst => h (.inl ⟨hwants, hfirst⟩)
    apply aggregate_of_run hclassify hsignals hrun
    exact (hasAggregate_iff hclassify hsignals).mpr ⟨hwants, hnamed⟩
  · intro hwants
    obtain ⟨column, hmem, hgroup, hmentioned, hoccurs⟩ := exists_groupColumn hsignals hwants
    have hne : column ≠ "" := by
      rintro rfl
      exact h (.inr ⟨hwants, hmentioned⟩)
    have hnamed : named? signals.groupColumn = some column := by
      rw [hgroup, named?, Option.filter_some, if_pos (by simpa using hne)]
    have hnone : ¬ HasAggregate signals := fun haggregate =>
      hwants.noAggregate ((hasAggregate_iff hclassify hsignals).mp haggregate).1
    have hclosed := (run_eq_ok_iff.mp hrun).2
    rw [closedForm_eq_groups hnone, hnamed] at hclosed
    exact ⟨column, hmem, ⟨hne, hoccurs⟩, hclosed⟩

theorem passesOver_of_run (hrun : run dataset.rows signals = .ok rows)
    (h : FallsOnUnnamed dataset question) :
    PassesOver dataset question signals rows := by
  have hnone : ¬ HasAggregate signals := by
    intro haggregate
    obtain ⟨hwants, hfirst⟩ := (hasAggregate_iff hclassify hsignals).mp haggregate
    rcases h with ⟨-, hunnamed⟩ | ⟨hgroups, -⟩
    · exact hfirst hunnamed
    · exact hgroups.noAggregate hwants
  have hclosed := (run_eq_ok_iff.mp hrun).2
  rw [closedForm_eq_groups hnone] at hclosed
  refine ⟨fun _ => hclosed, fun hwants => ?_⟩
  obtain ⟨column, -, hgroup, hmentioned, -⟩ := exists_groupColumn hsignals hwants
  rcases h with ⟨haggregate, -⟩ | ⟨-, hunnamed⟩
  · exact absurd haggregate hwants.noAggregate
  · obtain rfl := Option.some.inj (hunnamed.symm.trans hmentioned)
    rw [hgroup] at hclosed
    exact (Except.ok.inj hclosed).symm

end

/-- A question about the dataset of a file that has an answer has the aggregate or the groups that
it asks for, unless the request falls on a column without a name: then it is passed over. -/
theorem ask_carriesOut {bytes : List UInt8} {filename text : String}
    (hfile : Ingest.ofFile settings bytes filename = .ok dataset)
    (hanswer : (ask settings dataset.rows text).error = none) :
    ∃ signals, Question.signals settings dataset.rows text.toList = .ok signals ∧
      (¬ FallsOnUnnamed dataset text.toList →
        CarriesOut dataset text.toList signals (ask settings dataset.rows text).rows) ∧
      (FallsOnUnnamed dataset text.toList →
        PassesOver dataset text.toList signals (ask settings dataset.rows text).rows) := by
  obtain ⟨records, -, hbuild⟩ := Ingest.ofFile_eq_ok hfile
  obtain ⟨-, classification, hclassify, hdataset⟩ := Dataset.build_eq_ok hbuild
  have hclassify : Classification.classify (.ofSettings settings none none) dataset.rows =
      .ok dataset.classification := by rw [hdataset]; exact hclassify
  obtain ⟨signals, hsignals, hrun, -⟩ := ask_answered hanswer
  exact ⟨signals, hsignals, carriesOut_of_run hclassify hsignals hrun,
    passesOver_of_run hclassify hsignals hrun⟩

def citiesBytes : List UInt8 := Text.Utf8.encode "city,price\nOslo,10\nRome,20\nOslo,30\n".toList

/-- The same cities under a column of numbers, whose name is cleaned to the empty one. -/
def numberedBytes : List UInt8 :=
  Text.Utf8.encode "#,city,price\n1,Oslo,10\n2,Rome,20\n3,Oslo,30\n".toList

theorem not_wantsAggregate_count : ¬ WantsAggregate dataset "count by city".toList := by
  rintro ⟨haverage | hsum, -⟩
  · exact absurd haverage (by decide +kernel)
  · exact absurd hsum (by decide +kernel)

theorem wantsGroups_count (h : "city" ∈ Table.columns dataset.rows) :
    WantsGroups dataset "count by city".toList where
  noAggregate := not_wantsAggregate_count
  asked := by unfold AsksGroups; decide +kernel
  named := ⟨"city", h, by decide, by decide +kernel⟩

/-- What is answered under the numbers: to both questions all rows, and groups in the query. -/
theorem ofFile_numbered :
    ∃ dataset, Ingest.ofFile {} numberedBytes "cities.csv" = .ok dataset ∧
      Table.columns dataset.rows = ["", "city", "price"] ∧
      dataset.classification.numeric = ["", "price"] ∧
      (ask {} dataset.rows "count by city").rows.map Row.columns =
        List.replicate 3 ["", "city", "price"] ∧
      (ask {} dataset.rows "count by city").query = "SELECT *, COUNT(*) as count FROM data" ∧
      (ask {} dataset.rows "count by city").error = none ∧
      (ask {} dataset.rows "total price").rows.length = 3 ∧
      (ask {} dataset.rows "total price").error = none := by
  have hfacts : (Ingest.ofFile {} numberedBytes "cities.csv").map (fun dataset =>
      (([Table.columns dataset.rows, dataset.classification.numeric],
          (ask {} dataset.rows "count by city").rows.map Row.columns),
        ((ask {} dataset.rows "count by city").query,
          (ask {} dataset.rows "total price").rows.length,
          [(ask {} dataset.rows "count by city").error,
            (ask {} dataset.rows "total price").error]))) =
      .ok (([["", "city", "price"], ["", "price"]], List.replicate 3 ["", "city", "price"]),
        ("SELECT *, COUNT(*) as count FROM data", 3, [none, none])) := by decide +kernel
  obtain ⟨dataset, hfile, hfacts⟩ := Except.map_eq_ok_iff.mp hfacts
  simp only [Prod.mk.injEq, List.cons.injEq, and_true] at hfacts
  obtain ⟨⟨⟨hcolumns, hnumeric⟩, hrows⟩, hquery, hlength, herror, herror'⟩ := hfacts
  exact ⟨dataset, hfile, hcolumns, hnumeric, hrows, hquery, herror, hlength, herror'⟩

/-- Cities are counted, but not under the numbers. -/
theorem ask_carriesOut_cities :
    (∃ dataset, Ingest.ofFile {} citiesBytes "cities.csv" = .ok dataset ∧
      (ask {} dataset.rows "count by city").error = none ∧
      WantsGroups dataset "count by city".toList ∧
      ∃ signals, CarriesOut dataset "count by city".toList signals
        (ask {} dataset.rows "count by city").rows) ∧
    ∃ dataset, Ingest.ofFile {} numberedBytes "cities.csv" = .ok dataset ∧
      (ask {} dataset.rows "count by city").error = none ∧
      WantsGroups dataset "count by city".toList ∧
      ∃ signals, PassesOver dataset "count by city".toList signals
        (ask {} dataset.rows "count by city").rows := by
  have hcities : (Ingest.ofFile {} citiesBytes "cities.csv").map (fun dataset =>
      (Table.columns dataset.rows, (ask {} dataset.rows "count by city").error)) =
      .ok (["city", "price"], none) := by decide +kernel
  constructor
  · obtain ⟨dataset, hfile, hfacts⟩ := Except.map_eq_ok_iff.mp hcities
    obtain ⟨hcolumns, herror⟩ := Prod.mk.inj hfacts
    obtain ⟨signals, -, hcarries, -⟩ := ask_carriesOut hfile herror
    refine ⟨dataset, hfile, herror, wantsGroups_count (by simp [hcolumns]), signals, hcarries ?_⟩
    rintro (⟨haggregate, -⟩ | ⟨-, hunnamed⟩)
    · exact not_wantsAggregate_count haggregate
    · rw [hcolumns] at hunnamed
      exact absurd hunnamed (by decide +kernel)
  · obtain ⟨dataset, hfile, hcolumns, -, -, -, herror, -, -⟩ := ofFile_numbered
    obtain ⟨signals, -, -, hpasses⟩ := ask_carriesOut hfile herror
    have hwants : WantsGroups dataset "count by city".toList :=
      wantsGroups_count (by simp [hcolumns])
    refine ⟨dataset, hfile, herror, hwants, signals, hpasses (.inr ⟨hwants, ?_⟩)⟩
    rw [hcolumns]
    decide +kernel

/-- Under the numbers neither are the cities counted, though the query says so, nor the prices
added up. -/
theorem ask_unnamed_column :
    ∃ dataset, Ingest.ofFile {} numberedBytes "cities.csv" = .ok dataset ∧
      (WantsGroups dataset "count by city".toList ∧
        (ask {} dataset.rows "count by city").error = none ∧
        (ask {} dataset.rows "count by city").query = "SELECT *, COUNT(*) as count FROM data" ∧
        ∀ column rows, countBy column rows ≠ .ok (ask {} dataset.rows "count by city").rows) ∧
      WantsAggregate dataset "total price".toList ∧
        (ask {} dataset.rows "total price").error = none ∧
        ∀ column, ¬ HasOnlyCell (ask {} dataset.rows "total price").rows column := by
  obtain ⟨dataset, hfile, hcolumns, hnumeric, hrows, hquery, herror, hlength, herror'⟩ :=
    ofFile_numbered
  refine ⟨dataset, hfile, ⟨wantsGroups_count (by simp [hcolumns]), herror, hquery, ?_⟩,
    ⟨.inr (by decide +kernel), "price", by simp [hnumeric], by decide⟩, herror', ?_⟩
  · intro column rows hgroups
    have hmem : ["", "city", "price"] ∈
        (ask {} dataset.rows "count by city").rows.map Row.columns := by
      rw [hrows]
      decide
    obtain ⟨group, hgroup, hgroupColumns⟩ := List.mem_map.mp hmem
    have hnames := columns_of_countBy hgroups group hgroup
    rw [hgroupColumns] at hnames
    have hlength := congrArg List.length hnames
    split at hlength <;> simp at hlength
  · rintro column ⟨cell, hcell⟩
    rw [hcell] at hlength
    cases hlength

end TableTalk.Answer
