import TableTalk.Proofs.Cell.Shown
import TableTalk.Proofs.Chart.Choice
import TableTalk.Proofs.Dataset.Build

/-! What is drawn of rows whose cells can all be read and shown. Then a plain test tells the columns
that are numeric, choosing a chart and drawing it do not fail, and labels and values stand in the
order of the rows, one of each for every row that is drawn. -/
namespace TableTalk
open TableTalk.Text TableTalk.Number

/-- A cell whose number and text can both be told. -/
structure Cell.IsPresentable (cell : Cell) : Prop where
  short : ¬ cell.IsOverlong
  shows : Cascade.Shows cell

/-- Whether a column has a number in every row. -/
def Table.isNumeric (rows : Table) (column : String) : Bool :=
  rows.all fun row => (row.get column).denotesNumber

def Table.IsPresentable (rows : Table) : Prop :=
  ∀ row ∈ rows, ∀ column, (row.get column).IsPresentable

variable {cell : Cell} {rows : Table} {column : String} {question : String}

namespace Table

theorem isPresentable_of_cells (h : ∀ row ∈ rows, ∀ entry ∈ row, entry.2.IsPresentable) :
    rows.IsPresentable := by
  intro row hrow column
  rcases row.get_eq_null_or_mem column with hnull | ⟨entry, hentry, hget⟩
  · rw [hnull]
    exact ⟨by simp [Cell.IsOverlong], _, rfl⟩
  · exact hget ▸ h row hrow entry hentry

theorem IsPresentable.take (h : rows.IsPresentable) (count : Nat) :
    IsPresentable (rows.take count) := fun row hrow => h row (List.mem_of_mem_take hrow)

/-- A column with a number in every row has one in each of the first rows. -/
theorem isNumeric_take (h : rows.isNumeric column = true) (count : Nat) :
    isNumeric (rows.take count) column = true := by
  rw [isNumeric, List.all_eq_true] at h ⊢
  exact fun row hrow => h row (List.mem_of_mem_take hrow)

theorem columns_take (count : Nat) (hcount : count ≠ 0) :
    columns (rows.take count) = rows.columns := by
  obtain ⟨less, rfl⟩ := Nat.exists_eq_succ_of_ne_zero hcount
  cases rows <;> rfl

end Table

theorem Cell.denotesNumber_iff :
    cell.denotesNumber = true ↔ ∃ number, cell.toNumber? = .ok (some number) := by
  unfold denotesNumber
  split
  case h_1 number h => simp [h]
  case h_2 h => simpa using fun number => h number

namespace ChartType

theorem isDrawable_eq (h : ¬ cell.IsOverlong) : isDrawable cell = .ok cell.denotesNumber := by
  obtain ⟨number, hnumber⟩ := Cell.exists_toNumber?_eq_ok h
  have hdenotes : cell.denotesNumber = number.isSome := by
    rw [Cell.denotesNumber, hnumber]
    cases number <;> rfl
  rw [isDrawable]
  split
  case isTrue hempty =>
    have hnone : cell.denotesNumber = false := by
      cases cell with
      | null => rfl
      | text s =>
        obtain rfl : s = "" := by simpa [Cell.isEmpty] using hempty
        rfl
      | float x =>
        have hfinite : isFinite x = false := by
          simp only [Cell.isEmpty, isNaN] at hempty
          unfold isFinite
          split at hempty
          · simp [*]
          · cases hempty
        simp [Cell.denotesNumber, Cell.toNumber?, hfinite]
      | _ => cases hempty
    rw [hnone]
  case isFalse => rw [hnumber, hdenotes]; rfl

theorem isNumericColumn_eq (h : rows.IsPresentable) :
    isNumericColumn column rows = .ok (rows.isNumeric column) := by
  induction rows with
  | nil => rfl
  | cons row rest ih =>
    rw [Table.IsPresentable, List.forall_mem_cons] at h
    rw [isNumericColumn, isDrawable_eq (h.1 column).short, Except.ok_bind, Table.isNumeric,
      List.all_cons]
    cases (row.get column).denotesNumber with
    | false => rfl
    | true => exact ih h.2

theorem numericColumns_eq (h : rows.IsPresentable) (columns : List String) :
    numericColumns columns rows = .ok (columns.filter rows.isNumeric) :=
  Except.filterM_eq_ok fun _ _ => isNumericColumn_eq h

/-- Whether a phrase stands in a question, whose case does not matter. -/
def occurs (question phrase : String) : Bool := occursIn phrase.toList (lower question.toList)

/-- The choice of a chart by the words of the question, and then by the numeric columns. -/
theorem choose_eq (hne : rows ≠ []) (h : rows.IsPresentable) (question : String) :
    choose rows question = .ok (
      if occurs question "trend" || occurs question "over time" then .line
      else if occurs question "count" || occurs question "group" then .bar
      else if occurs question "distribution" &&
        !(rows.columns.filter rows.isNumeric).isEmpty then .pie
      else if 2 < rows.columns.length ∧ 2 ≤ (rows.columns.filter rows.isNumeric).length then .bar
      else .table) := by
  rw [choose, if_neg (by simpa using hne), numericColumns_eq h, Except.ok_bind]
  simp only [occurs]
  split_ifs <;> simp_all

end ChartType

namespace Figure

/-- Labels of rows, from one column. -/
def AreLabels (column : String) (rows : Table) (labels : List Symbols) : Prop :=
  List.Forall₂ (fun entry text => label column entry.2 entry.1 = .ok text) rows.zipIdx labels

/-- A series with the number of one column for each row, zero where there is none. -/
structure Draws (column : String) (rows : Table) (series : Series) : Prop where
  name : series.name = column
  values : List.Forall₂ (fun row value => (row.get column).toNumberOrZero = .ok value)
    rows series.values

/-- The columns that are numeric in the first rows. -/
def drawn (rows : Table) : List String :=
  rows.columns.filter (Table.isNumeric (rows.take scannedRows))

theorem drawnColumns_eq (h : rows.IsPresentable) : drawnColumns rows = .ok (drawn rows) :=
  ChartType.numericColumns_eq (h.take _) _

theorem filter_isNumeric_sublist (rows : Table) :
    (rows.columns.filter rows.isNumeric).Sublist (drawn rows) :=
  List.monotone_filter_right _ fun _ h => Table.isNumeric_take h _

theorem AreLabels.length {labels : List Symbols} (h : AreLabels column rows labels) :
    labels.length = rows.length := by
  rw [← List.Forall₂.length_eq h, List.length_zipIdx]

theorem exists_labels (h : rows.IsPresentable) (column : String) :
    ∃ texts, labels column rows = .ok texts ∧ AreLabels column rows texts := by
  have hlabels : ∃ texts, labels column rows = .ok texts := by
    rw [labels, Except.exists_mapM_eq_ok_iff]
    rintro ⟨row, index⟩ hentry
    obtain ⟨text, htext⟩ := (h row (List.fst_mem_of_mem_zipIdx hentry) column).shows
    simp only [label]
    split
    · exact ⟨_, rfl⟩
    · exact ⟨text, htext⟩
  obtain ⟨texts, htexts⟩ := hlabels
  exact ⟨texts, htexts, Except.mapM_eq_ok_iff.mp htexts⟩

/-- A number that can be written: a float, or an integer within the limit. -/
def IsWritable (number : Number) : Prop := ∀ n, number = .int n → n.natAbs < 10 ^ digitLimit

theorem isWritable_of_toNumberOrZero {number : Number} (hcell : cell.IsPresentable)
    (h : cell.toNumberOrZero = .ok number) : IsWritable number := by
  rintro n rfl
  obtain ⟨number, hnumber⟩ := Cell.exists_toNumber?_eq_ok hcell.short
  rw [Cell.toNumberOrZero, hnumber] at h
  have hvalue : number.getD (.int 0) = .int n := by simpa using h
  cases number with
  | none =>
    cases hvalue
    exact Nat.pos_of_neZero _
  | some number =>
    obtain rfl : number = .int n := hvalue
    cases cell with
    | int m =>
      obtain ⟨text, htext⟩ := hcell.shows
      simp only [Cell.renderText, Cell.plainText, Cell.itemText, Except.bind_eq_ok_iff] at htext
      obtain ⟨written, hwritten, -⟩ := htext
      unfold writeInteger at hwritten
      split_ifs at hwritten with hlimit
      cases hnumber
      exact not_le.mp hlimit
    | bool b =>
      cases b <;> cases hnumber
      · exact Nat.pos_of_neZero _
      · exact one_lt_pow₀ (by decide) (by decide)
    | text s =>
      obtain ⟨count, hliteral, hbound⟩ := isLiteral_of_ofText?_int hnumber
      have hcount : count ≤ digitLimit := by
        by_contra hover
        exact hcell.short ⟨s, count, rfl, hliteral, not_le.mp hover⟩
      exact hbound.trans_le (pow_le_pow_right₀ (by decide) hcount)
    | float x =>
      simp only [Cell.toNumber?] at hnumber
      split_ifs at hnumber <;> cases hnumber
    | null | broken | list => cases hnumber

theorem exists_columnValues (h : rows.IsPresentable) (column : String) :
    ∃ values, columnValues column rows = .ok values ∧
      Draws column rows ⟨column, values⟩ ∧ ∀ value ∈ values, IsWritable value := by
  obtain ⟨values, hvalues⟩ : ∃ values, columnValues column rows = .ok values := by
    rw [columnValues, Except.exists_mapM_eq_ok_iff]
    intro row hrow
    obtain ⟨number, hnumber⟩ := Cell.exists_toNumber?_eq_ok (h row hrow column).short
    exact ⟨number.getD (.int 0), by rw [Cell.toNumberOrZero, hnumber]; rfl⟩
  refine ⟨values, hvalues, ⟨rfl, Except.mapM_eq_ok_iff.mp hvalues⟩, fun value hvalue => ?_⟩
  obtain ⟨row, hrow, hcell⟩ := Except.exists_mem_of_mapM hvalues hvalue
  exact isWritable_of_toNumberOrZero (h row hrow column) hcell

/-- Columns are drawn one by one, in their order. -/
theorem exists_series (h : rows.IsPresentable) (columns : List String) :
    ∃ series, columns.mapM (fun column =>
        return (⟨column, ← columnValues column rows⟩ : Series)) = Except.ok series ∧
      List.Forall₂ (fun column series => Draws column rows series) columns series ∧
      ∀ other ∈ series, ∀ value ∈ other.values, IsWritable value := by
  have hcolumn : ∀ column ∈ columns, ∃ series,
      (do return (⟨column, ← columnValues column rows⟩ : Series)) = Except.ok series ∧
        Draws column rows series ∧ ∀ value ∈ series.values, IsWritable value := by
    intro column _
    obtain ⟨values, hvalues, hdraws, hwritable⟩ := exists_columnValues h column
    exact ⟨⟨column, values⟩, by rw [hvalues]; rfl, hdraws, hwritable⟩
  obtain ⟨series, hseries, hrelated⟩ := Except.exists_mapM_forall₂ hcolumn
  refine ⟨series, hseries, hrelated.imp fun _ _ h => h.1, fun other hother => ?_⟩
  obtain ⟨column, -, -, hwritable⟩ := hrelated.exists_of_mem_right hother
  exact hwritable

theorem checkNumbers_eq_ok {numbers : List Number} (h : ∀ number ∈ numbers, IsWritable number) :
    checkNumbers numbers = .ok () := by
  induction numbers with
  | nil => rfl
  | cons number numbers ih =>
    rw [List.forall_mem_cons] at h
    simp only [checkNumbers, List.forM_eq_forM, List.forM_cons] at ih ⊢
    cases number with
    | int n =>
      simp only [writeInteger_of_lt (h.1 n rfl)]
      exact ih h.2
    | float x => exact ih h.2

/-- The chart types that draw series, with their plots. -/
inductive DrawsSeries : ChartType → (List Symbols → List Series → Plot) → Prop where
  | bar : DrawsSeries .bar .bars
  | line : DrawsSeries .line .lines

variable {type : ChartType} {plot : List Symbols → List Series → Plot}

theorem exists_labelColumn {columns : List String} (hne : columns ≠ []) (drawn : List String) :
    ∃ column ∈ columns, labelColumn? columns drawn = some column := by
  unfold labelColumn?
  cases hfind : columns.find? fun column => !drawn.contains column with
  | some column => exact ⟨column, List.mem_of_find?_eq_some hfind, rfl⟩
  | none =>
    exact ⟨columns.head hne, List.head_mem hne, by rw [Option.none_or, List.head?_eq_some_head]⟩

theorem columns_ne_nil (hdrawn : drawn rows ≠ []) : rows.columns ≠ [] := by
  rintro hnil
  rw [drawn, hnil] at hdrawn
  exact hdrawn rfl

/-- The first three numeric columns are drawn for the first twenty rows. -/
theorem exists_draw (h : rows.IsPresentable) (htype : DrawsSeries type plot) (question : String)
    (hdrawn : drawn rows ≠ []) :
    ∃ column ∈ rows.columns, ∃ labels series,
      draw {} rows question type = some ⟨titleOf question, plot labels series⟩ ∧
      AreLabels column (rows.take 20) labels ∧
      List.Forall₂ (fun column series => Draws column (rows.take 20) series)
        ((drawn rows).take 3) series := by
  obtain ⟨column, hcolumn, hlabel⟩ := exists_labelColumn (columns_ne_nil hdrawn) (drawn rows)
  obtain ⟨texts, htexts, hlabels⟩ := exists_labels (h.take 20) column
  obtain ⟨series, hmap, hdraws, hwritable⟩ := exists_series (h.take 20) ((drawn rows).take 3)
  refine ⟨column, hcolumn, texts, series, ?_, hlabels, hdraws⟩
  have hseries : series? {} rows = .ok (some (texts, series)) := by
    have hshown : Table.takeFirst rows ({} : Settings).chartMaxPoints = rows.take 20 := rfl
    rw [series?, drawnColumns_eq h, Except.ok_bind]
    simp only [hshown, Table.columns_take 20 (by decide), hlabel]
    rw [if_neg (by simpa using hdrawn), htexts, Except.ok_bind, maxSeries, hmap]
    rfl
  have hnumbers : checkNumbers (series.flatMap Series.values) = .ok () := by
    apply checkNumbers_eq_ok
    intro number hnumber
    obtain ⟨other, hother, hvalue⟩ := List.mem_flatMap.mp hnumber
    exact hwritable other hother number hvalue
  cases htype <;> simp [draw, plot?, hseries, Plot.numbers, hnumbers]

/-- With a numeric column the first one is drawn as a pie for the first ten rows. -/
theorem exists_draw_pie (h : rows.IsPresentable) (question : String) (hdrawn : drawn rows ≠ []) :
    ∃ labels values, draw {} rows question .pie = some ⟨titleOf question, .pie labels values⟩ ∧
      labels.length = min 10 rows.length ∧
      ∃ column ∈ drawn rows, Draws column (rows.take 10) ⟨column, values⟩ := by
  obtain ⟨column, hcolumn, hlabel⟩ := exists_labelColumn (columns_ne_nil hdrawn) (drawn rows)
  obtain ⟨texts, htexts, hlabels⟩ := exists_labels (h.take 10) column
  obtain ⟨first, others, hfirst⟩ := List.exists_cons_of_ne_nil hdrawn
  obtain ⟨values, hvalues, hdraws, hwritable⟩ := exists_columnValues (h.take 10) first
  refine ⟨texts, values, ?_, ?_, first, hfirst ▸ List.mem_cons_self, hdraws⟩
  · have hpie : pie? rows = .ok (some (.pie texts values)) := by
      rw [pie?, drawnColumns_eq h, Except.ok_bind]
      simp only [hfirst, List.head?_cons, Option.some_or]
      rw [← hfirst, hlabel]
      simp only [maxSlices, htexts, hvalues, Except.ok_bind]
      rfl
    simp [draw, plot?, hpie, Plot.numbers, checkNumbers_eq_ok hwritable]
  · rw [hlabels.length, List.length_take]

end Figure
end TableTalk
