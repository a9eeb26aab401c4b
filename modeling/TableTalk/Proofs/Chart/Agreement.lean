import TableTalk.Proofs.Chart.Drawing

/-! The chart that is chosen can be drawn. The choice looks at all rows and the drawing at the first
ten, in which no fewer columns are numeric: so a pie has a number in every slice, and bars that are
chosen for the columns have two series at least. -/
namespace TableTalk

variable {rows : Table} {question : String} {type : ChartType}

theorem Cell.isPresentable_of_integersBelow {cell : Cell} (hshort : ¬ cell.IsOverlong)
    (hbelow : cell.IntegersBelow (10 ^ 300)) : cell.IsPresentable :=
  ⟨hshort, hbelow.shows (pow_le_pow_right₀ (by decide) (by decide))⟩

namespace Figure
open ChartType

/-- Without a given type the figure is that of the chosen chart. -/
theorem ofRows_of_choose (hne : rows ≠ []) (h : choose rows question = .ok type) :
    ofRows {} rows question none = .ok (draw {} rows question type) := by
  have hgiven : (none : Option String).mapM ChartType.ofName = .ok none := rfl
  rw [ofRows, hgiven, Except.ok_bind, if_neg (by simpa using hne), h]
  rfl

/-- What a figure shows of the rows, for the type of chart that was chosen. -/
structure Agrees (rows : Table) (question : String) (type : ChartType)
    (figure? : Option Figure) : Prop where
  pie : type = .pie → ∃ labels values,
    figure? = some ⟨titleOf question, .pie labels values⟩ ∧
      labels.length = min 10 rows.length ∧ values.length = min 10 rows.length ∧
      ∃ column ∈ rows.columns, List.Forall₂
        (fun row value => (row.get column).toNumber? = .ok (some value)) (rows.take 10) values
  bar : type = .bar → occurs question "count" = false → occurs question "group" = false →
    ∃ labels series, figure? = some ⟨titleOf question, .bars labels series⟩ ∧
      (series.length = 2 ∨ series.length = 3) ∧ labels.length = min 20 rows.length ∧
      (∃ column ∈ rows.columns, AreLabels column (rows.take 20) labels) ∧
      ∀ other ∈ series, other.name ∈ rows.columns ∧ Draws other.name (rows.take 20) other
  missing : type = .line ∨ type = .bar → figure? = none →
    ∀ column ∈ rows.columns, ∃ row ∈ rows.take 10, isDrawable (row.get column) = .ok false

/-- A column that is drawn has a number in each of the first rows, none of which is put to zero. -/
theorem forall₂_toNumber? {column : String} {values : List Number} (hcolumn : column ∈ drawn rows)
    (hdraws : Draws column (rows.take 10) ⟨column, values⟩) :
    List.Forall₂ (fun row value => (row.get column).toNumber? = .ok (some value))
      (rows.take 10) values := by
  have hnumeric := (List.mem_filter.mp hcolumn).2
  rw [Table.isNumeric, List.all_eq_true] at hnumeric
  refine (List.forall₂_and_left _ _ |>.mpr ⟨hnumeric, hdraws.values⟩).imp ?_
  rintro row value ⟨hdenotes, hvalue⟩
  obtain ⟨number, hnumber⟩ := Cell.denotesNumber_iff.mp hdenotes
  rw [Cell.toNumberOrZero, hnumber] at hvalue
  obtain rfl : number = value := by simpa using hvalue
  exact hnumber

section Presentable
variable (h : rows.IsPresentable)
include h

/-- In a column that is not drawn, one of the first rows has no number. -/
theorem exists_not_drawable (hdrawn : drawn rows = []) {column : String}
    (hcolumn : column ∈ rows.columns) :
    ∃ row ∈ rows.take 10, isDrawable (row.get column) = .ok false := by
  have hnot : Table.isNumeric (rows.take 10) column ≠ true := by
    intro hnumeric
    have hmem : column ∈ drawn rows := List.mem_filter.mpr ⟨hcolumn, hnumeric⟩
    rw [hdrawn] at hmem
    cases hmem
  rw [Table.isNumeric, Ne, List.all_eq_true] at hnot
  push Not at hnot
  obtain ⟨row, hrow, hdenotes⟩ := hnot
  refine ⟨row, hrow, ?_⟩
  rw [isDrawable_eq (h.take 10 row hrow column).short, Bool.eq_false_of_not_eq_true hdenotes]

/-- Two numeric columns at least give two or three series. -/
theorem bars_of_two
    (htwo : 2 ≤ (rows.columns.filter rows.isNumeric).length) :
    ∃ labels series, draw {} rows question .bar = some ⟨titleOf question, .bars labels series⟩ ∧
      (series.length = 2 ∨ series.length = 3) ∧ labels.length = min 20 rows.length ∧
      (∃ column ∈ rows.columns, AreLabels column (rows.take 20) labels) ∧
      ∀ other ∈ series, other.name ∈ rows.columns ∧ Draws other.name (rows.take 20) other := by
  have hcount : 2 ≤ (drawn rows).length := htwo.trans (filter_isNumeric_sublist rows).length_le
  obtain ⟨column, hcolumn, labels, series, hdraw, hlabels, hseries⟩ :=
    exists_draw h .bar question (List.length_pos_iff.mp (by omega))
  refine ⟨labels, series, hdraw, ?_, ?_, ⟨column, hcolumn, hlabels⟩, fun other hother => ?_⟩
  · have hlength := hseries.length_eq
    rw [List.length_take] at hlength
    omega
  · rw [hlabels.length, List.length_take]
  · obtain ⟨name, hname, hdraws⟩ := hseries.exists_of_mem_right hother
    obtain rfl := hdraws.name
    exact ⟨(List.mem_filter.mp (List.mem_of_mem_take hname)).1, hdraws⟩

/-- A pie is chosen only if there is a number to draw. -/
theorem drawn_ne_nil_of_pie (hne : rows ≠ []) (hchoose : choose rows question = .ok .pie) :
    drawn rows ≠ [] := by
  rw [choose_eq hne h, Except.ok.injEq] at hchoose
  split_ifs at hchoose with _ _ hwords
  simp only [Bool.and_eq_true, Bool.not_eq_true', List.isEmpty_eq_false_iff] at hwords
  have hlength := (filter_isNumeric_sublist rows).length_le
  have hpos := List.length_pos_iff.mpr hwords.2
  exact List.length_pos_iff.mp (hpos.trans_le hlength)

/-- Bars are chosen for the words of the question, or for two numeric columns. -/
theorem two_le_of_bar (hne : rows ≠ []) (hchoose : choose rows question = .ok .bar)
    (hcount : occurs question "count" = false) (hgroup : occurs question "group" = false) :
    2 ≤ (rows.columns.filter rows.isNumeric).length := by
  rw [choose_eq hne h, Except.ok.injEq, hcount, hgroup] at hchoose
  split_ifs at hchoose with _ hwords _ hcolumns
  · cases hwords
  · exact hcolumns.2

end Presentable

/-- Choosing a chart and drawing it agree, for rows of any length with any cells missing. -/
theorem choose_agrees (hne : rows ≠ []) (hcells : ∀ row ∈ rows, ∀ entry ∈ row,
      ¬ entry.2.IsOverlong ∧ entry.2.IntegersBelow (10 ^ 300)) (question : String) :
    ∃ type figure?, choose rows question = .ok type ∧
      ofRows {} rows question none = .ok figure? ∧ Agrees rows question type figure? := by
  have h : rows.IsPresentable := Table.isPresentable_of_cells fun row hrow entry hentry =>
    Cell.isPresentable_of_integersBelow (hcells row hrow entry hentry).1
      (hcells row hrow entry hentry).2
  obtain ⟨type, hchoose⟩ : ∃ type, choose rows question = .ok type :=
    ⟨_, choose_eq hne h question⟩
  refine ⟨type, _, hchoose, ofRows_of_choose hne hchoose, ?_, ?_, ?_⟩
  · rintro rfl
    obtain ⟨labels, values, hdraw, hlabels, column, hcolumn, hdraws⟩ :=
      exists_draw_pie h question (drawn_ne_nil_of_pie h hne hchoose)
    have hnumbers := forall₂_toNumber? hcolumn hdraws
    refine ⟨labels, values, hdraw, hlabels, ?_, column, (List.mem_filter.mp hcolumn).1, hnumbers⟩
    rw [← hnumbers.length_eq, List.length_take]
  · rintro rfl hcount hgroup
    exact bars_of_two h (two_le_of_bar h hne hchoose hcount hgroup)
  · intro htype hnone column hcolumn
    refine exists_not_drawable h (by_contra fun hdrawn => ?_) hcolumn
    have hfigure : ∃ figure, draw {} rows question type = some figure := by
      rcases htype with rfl | rfl
      · obtain ⟨_, _, _, _, hdraw, -⟩ := exists_draw h .line question hdrawn
        exact ⟨_, hdraw⟩
      · obtain ⟨_, _, _, _, hdraw, -⟩ := exists_draw h .bar question hdrawn
        exact ⟨_, hdraw⟩
    obtain ⟨figure, hdraw⟩ := hfigure
    cases hnone.symm.trans hdraw

/-- Sales of which one has no city, with numbers of all kinds. -/
def sales : Table :=
  [[("city", .text "Oslo"), ("units", .int 3), ("price", .text "2.5")],
   [("units", .text " 4 "), ("price", .float 1)],
   [("city", .text ""), ("price", .text "1e2"), ("units", .bool true), ("note", .list [.int 7])]]

/-- Bars for the columns, a pie for a word of the question. -/
theorem choose_agrees_sales :
    (∀ row ∈ sales, ∀ entry ∈ row, ¬ entry.2.IsOverlong ∧ entry.2.IntegersBelow (10 ^ 300)) ∧
      (∃ figure?, ofRows {} sales "sales" none = .ok figure? ∧
        Agrees sales "sales" .bar figure?) ∧
      ∃ figure?, ofRows {} sales "Distribution of units" none = .ok figure? ∧
        Agrees sales "Distribution of units" .pie figure? := by
  have hcells : ∀ row ∈ sales, ∀ entry ∈ row,
      ¬ entry.2.IsOverlong ∧ entry.2.IntegersBelow (10 ^ 300) := by
    have htext (s : String) (h : s.toList.length ≤ digitLimit) :
        ¬ (Cell.text s).IsOverlong ∧ (Cell.text s).IntegersBelow (10 ^ 300) :=
      ⟨Cell.not_isOverlong_of_length h, by simp [Cell.IntegersBelow]⟩
    have hother (cell : Cell) (h : cell.isLegal = false ∨ cell.kindName ≠ "str") :
        ¬ cell.IsOverlong := by
      rintro ⟨s, count, rfl, -⟩
      rcases h with h | h
      · cases h
      · exact h rfl
    simp only [sales, List.forall_mem_cons, List.not_mem_nil, false_implies, forall_const, and_true]
    have hpower : 10 ≤ 10 ^ 300 := by decide +kernel
    refine ⟨⟨htext _ (by decide), ⟨hother _ (by decide), ?_⟩, htext _ (by decide)⟩,
      ⟨htext _ (by decide), ⟨hother _ (by decide), ?_⟩⟩,
      htext _ (by decide), htext _ (by decide), ⟨hother _ (by decide), ?_⟩,
      ⟨hother _ (by decide), ?_⟩⟩
    · rw [Cell.IntegersBelow]
      exact lt_of_lt_of_le (by decide) hpower
    · simp [Cell.IntegersBelow]
    · simp [Cell.IntegersBelow]
    · rw [Cell.IntegersBelow, Cell.ItemsBelow, Cell.IntegersBelow, Cell.ItemsBelow]
      exact ⟨lt_of_lt_of_le (by decide) hpower, trivial⟩
  have hbar : choose sales "sales" = .ok .bar := by decide +kernel
  have hpie : choose sales "Distribution of units" = .ok .pie := by decide +kernel
  refine ⟨hcells, ?_, ?_⟩
  · obtain ⟨type, figure?, hchoose, hfigure, hagrees⟩ := choose_agrees (by decide) hcells "sales"
    cases hbar.symm.trans hchoose
    exact ⟨figure?, hfigure, hagrees⟩
  · obtain ⟨type, figure?, hchoose, hfigure, hagrees⟩ :=
      choose_agrees (by decide) hcells "Distribution of units"
    cases hpie.symm.trans hchoose
    exact ⟨figure?, hfigure, hagrees⟩

end Figure
end TableTalk
