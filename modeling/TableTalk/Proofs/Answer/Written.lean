import TableTalk.Proofs.Answer.Execution
import TableTalk.Proofs.Cascade.Written
import TableTalk.Proofs.Classification.Majority

/-! Questions about a table and about the same table with its integers written out. A column of
integers is numeric either way, as are the signals and what is computed from them; so the answers
differ at most in how the integers of the table itself come out. -/
namespace TableTalk

namespace Classification

variable {cells : List Cell} {table : Table}

theorem countNumeric_of_numbers
    (h : ∀ cell ∈ cells, ∃ number, cell.toNumber? = .ok (some number)) :
    countNumeric cells = .ok cells.length := by
  have hall : cells.mapM isNumeric = .ok (cells.map fun _ => true) := by
    rw [Except.mapM_eq_ok_iff, List.forall₂_map_right_iff, List.forall₂_same]
    intro cell hcell
    obtain ⟨number, hnumber⟩ := h cell hcell
    simp [isNumeric, hnumber]
  simp [countNumeric, hall]

/-- A column of numbers is numeric, if all of them are more than the share asked for. -/
theorem typeOfCells_of_numbers {threshold : Float} (hne : cells ≠ [])
    (hnumbers : ∀ cell ∈ cells, ∃ number, cell.toNumber? = .ok (some number))
    (hpasses : passes cells.length cells.length threshold = true) :
    typeOfCells threshold cells = .ok .numeric := by
  simp [typeOfCells, hne, countNumeric_of_numbers hnumbers, hpasses]

theorem filledCells_written (table : Table) (column : String) :
    filledCells table.written column = (filledCells table column).map Cell.written := by
  rw [filledCells, filledCells, Table.written, List.map_map, List.filter_map, List.filter_map,
    List.map_map]
  simp only [Function.comp_def, Row.get_written, Cell.isEmpty_written]

/-- A column keeps its type when its integers are written out. -/
theorem typeOfCells_written (h : table.HasPureIntegers) (hsize : table.length ≤ 100)
    (column : String) :
    typeOfCells defaultSampling.threshold (filledCells table.written column) =
      typeOfCells defaultSampling.threshold (filledCells table column) := by
  rw [filledCells_written]
  have hfilled : ∀ cell ∈ filledCells table column, cell.isEmpty = false ∧
      ∃ row ∈ table, row.get column = cell := by
    intro cell hcell
    simpa [filledCells, and_comm] using hcell
  rcases h column with hnone | hpure
  · have hsame : (filledCells table column).map Cell.written = filledCells table column := by
      conv_rhs => rw [← List.map_id (filledCells table column)]
      apply List.map_congr_left
      intro cell hcell
      obtain ⟨-, row, hrow, rfl⟩ := hfilled cell hcell
      cases hget : row.get column with
      | int n => exact absurd hget (hnone row hrow n)
      | _ => rfl
    rw [hsame]
  · by_cases hempty : filledCells table column = []
    · rw [hempty]
      rfl
    · have hnumbers : ∀ cell ∈ filledCells table column,
          (∃ number, cell.toNumber? = .ok (some number)) ∧ cell.IsWritable := by
        intro cell hcell
        obtain ⟨hnonempty, row, hrow, rfl⟩ := hfilled cell hcell
        rcases hpure row hrow with hnothing | ⟨n, hinteger, -⟩
        · exact absurd (hnonempty.symm.trans hnothing) Bool.false_ne_true
        · exact ⟨⟨.int n, by rw [hinteger]; rfl⟩, h.isWritable hrow column⟩
      have hwritten : ∀ cell ∈ (filledCells table column).map Cell.written,
          ∃ number, cell.toNumber? = .ok (some number) := by
        rw [List.forall_mem_map]
        intro cell hcell
        obtain ⟨hnumber, hwritable⟩ := hnumbers cell hcell
        rwa [Cell.toNumber?_written hwritable]
      have hpos : 0 < (filledCells table column).length := List.length_pos_iff.mpr hempty
      have hpasses := (passes_iff ((length_filledCells_le table column).trans hsize)
        (Nat.le_refl _)).mpr (by omega)
      rw [typeOfCells_of_numbers hempty (fun cell hcell => (hnumbers cell hcell).1) hpasses,
        typeOfCells_of_numbers (by simpa using hempty) hwritten (by rwa [List.length_map])]

theorem classify_written (h : table.HasPureIntegers) :
    classify defaultSampling table.written = classify defaultSampling table := by
  have hsample : Table.takeFirst table.written defaultSampling.size =
      Table.written (Table.takeFirst table defaultSampling.size) := Table.takeFirst_map _ _ _
  have hsize : (Table.takeFirst table defaultSampling.size).length ≤ 100 :=
    List.length_take_le 100 table
  have hpure : Table.HasPureIntegers (Table.takeFirst table defaultSampling.size) :=
    h.of_subset fun _ hrow => Cascade.mem_of_mem_takeFirst hrow
  have htypes : columnTypes defaultSampling table.written = columnTypes defaultSampling table := by
    simp only [columnTypes, Table.columns_written, hsample, typeOfCells_written hpure hsize]
  have hlength : table.written.length = table.length := List.length_map _
  rw [classify, htypes, hlength, Table.columns_written, classify]

end Classification

namespace Answer
open Cascade

variable {table : Table}

theorem signals_written (h : table.HasPureIntegers) (question : List Char) :
    Question.signals {} table.written question = Question.signals {} table question := by
  have hclassify := Classification.classify_written h
  rw [Classification.defaultSampling] at hclassify
  rw [Question.signals, Table.columns_written, hclassify, Question.signals]

/-- Rows are grouped or replaced by an aggregate to answer a question. -/
def IsTransformed (table : Table) (question : String) : Prop :=
  ∃ signals, Question.signals {} table question.toList = .ok signals ∧ Transforms signals

/-- The answers about a table and about the one with its integers written out. -/
structure Alike (table : Table) (question : String) (answer written : Answer) : Prop where
  query : written.query = answer.query
  error : written.error = answer.error
  rowCount : written.rowCount = answer.rowCount
  transformed : IsTransformed table question → written.rows = answer.rows
  plain : ¬ IsTransformed table question → written.rows = answer.rows.written

/-- If the rows of a run are made from those of another one and have as many illegal cells, so are
the rows of the answer. -/
theorem ask_of_run {settings : Settings} {other : Table} {question : String} {signals : Signals}
    {made : Table → Table}
    (hsignals : Question.signals settings table question.toList = .ok signals)
    (hother : Question.signals settings other question.toList = .ok signals)
    (hrun : run other signals = (run table signals).map made)
    (hcells : ∀ rows, (made rows).illegalCells = rows.illegalCells) (hnil : made [] = []) :
    ask settings other question =
      { ask settings table question with rows := made (ask settings table question).rows } := by
  have hofTable : ofTable settings other (.text question) =
      (ofTable settings table (.text question)).map fun answer => (made answer.1, answer.2) := by
    simp only [ofTable, questionText, Except.ok_bind, hsignals, hother, hrun, checkCells]
    cases run table signals with
    | error fault => rfl
    | ok rows =>
      simp only [Except.map, Except.ok_bind, hcells]
      cases signals.query with
      | error fault => rfl
      | ok query =>
        simp only [Except.ok_bind]
        split <;> rfl
  rw [ask_eq_ofTable, ask_eq_ofTable, hofTable]
  cases ofTable settings table (.text question) with
  | error fault => simp [Except.map, failed, hnil]
  | ok answer => rfl

/-- Writing the integers of a table out changes neither the signals of a question nor its answer,
but for the rows of the table that are shown as they are. -/
theorem ask_written (h : table.HasPureIntegers) (question : String) :
    Question.signals {} table.written question.toList =
        Question.signals {} table question.toList ∧
      Alike table question (ask {} table question) (ask {} table.written question) := by
  have hsame := signals_written h question.toList
  refine ⟨hsame, ?_⟩
  cases hsignals : Question.signals {} table question.toList with
  | error fault =>
    have hfailed (other : Table) (hother : Question.signals {} other question.toList = .error fault) :
        ask {} other question = failed (.fault fault) := by
      rw [ask_eq_ofTable, ofTable, questionText, Except.ok_bind, hother, Except.error_bind]
    rw [hfailed table hsignals, hfailed table.written (hsame.trans hsignals)]
    exact ⟨rfl, rfl, rfl, fun _ => rfl, fun _ => rfl⟩
  | ok signals =>
    obtain ⟨htransforms, hplain⟩ := run_written (fun _ hrow => h.isWritable hrow) signals
    have htransformed : IsTransformed table question ↔ Transforms signals := by
      simp [IsTransformed, hsignals]
    by_cases heffect : Transforms signals
    · have hrun : run table.written signals = (run table signals).map id := by
        rw [htransforms heffect, Except.map_id]
        rfl
      rw [ask_of_run hsignals (hsame.trans hsignals) hrun (fun _ => rfl) rfl]
      exact ⟨rfl, rfl, rfl, fun _ => rfl, fun h => absurd (htransformed.mpr heffect) h⟩
    · rw [ask_of_run hsignals (hsame.trans hsignals) (hplain heffect) Table.illegalCells_written rfl]
      exact ⟨rfl, rfl, List.length_map _, fun h => absurd (htransformed.mp h) heffect, fun _ => rfl⟩

theorem articles_hasPureIntegers : articles.HasPureIntegers := by
  intro column
  by_cases hprice : column = "price"
  · subst hprice
    refine .inr fun row hrow => .inr ?_
    simp only [articles, List.mem_cons, List.not_mem_nil, or_false] at hrow
    have hlimit : (5 : Nat) < 10 ^ digitLimit :=
      Nat.lt_of_lt_of_le (by decide) (Nat.pow_le_pow_right (by decide) (by decide : 1 ≤ digitLimit))
    rcases hrow with rfl | rfl | rfl
    · exact ⟨2, rfl, lt_trans (by decide) hlimit⟩
    · exact ⟨4, rfl, lt_trans (by decide) hlimit⟩
    · exact ⟨5, rfl, hlimit⟩
  · refine .inl fun row hrow n hcell => ?_
    simp only [articles, List.mem_cons, List.not_mem_nil, or_false] at hrow
    have hother : (column == "price") = false := by simpa using hprice
    rcases hrow with rfl | rfl | rfl <;>
    · simp only [Row.get, List.lookup_cons, hother] at hcell
      cases hname : column == "name" <;> simp [hname] at hcell

/-- The first article comes out with its price as a text, but the prices are added up. -/
theorem ask_written_articles : articles.HasPureIntegers ∧
    Question.signals {} articles.written "total price".toList =
      .ok { aggregateColumn := some "price", sumRequested := true } ∧
    (ask {} articles.written "total price").rows = [[("total_price", .int 11)]] ∧
    (ask {} articles.written "top 1 by price").rows =
      [[("name", .text "Pen"), ("price", .text "2")]] := by
  have htotal : Question.signals {} articles "total price".toList =
      .ok { aggregateColumn := some "price", sumRequested := true } := by decide +kernel
  have hfirst : Question.signals {} articles "top 1 by price".toList =
      .ok { limitHead := some 1 } := by decide +kernel
  have hquery : Signals.query { limitHead := some 1 } = .ok "SELECT * FROM data LIMIT 1" := by
    decide +kernel
  have htransformed : IsTransformed articles "total price" :=
    ⟨_, htotal, .inr ⟨⟨"price", rfl⟩, .inl rfl⟩⟩
  have hplain : ¬ IsTransformed articles "top 1 by price" := by
    rintro ⟨signals, hsignals, heffect⟩
    cases hfirst.symm.trans hsignals
    rcases heffect with ⟨column, hcolumn⟩ | ⟨⟨column, hcolumn⟩, -⟩ <;> exact nomatch hcolumn
  have htotalAlike := ask_written articles_hasPureIntegers "total price"
  have hfirstAlike := ask_written articles_hasPureIntegers "top 1 by price"
  refine ⟨articles_hasPureIntegers, htotalAlike.1.trans htotal, ?_, ?_⟩
  · rw [htotalAlike.2.transformed htransformed, ask_eq htotal rfl rfl rfl]
    rfl
  · rw [hfirstAlike.2.plain hplain, ask_eq hfirst rfl hquery rfl]
    rfl

end Answer
end TableTalk
