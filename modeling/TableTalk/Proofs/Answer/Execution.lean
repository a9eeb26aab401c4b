import TableTalk.Answer
import TableTalk.Proofs.Except

/-! What an answer without an error is made of: all items are rows, the question is a text, and
the rows and the query come from the signals found in it. -/
namespace TableTalk.Answer

variable {settings : Settings} {items : List Item} {table : Table} {question : Prompt}

theorem rowsFrom_eq_ok_iff {index : Nat} :
    rowsFrom index items = .ok table ↔ items = table.map Item.row := by
  induction items generalizing index table with
  | nil => cases table <;> simp [rowsFrom]
  | cons item rest ih =>
    cases item with
    | other cell => cases table <;> simp [rowsFrom]
    | row row => cases table <;> simp [rowsFrom, ih, and_comm]

theorem questionText_eq_ok_iff {text : String} :
    questionText question = .ok text ↔ question = .text text := by
  cases question <;> simp [questionText]

/-- The rows and the query come about independently; then the cells of the rows are checked. -/
theorem ofTable_eq_ok_iff {rows : Table} {query : String} :
    ofTable settings table question = .ok (rows, query) ↔
      ∃ text signals, question = .text text ∧
        Question.signals settings table text.toList = .ok signals ∧
        Cascade.run table signals = .ok rows ∧ signals.query = .ok query ∧
        checkCells "QueryResult" rows = .ok () := by
  simp only [ofTable, Except.bind_eq_ok_iff, Except.pure_eq_ok_iff, questionText_eq_ok_iff]
  constructor
  · rintro ⟨text, rfl, signals, hsignals, rows', hrows, query', hquery, _, hcheck, heq⟩
    cases heq
    exact ⟨text, signals, rfl, hsignals, hrows, hquery, hcheck⟩
  · rintro ⟨text, signals, rfl, hsignals, hrows, hquery, hcheck⟩
    exact ⟨text, rfl, signals, hsignals, rows, hrows, query, hquery, (), hcheck, rfl⟩

theorem ofItems_eq_ok_iff {answer : Table × String} :
    ofItems settings items question = .ok answer ↔
      ∃ table, items = table.map Item.row ∧ ofTable settings table question = .ok answer := by
  simp only [ofItems, Except.bind_eq_ok_iff, Except.mapError_eq_ok_iff, rowsFrom_eq_ok_iff]

/-- A question about a table is answered by its rows and query, or by a fault. -/
theorem ask_eq_ofTable (settings : Settings) (table : Table) (text : String) :
    ask settings table text = match ofTable settings table (.text text) with
      | .ok (rows, query) => ⟨rows, query, none⟩
      | .error fault => failed (.fault fault) := by
  have hrows : rowsFrom 0 (table.map Item.row) = .ok table := rowsFrom_eq_ok_iff.mpr rfl
  rw [ask, execute, ofItems, hrows, Except.ok_bind]
  cases ofTable settings table (.text text) <;> rfl

theorem ask_eq {text query : String} {signals : Signals} {rows : Table}
    (hsignals : Question.signals settings table text.toList = .ok signals)
    (hrows : Cascade.run table signals = .ok rows) (hquery : signals.query = .ok query)
    (hcheck : checkCells "QueryResult" rows = .ok ()) :
    ask settings table text = ⟨rows, query, none⟩ := by
  rw [ask_eq_ofTable,
    ofTable_eq_ok_iff.mpr ⟨text, signals, rfl, hsignals, hrows, hquery, hcheck⟩]

/-- An answer without an error has the rows and the query of the signals of its question. -/
theorem execute_answered (h : (execute settings items question).error = none) :
    ∃ table text signals, items = table.map Item.row ∧ question = .text text ∧
      Question.signals settings table text.toList = .ok signals ∧
      Cascade.run table signals = .ok (execute settings items question).rows ∧
      signals.query = .ok (execute settings items question).query := by
  cases hitems : ofItems settings items question with
  | error failure => simp [execute, hitems, failed] at h
  | ok answer =>
    obtain ⟨rows, query⟩ := answer
    obtain ⟨table, htable, hanswer⟩ := ofItems_eq_ok_iff.mp hitems
    obtain ⟨text, signals, htext, hsignals, hrows, hquery, -⟩ := ofTable_eq_ok_iff.mp hanswer
    refine ⟨table, text, signals, htable, htext, hsignals, ?_⟩
    simpa [execute, hitems] using And.intro hrows hquery

theorem ask_answered {text : String} (h : (ask settings table text).error = none) :
    ∃ signals, Question.signals settings table text.toList = .ok signals ∧
      Cascade.run table signals = .ok (ask settings table text).rows ∧
      signals.query = .ok (ask settings table text).query := by
  obtain ⟨other, text', signals, hitems, htext, hsignals, hrun, hquery⟩ := execute_answered h
  obtain rfl : table = other :=
    List.map_injective_iff.mpr (fun _ _ hrow => Item.row.inj hrow) hitems
  cases htext
  exact ⟨signals, hsignals, hrun, hquery⟩

end TableTalk.Answer
