import TableTalk.Proofs.Answer.Execution
import TableTalk.Proofs.Dataset.Build

/-! The two kinds of answers. An answer either has the rows and the query of the operations that its
question asks for, or it has neither and tells why. Items that are no rows are looked for before
anything else; lists in cells only matter where their rows are returned. -/
namespace TableTalk

theorem Fault.message_ne_empty (fault : Fault) : fault.message ≠ "" := by
  have hstart {s t : String} (h : s ≠ "") : s ++ t ≠ "" :=
    fun heq => h (String.append_eq_empty_iff.mp heq).1
  have hend {s t : String} (h : t ≠ "") : s ++ t ≠ "" :=
    fun heq => h (String.append_eq_empty_iff.mp heq).2
  cases fault with
  | integerTooLong | integerBeyondFloat | quotientBeyondFloat | divisionByZero => decide
  | literalTooLong => exact hstart (hstart (hstart (by decide)))
  | questionNotText | notRows | unknownLevel | unencodable => exact hend (by decide)
  | invalidValues => exact hstart (hstart (hstart (hend (by decide))))

theorem Failure.message_ne_empty (failure : Failure) : failure.message ≠ "" := by
  cases failure with
  | notARow => simp [message]
  | fault cause => exact cause.message_ne_empty

namespace Answer
open TableTalk.Number

variable {settings : Settings} {items : List Item} {question : Prompt} {answer : Answer}
  {index start : Nat} {cell : Cell}

/-- An answer with the rows and the query of the operations that the question asks for. None of its
cells is a list. -/
structure IsCarriedOut (settings : Settings) (items : List Item) (question : Prompt)
    (answer : Answer) : Prop where
  error : answer.error = none
  legal : ∀ row ∈ answer.rows, ∀ entry ∈ row, entry.2.isLegal = true
  executed : ∃ table text signals, items = table.map Item.row ∧ question = .text text ∧
    Question.signals settings table text.toList = .ok signals ∧
    Cascade.run table signals = .ok answer.rows ∧ signals.query = .ok answer.query

/-- An answer with nothing but a reason. -/
structure IsFailed (answer : Answer) : Prop where
  error : ∃ message, answer.error = some message ∧ message ≠ ""
  rows : answer.rows = []
  query : answer.query = ""

/-- The first of some items that is no row, and its index. -/
structure IsFirstOther (items : List Item) (index : Nat) (cell : Cell) : Prop where
  here : items[index]? = some (.other cell)
  rows : ∀ earlier < index, ∃ row, items[earlier]? = some (.row row)

theorem isFailed_failed (failure : Failure) : IsFailed (failed failure) :=
  ⟨⟨failure.message, rfl, failure.message_ne_empty⟩, rfl, rfl⟩

theorem IsFailed.not_isCarriedOut (h : IsFailed answer) :
    ¬ IsCarriedOut settings items question answer := by
  intro hcarried
  obtain ⟨message, herror, -⟩ := h.error
  rw [hcarried.error] at herror
  cases herror

/-- An answer is of the first kind or of the second one, but not of both. -/
theorem isCarriedOut_or_isFailed (settings : Settings) (items : List Item) (question : Prompt) :
    IsCarriedOut settings items question (execute settings items question) ∨
      IsFailed (execute settings items question) := by
  cases hitems : ofItems settings items question with
  | error failure =>
    rw [execute, hitems]
    exact .inr (isFailed_failed failure)
  | ok answer =>
    obtain ⟨rows, query⟩ := answer
    obtain ⟨table, htable, hanswer⟩ := ofItems_eq_ok_iff.mp hitems
    obtain ⟨text, signals, htext, hsignals, hrows, hquery, hcheck⟩ := ofTable_eq_ok_iff.mp hanswer
    rw [execute, hitems]
    exact .inl ⟨rfl, checkCells_eq_ok_iff.mp hcheck, table, text, signals, htable, htext, hsignals,
      hrows, hquery⟩

theorem exists_isFirstOther (h : Item.other cell ∈ items) :
    ∃ index first, IsFirstOther items index first := by
  induction items with
  | nil => cases h
  | cons item rest ih =>
    cases item with
    | other first => exact ⟨0, first, rfl, fun _ hearlier => absurd hearlier (Nat.not_lt_zero _)⟩
    | row row =>
      have hrest : Item.other cell ∈ rest := by simpa using h
      obtain ⟨index, first, hhere, hrows⟩ := ih hrest
      refine ⟨index + 1, first, hhere, fun earlier hearlier => ?_⟩
      cases earlier with
      | zero => exact ⟨row, rfl⟩
      | succ earlier => exact hrows earlier (Nat.lt_of_succ_lt_succ hearlier)

/-- Items are looked at one after the other, up to the first that is no row. -/
theorem rowsFrom_of_isFirstOther (h : IsFirstOther items index cell) :
    rowsFrom start items = .error (.notARow (start + index) cell.kindName) := by
  induction items generalizing start index with
  | nil => cases h.here
  | cons item rest ih =>
    cases index with
    | zero =>
      obtain rfl : item = .other cell := Option.some.inj h.here
      rfl
    | succ index =>
      obtain ⟨row, hrow⟩ := h.rows 0 (Nat.zero_lt_succ index)
      obtain rfl : item = .row row := Option.some.inj hrow
      have hrest : IsFirstOther rest index cell :=
        ⟨h.here, fun earlier hearlier => h.rows (earlier + 1) (Nat.succ_lt_succ hearlier)⟩
      rw [rowsFrom, ih hrest, Except.error_bind, Nat.add_right_comm, Nat.add_assoc]

/-- What is found before the question is even looked at. -/
theorem execute_of_isFirstOther (settings : Settings) (question : Prompt)
    (h : IsFirstOther items index cell) :
    execute settings items question = failed (.notARow index cell.kindName) := by
  rw [execute, ofItems, rowsFrom_of_isFirstOther h, Nat.zero_add]
  rfl

/-- The rows of a cascade are those of the answer, so that a list among them leaves none. -/
theorem isFailed_of_list {table rows : Table} {text : String} {signals : Signals} {row : Row}
    {column : String} {cells : List Cell}
    (hsignals : Question.signals settings table text.toList = .ok signals)
    (hrun : Cascade.run table signals = .ok rows) (hrow : row ∈ rows)
    (hcell : (column, .list cells) ∈ row) :
    IsFailed (execute settings (table.map Item.row) (.text text)) := by
  rcases isCarriedOut_or_isFailed settings (table.map Item.row) (.text text) with
    ⟨-, hlegal, other, text', signals', hitems, htext, hsignals', hrun', -⟩ | hfailed
  · obtain rfl : table = other :=
      List.map_injective_iff.mpr (fun _ _ hrow => Item.row.inj hrow) hitems
    cases htext
    obtain rfl := Except.ok.inj (hsignals.symm.trans hsignals')
    obtain rfl := Except.ok.inj (hrun.symm.trans hrun')
    exact absurd (hlegal row hrow _ hcell) (by simp [Cell.isLegal])
  · exact hfailed

/-- An answer is that of the operations asked for, or a clean error. An item that is no row makes an
error that names the first one, whatever is asked, and so does a list in a returned row. -/
theorem execute_carriesOut_or_fails (settings : Settings) (items : List Item) (question : Prompt) :
    Xor (IsCarriedOut settings items question (execute settings items question))
      (IsFailed (execute settings items question)) ∧
    (∀ cell, Item.other cell ∈ items → ∃ index first, IsFirstOther items index first) ∧
    (∀ index first, IsFirstOther items index first →
      IsFailed (execute settings items question) ∧
        (execute settings items question).error =
          some ("Row " ++ naturalText index ++ " is a " ++ first.kindName ++
            ", expected a column mapping.")) ∧
    ∀ table text signals rows, items = table.map Item.row → question = .text text →
      Question.signals settings table text.toList = .ok signals →
      Cascade.run table signals = .ok rows →
      ∀ row ∈ rows, ∀ column cells, (column, .list cells) ∈ row →
        IsFailed (execute settings items question) := by
  refine ⟨?_, fun _ => exists_isFirstOther, ?_, ?_⟩
  · rcases isCarriedOut_or_isFailed settings items question with hcarried | hfailed
    · exact .inl ⟨hcarried, fun hfailed => hfailed.not_isCarriedOut hcarried⟩
    · exact .inr ⟨hfailed, hfailed.not_isCarriedOut⟩
  · intro index first hfirst
    rw [execute_of_isFirstOther settings question hfirst]
    exact ⟨isFailed_failed _, rfl⟩
  · rintro table text signals rows rfl rfl hsignals hrun row hrow column cells hcell
    exact isFailed_of_list hsignals hrun hrow hcell

/-- Two books, the first of which has a list for a cell. -/
def books : Table :=
  [[("title", .text "Emma"), ("tags", .list [.text "novel"])], [("title", .text "Orlando")]]

/-- The list does no harm where only the other book is asked for. Items that are no rows do, where
only books are asked for or where there is no question. -/
theorem execute_carriesOut_or_fails_books :
    IsCarriedOut {} (books.map Item.row) (.text "last 1")
        (execute {} (books.map Item.row) (.text "last 1")) ∧
      IsFailed (execute {} (books.map Item.row) (.text "show all")) ∧
      ∀ question ∈ [.text "first 1", Prompt.other "NoneType"],
        (execute {} (books.map Item.row ++ [.other .null, .other (.bool true)]) question).error =
          some "Row 2 is a NoneType, expected a column mapping." := by
  have hanswered : (execute {} (books.map Item.row) (.text "last 1")).error = none := by
    decide +kernel
  have hsignals : Question.signals {} books "show all".toList = .ok {} := by decide +kernel
  have hrows : ∀ earlier < 2, ∃ row,
      (books.map Item.row ++ [.other .null, .other (.bool true)])[earlier]? = some (.row row) := by
    intro earlier hearlier
    match earlier, hearlier with
    | 0, _ => exact ⟨_, rfl⟩
    | 1, _ => exact ⟨_, rfl⟩
  refine ⟨?_, ?_, fun question _ => ?_⟩
  · rcases (execute_carriesOut_or_fails {} (books.map Item.row) (.text "last 1")).1 with
      ⟨hcarried, -⟩ | ⟨hfailed, -⟩
    · exact hcarried
    · obtain ⟨message, herror, -⟩ := hfailed.error
      rw [hanswered] at herror
      cases herror
  · exact (execute_carriesOut_or_fails {} (books.map Item.row) (.text "show all")).2.2.2 books _ {}
      books rfl rfl hsignals rfl _ List.mem_cons_self "tags" _
      (List.mem_cons_of_mem _ List.mem_cons_self)
  · exact ((execute_carriesOut_or_fails {} _ question).2.2.1 2 .null ⟨rfl, hrows⟩).2

end Answer
end TableTalk
