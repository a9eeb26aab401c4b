import Mathlib.Data.List.Basic
import TableTalk.Csv.StrictLines
import TableTalk.Csv.Writer

/-! Written records are read back. A field is in the hands of the reader once its text has been
passed, quoted or not, and the comma or the line feed after it puts it away. -/
namespace TableTalk.Csv.StrictLines

variable {field : Field} {fields : List Field} {lines : List (List Field)} {mode : Mode}

/-- The modes in which a line feed ends a field and the line. -/
def EndsLine (mode : Mode) : Prop := mode = .fieldStart ∨ mode = .inField ∨ mode = .afterQuote

theorem step_comma (h : mode = .lineStart ∨ EndsLine mode) :
    Progress.step ',' ⟨mode, field, fields, lines⟩ ',' =
      ⟨.fieldStart, [], field.reverse :: fields, lines⟩ := by
  rcases h with rfl | rfl | rfl | rfl <;> rfl

theorem step_lineFeed (h : EndsLine mode) :
    Progress.step ',' ⟨mode, field, fields, lines⟩ '\n' =
      ⟨.lineStart, [], [], (field.reverse :: fields).reverse :: lines⟩ := by
  rcases h with rfl | rfl | rfl <;> rfl

/-- Inside quotes the doubled text of a field adds the field. -/
theorem foldl_doubleQuotes (s read : List Char) :
    (doubleQuotes s).foldl (Progress.step ',') ⟨.inQuotes, read, fields, lines⟩ =
      ⟨.inQuotes, s.reverse ++ read, fields, lines⟩ := by
  induction s generalizing read with
  | nil => rfl
  | cons c rest ih =>
    by_cases hc : c = '"'
    · subst hc
      have hpair : ('"' :: '"' :: doubleQuotes rest).foldl (Progress.step ',')
          ⟨.inQuotes, read, fields, lines⟩ =
          (doubleQuotes rest).foldl (Progress.step ',') ⟨.inQuotes, '"' :: read, fields, lines⟩ :=
        rfl
      rw [doubleQuotes_quote, hpair, ih]
      simp
    · have hstep : Progress.step ',' ⟨.inQuotes, read, fields, lines⟩ c =
          ⟨.inQuotes, c :: read, fields, lines⟩ := by
        simp [Progress.step, Progress.push, hc]
      rw [doubleQuotes_of_ne hc, List.foldl_cons, hstep, ih]
      simp

/-- A character that a field may show without quotes. -/
def IsBare (c : Char) : Prop := c ≠ ',' ∧ c ≠ '"' ∧ c ≠ '\n' ∧ c ≠ '\r'

theorem step_bare {c : Char} (hc : IsBare c)
    (h : mode = .lineStart ∨ mode = .fieldStart ∨ mode = .inField) :
    Progress.step ',' ⟨mode, field, fields, lines⟩ c = ⟨.inField, c :: field, fields, lines⟩ := by
  obtain ⟨hcomma, hquote, hfeed, hreturn⟩ := hc
  rcases h with rfl | rfl | rfl <;>
    simp [Progress.step, Progress.stepLineStart, Progress.stepFieldStart, Progress.stepOutside,
      Progress.afterLineEnd?, Progress.push, hcomma, hquote, hfeed, hreturn]

theorem foldl_bare {s : List Char} (hs : ∀ c ∈ s, IsBare c) (read : List Char) :
    s.foldl (Progress.step ',') ⟨.inField, read, fields, lines⟩ =
      ⟨.inField, s.reverse ++ read, fields, lines⟩ := by
  induction s generalizing read with
  | nil => rfl
  | cons c rest ih =>
    rw [List.forall_mem_cons] at hs
    rw [List.foldl_cons, step_bare hs.1 (.inr (.inr rfl)), ih hs.2]
    simp

/-- After the text of a field the reader has it. Only an empty one leaves it where it was, as there
is nothing to read. -/
theorem foldl_writeField (fields : List Field) (lines : List (List Field))
    (hmode : mode = .lineStart ∨ mode = .fieldStart)
    (hreturn : '\r' ∉ field) :
    ∃ after, (writeField field).foldl (Progress.step ',') ⟨mode, [], fields, lines⟩ =
        ⟨after, field.reverse, fields, lines⟩ ∧
      (EndsLine after ∨ field = [] ∧ after = mode) := by
  unfold writeField
  split
  case isTrue =>
    refine ⟨.afterQuote, ?_, .inl (.inr (.inr rfl))⟩
    have hopen : Progress.step ',' ⟨mode, [], fields, lines⟩ '"' =
        ⟨.inQuotes, [], fields, lines⟩ := by
      rcases hmode with rfl | rfl <;> rfl
    rw [quoteField_eq, List.foldl_cons, hopen, List.foldl_append, foldl_doubleQuotes,
      List.append_nil]
    rfl
  case isFalse hplain =>
    have hbare : ∀ c ∈ field, IsBare c := by
      intro c hc
      have hne : c ≠ '\r' := fun h => hreturn (h ▸ hc)
      rw [Bool.not_eq_true, needsQuotes_eq_false_iff] at hplain
      exact ⟨(hplain c hc).1.1, (hplain c hc).1.2, (hplain c hc).2, hne⟩
    cases field with
    | nil => exact ⟨mode, rfl, .inr ⟨rfl, rfl⟩⟩
    | cons c rest =>
      rw [List.forall_mem_cons] at hbare
      have hstart : mode = .lineStart ∨ mode = .fieldStart ∨ mode = .inField := by tauto
      refine ⟨.inField, ?_, .inl (.inr (.inl rfl))⟩
      rw [List.foldl_cons, step_bare hbare.1 hstart, foldl_bare hbare.2]
      simp

/-- The rest of a record, once its first field has been read. -/
theorem foldl_writeFurther (further : List Field) (hreturn : ∀ field ∈ further, '\r' ∉ field)
    (hmode : EndsLine mode ∨ mode = .lineStart ∧ further ≠ []) :
    (writeFurther further ++ ['\n']).foldl (Progress.step ',')
        ⟨mode, field.reverse, fields, lines⟩ =
      ⟨.lineStart, [], [], (fields.reverse ++ field :: further) :: lines⟩ := by
  induction further generalizing mode field fields with
  | nil =>
    have hends : EndsLine mode := by simpa using hmode
    rw [writeFurther, List.nil_append, List.foldl_cons, step_lineFeed hends]
    simp
  | cons next rest ih =>
    rw [List.forall_mem_cons] at hreturn
    obtain ⟨after, hfield, hafter⟩ :=
      foldl_writeField (field :: fields) lines (.inr rfl) hreturn.1
    have hends : EndsLine after := by
      rcases hafter with hends | ⟨-, rfl⟩
      · exact hends
      · exact .inl rfl
    have hcomma : mode = .lineStart ∨ EndsLine mode := by tauto
    rw [writeFurther_cons, List.cons_append, List.foldl_cons, step_comma hcomma,
      List.reverse_reverse, List.append_assoc, List.foldl_append, hfield, ih hreturn.2 (.inl hends)]
    simp

theorem foldl_writeRecord {record : List Field} (hne : record ≠ [])
    (hreturn : ∀ field ∈ record, '\r' ∉ field) :
    (writeRecord record).foldl (Progress.step ',') ⟨.lineStart, [], [], lines⟩ =
      ⟨.lineStart, [], [], record :: lines⟩ := by
  unfold writeRecord
  split
  case h_1 => exact absurd rfl hne
  case h_2 => rfl
  case h_3 field further hsingle =>
    rw [List.forall_mem_cons] at hreturn
    obtain ⟨after, hfield, hafter⟩ :=
      foldl_writeField [] lines (.inl rfl) hreturn.1
    have hmode : EndsLine after ∨ after = .lineStart ∧ further ≠ [] := by
      rcases hafter with hends | ⟨rfl, rfl⟩
      · exact .inl hends
      · exact .inr ⟨rfl, by rintro rfl; exact hsingle rfl rfl⟩
    rw [Text.ofChar_char, List.append_assoc, List.foldl_append, hfield,
      foldl_writeFurther further hreturn.2 hmode]
    rfl

theorem foldl_writeRecords (records : List (List Field)) (hne : ∀ record ∈ records, record ≠ [])
    (hreturn : ∀ record ∈ records, ∀ field ∈ record, '\r' ∉ field) :
    (writeRecords records).foldl (Progress.step ',') ⟨.lineStart, [], [], lines⟩ =
      ⟨.lineStart, [], [], records.reverse ++ lines⟩ := by
  induction records generalizing lines with
  | nil => rfl
  | cons record rest ih =>
    rw [List.forall_mem_cons] at hne hreturn
    rw [writeRecords, List.flatMap_cons, List.foldl_append, foldl_writeRecord hne.1 hreturn.1,
      ← writeRecords, ih hne.2 hreturn.2]
    simp

/-- Records without carriage returns are read back as they were written; of those with a single
field the blank ones are passed over. -/
theorem ofText_writeRecords {records : List (List Field)} (isBlank : Char → Bool)
    (hne : ∀ record ∈ records, record ≠ [])
    (hreturn : ∀ record ∈ records, ∀ field ∈ record, '\r' ∉ field) :
    ofText isBlank ',' (writeRecords records) =
      records.filter (fun record => !isBlankLine isBlank record) := by
  rw [ofText, Progress.start, foldl_writeRecords records hne hreturn]
  simp [Progress.finish]

end TableTalk.Csv.StrictLines
