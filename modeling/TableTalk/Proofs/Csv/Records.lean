import Mathlib.Data.List.Basic
import TableTalk.Csv.Writer

/-! Reading the records of a text without a loss. A record ends at a line feed and its fields are
parted by commas, both only outside quotes, and every record comes back, also one without fields and
one with a single empty field. -/
namespace TableTalk.Csv

/-- The pieces of a text between the separators that stand outside quotes. -/
def splitOutside (separator : Char) : Bool → List Char → List (List Char)
  | _, [] => [[]]
  | true, c :: rest => (splitOutside separator (c != '"') rest).modifyHead (c :: ·)
  | false, c :: rest =>
      if c = separator then [] :: splitOutside separator false rest
      else (splitOutside separator (c == '"') rest).modifyHead (c :: ·)

/-- A text in which every quote is doubled, with single quotes. -/
def halveQuotes : List Char → List Char
  | [] => []
  | '"' :: '"' :: rest => '"' :: halveQuotes rest
  | c :: rest => c :: halveQuotes rest

/-- The text of a field, without the quotes that it may stand in. -/
def unquote : List Char → List Char
  | '"' :: rest => halveQuotes rest.dropLast
  | field => field

def readRecord (line : List Char) : List (List Char) :=
  if line = [] then [] else (splitOutside ',' false line).map unquote

/-- The records of a text. What follows the last line feed is none. -/
def readRecords (text : List Char) : List (List (List Char)) :=
  ((splitOutside '\n' false text).dropLast).map readRecord

variable {separator : Char} {piece : List Char}

/-- A text that is a part of one piece, and after which no quotes are open. -/
def Passes (separator : Char) (piece : List Char) : Prop :=
  ∀ rest, splitOutside separator false (piece ++ rest) =
    (splitOutside separator false rest).modifyHead (piece ++ ·)

theorem Passes.nil : Passes separator [] := fun rest => by
  cases h : splitOutside separator false rest <;> simp [h]

theorem Passes.append {further : List Char} (h : Passes separator piece)
    (h' : Passes separator further) : Passes separator (piece ++ further) := by
  intro rest
  rw [List.append_assoc, h, h', List.modifyHead_modifyHead]
  simp only [Function.comp_def, List.append_assoc]

theorem Passes.cons {c : Char} (hc : c ≠ separator) (hquote : c ≠ '"')
    (h : Passes separator piece) : Passes separator (c :: piece) := by
  intro rest
  have hopen : (c == '"') = false := by simpa using hquote
  rw [List.cons_append, splitOutside, if_neg hc, hopen, h, List.modifyHead_modifyHead]
  rfl

/-- Inside quotes the doubled text of a field and the quote after it lead out of them again. -/
theorem splitOutside_doubleQuotes (hne : separator ≠ '"') (s rest : List Char) :
    splitOutside separator true (doubleQuotes s ++ '"' :: rest) =
      (splitOutside separator false rest).modifyHead (doubleQuotes s ++ '"' :: ·) := by
  have hquote : ('"' != '"') = false := rfl
  induction s with
  | nil =>
    rw [doubleQuotes, List.nil_append, splitOutside, hquote]
    rfl
  | cons c further ih =>
    by_cases hc : c = '"'
    · subst hc
      have hopen : ('"' == '"') = true := rfl
      rw [doubleQuotes_quote, List.cons_append, List.cons_append, splitOutside, hquote,
        splitOutside, if_neg hne.symm, hopen, ih, List.modifyHead_modifyHead, List.modifyHead_modifyHead]
      rfl
    · have hstay : (c != '"') = true := by simpa using hc
      rw [doubleQuotes_of_ne hc, List.cons_append, splitOutside, hstay, ih,
        List.modifyHead_modifyHead]
      rfl

theorem passes_quoteField (hne : separator ≠ '"') (field : List Char) :
    Passes separator (quoteField field) := by
  intro rest
  have hopen : ('"' == '"') = true := rfl
  rw [quoteField_eq, List.cons_append, List.append_assoc, List.singleton_append, splitOutside,
    if_neg hne.symm, hopen, splitOutside_doubleQuotes hne, List.modifyHead_modifyHead]
  simp [Function.comp_def]

theorem passes_writeField (h : separator = ',' ∨ separator = '\n') (field : List Char) :
    Passes separator (writeField field) := by
  unfold writeField
  split
  case isTrue => exact passes_quoteField (by rcases h with rfl | rfl <;> decide) field
  case isFalse hplain =>
    rw [Bool.not_eq_true, needsQuotes_eq_false_iff] at hplain
    induction field with
    | nil => exact .nil
    | cons c rest ih =>
      rw [List.forall_mem_cons] at hplain
      obtain ⟨⟨⟨hcomma, hquote⟩, hfeed⟩, hrest⟩ := hplain
      refine .cons ?_ hquote (ih hrest)
      rcases h with rfl | rfl
      · exact hcomma
      · exact hfeed

theorem passes_writeFurther (fields : List (List Char)) : Passes '\n' (writeFurther fields) := by
  induction fields with
  | nil => exact .nil
  | cons field rest ih =>
    exact .cons (by decide) (by decide) ((passes_writeField (.inr rfl) field).append ih)

/-- A separator ends the piece before it. -/
theorem Passes.splitOutside_separator (h : Passes separator piece) (rest : List Char) :
    splitOutside separator false (piece ++ separator :: rest) =
      piece :: splitOutside separator false rest := by
  rw [h, splitOutside, if_pos rfl, List.modifyHead_cons, List.append_nil]

theorem Passes.splitOutside_eq (h : Passes separator piece) :
    splitOutside separator false piece = [piece] := by
  simpa [splitOutside] using h []

/-- The commas outside quotes are those between the fields. -/
theorem splitOutside_writeFurther (field : List Char) (fields : List (List Char)) :
    splitOutside ',' false (writeField field ++ writeFurther fields) =
      (field :: fields).map writeField := by
  induction fields generalizing field with
  | nil =>
    rw [writeFurther, List.append_nil]
    exact (passes_writeField (.inl rfl) field).splitOutside_eq
  | cons next rest ih =>
    rw [writeFurther_cons, (passes_writeField (.inl rfl) field).splitOutside_separator, ih]
    rfl

theorem halveQuotes_doubleQuotes (s : List Char) : halveQuotes (doubleQuotes s) = s := by
  induction s with
  | nil => rfl
  | cons c rest ih =>
    by_cases hc : c = '"'
    · subst hc
      rw [doubleQuotes_quote, halveQuotes, ih]
    · rw [doubleQuotes_of_ne hc, halveQuotes, ih]
      exact fun rest h => absurd h hc

theorem unquote_writeField (field : List Char) : unquote (writeField field) = field := by
  unfold writeField
  split
  case isTrue =>
    rw [quoteField_eq, unquote, List.dropLast_concat, halveQuotes_doubleQuotes]
  case isFalse hplain =>
    unfold unquote
    split
    case h_1 => simp [needsQuotes] at hplain
    case h_2 => rfl

/-- The line of a record, without the line feed that ends it. -/
def recordLine : List (List Char) → List Char
  | [] => []
  | [[]] => ['"', '"']
  | field :: rest => writeField field ++ writeFurther rest

theorem writeRecord_eq (record : List (List Char)) :
    writeRecord record = recordLine record ++ ['\n'] := by
  unfold writeRecord
  split
  case h_1 => rfl
  case h_2 => rfl
  case h_3 hsingle =>
    rw [recordLine]
    · rfl
    · exact hsingle

theorem passes_recordLine (record : List (List Char)) : Passes '\n' (recordLine record) := by
  unfold recordLine
  split
  case h_1 => exact .nil
  case h_2 => exact passes_quoteField (by decide) []
  case h_3 field rest _ =>
    exact (passes_writeField (.inr rfl) field).append (passes_writeFurther rest)

theorem readRecord_recordLine (record : List (List Char)) :
    readRecord (recordLine record) = record := by
  unfold recordLine
  split
  case h_1 => rfl
  case h_2 => decide
  case h_3 field rest hsingle =>
    have hne : writeField field ++ writeFurther rest ≠ [] := by
      intro hempty
      obtain ⟨hfield, hrest⟩ := List.append_eq_nil_iff.mp hempty
      have hnil : field = [] := by
        rw [← unquote_writeField field, hfield]
        rfl
      cases rest with
      | nil => exact hsingle hnil rfl
      | cons => cases hrest
    rw [readRecord, if_neg hne, splitOutside_writeFurther, List.map_map]
    simp [Function.comp_def, unquote_writeField]

/-- Every list of records is read back from its text. -/
theorem readRecords_writeRecords (records : List (List (List Char))) :
    readRecords (writeRecords records) = records := by
  have hsplit : splitOutside '\n' false (writeRecords records) =
      records.map recordLine ++ [[]] := by
    induction records with
    | nil => rfl
    | cons record rest ih =>
      rw [writeRecords, List.flatMap_cons, ← writeRecords, writeRecord_eq, List.append_assoc,
        List.singleton_append, (passes_recordLine record).splitOutside_separator, ih]
      rfl
  rw [readRecords, hsplit, List.dropLast_concat, List.map_map]
  simp [Function.comp_def, readRecord_recordLine]

end TableTalk.Csv
