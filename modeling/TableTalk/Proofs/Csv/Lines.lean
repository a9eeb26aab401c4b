import Mathlib.Data.List.Basic
import TableTalk.Csv.Lines

/-! Lines of plain bytes, all of one length, are told apart as they were put together. A line of a
single empty field does not count, since nothing tells it from a blank line. -/
namespace TableTalk.Csv

variable {delimiter : UInt8}

/-- A byte that cannot be taken for a part of the lines themselves. -/
structure IsSeparator (delimiter : UInt8) : Prop where
  feed : delimiter ≠ lineFeed
  return' : delimiter ≠ carriageReturn
  quote : delimiter ≠ quoteByte

/-- A byte that a field may show without quotes, also where it begins a line. -/
structure IsPlainByte (delimiter byte : UInt8) : Prop where
  feed : byte ≠ lineFeed
  return' : byte ≠ carriageReturn
  quote : byte ≠ quoteByte
  separator : byte ≠ delimiter
  blank : isBlankByte delimiter byte = false

/-- A byte that shows in a field, unless it is the delimiter. -/
structure IsVisibleByte (byte : UInt8) : Prop where
  feed : byte ≠ lineFeed
  return' : byte ≠ carriageReturn
  quote : byte ≠ quoteByte
  space : byte ≠ 32
  tab : byte ≠ 9

theorem IsVisibleByte.isSeparator (h : IsVisibleByte delimiter) : IsSeparator delimiter :=
  ⟨h.feed, h.return', h.quote⟩

theorem IsVisibleByte.isPlainByte {byte : UInt8} (h : IsVisibleByte byte) (hne : byte ≠ delimiter) :
    IsPlainByte delimiter byte :=
  ⟨h.feed, h.return', h.quote, hne, by simp [isBlankByte, h.space, h.tab]⟩

/-- A line of so many plain fields that does not look blank. -/
structure IsPlainLine (delimiter : UInt8) (size : Nat) (line : List Bytes) : Prop where
  length : line.length = size
  ne_nil : line ≠ []
  filled : line ≠ [[]]
  plain : ∀ field ∈ line, ∀ byte ∈ field, IsPlainByte delimiter byte

/-- Fields with a delimiter before each of them. -/
def furtherBytes (delimiter : UInt8) (fields : List Bytes) : Bytes :=
  fields.flatMap (fun field => delimiter :: field)

def lineBytes (delimiter : UInt8) : List Bytes → Bytes
  | [] => [lineFeed]
  | field :: further => field ++ (furtherBytes delimiter further ++ [lineFeed])

namespace Progress

variable {mode : Mode} {read : Bytes} {fields : List Bytes} {lines : List (List Bytes)}
  {count width met : Nat}

/-- The modes in which a line feed ends a field and the line. -/
def EndsLine (mode : Mode) : Prop := mode = .fieldStart ∨ mode = .inField

theorem step_plain {byte : UInt8} (hbyte : IsPlainByte delimiter byte)
    (hmode : mode = .lineStart ∨ EndsLine mode) :
    step delimiter ⟨mode, read, fields, lines, count, width, false, met⟩ byte =
      ⟨.inField, byte :: read, fields, lines, count, width, false, met⟩ := by
  obtain ⟨hfeed, hreturn, hquote, hseparator, hblank⟩ := hbyte
  rcases hmode with rfl | rfl | rfl <;>
    simp [step, stepLineStart, stepFieldStart, stepInField, push, hfeed, hreturn, hquote,
      hseparator, hblank]

theorem step_delimiter (h : IsSeparator delimiter) (hmode : mode = .lineStart ∨ EndsLine mode) :
    step delimiter ⟨mode, read, fields, lines, count, width, false, met⟩ delimiter =
      ⟨.fieldStart, [], read.reverse :: fields, lines, count, width, false, met⟩ := by
  obtain ⟨hfeed, hreturn, hquote⟩ := h
  have hblank : isBlankByte delimiter delimiter = false := by simp [isBlankByte]
  rcases hmode with rfl | rfl | rfl <;>
    simp [step, stepLineStart, stepFieldStart, stepInField, endField, hfeed, hreturn, hquote,
      hblank]

/-- A line that is as long as the one before it is kept as it is. -/
theorem endLine_of_width (hwidth : count = 0 ∨ width = fields.length) :
    endLine ⟨mode, [], fields, lines, count, width, false, met⟩ =
      ⟨.lineStart, [], [], fields.reverse :: lines, count + 1, fields.length, false, met + 1⟩ := by
  have hkept : ¬ (2 ≤ count ∧ width < fields.length) := by omega
  have hmissing : (if count = 0 then 0 else width - fields.length) = 0 := by
    split <;> omega
  simp [endLine, hkept, hmissing]

theorem step_lineFeed (hmode : EndsLine mode)
    (hwidth : count = 0 ∨ width = fields.length + 1) :
    step delimiter ⟨mode, read, fields, lines, count, width, false, met⟩ lineFeed =
      ⟨.lineStart, [], [], (read.reverse :: fields).reverse :: lines, count + 1,
        fields.length + 1, false, met + 1⟩ := by
  have hstep : step delimiter ⟨mode, read, fields, lines, count, width, false, met⟩ lineFeed =
      endLine ⟨.fieldStart, [], read.reverse :: fields, lines, count, width, false, met⟩ := by
    rcases hmode with rfl | rfl <;> rfl
  rw [hstep, endLine_of_width hwidth]
  rfl

theorem foldl_plain {field : Bytes} (hfield : ∀ byte ∈ field, IsPlainByte delimiter byte)
    (read : Bytes) :
    field.foldl (step delimiter) ⟨.inField, read, fields, lines, count, width, false, met⟩ =
      ⟨.inField, field.reverse ++ read, fields, lines, count, width, false, met⟩ := by
  induction field generalizing read with
  | nil => rfl
  | cons byte rest ih =>
    rw [List.forall_mem_cons] at hfield
    rw [List.foldl_cons, step_plain hfield.1 (.inr (.inr rfl)), ih hfield.2]
    simp

/-- After the bytes of a field the reader has it; an empty one leaves it where it was. -/
theorem foldl_field (fields : List Bytes) (lines : List (List Bytes)) (count width met : Nat)
    {field : Bytes} (hfield : ∀ byte ∈ field, IsPlainByte delimiter byte)
    (hmode : mode = .lineStart ∨ mode = .fieldStart) :
    ∃ after, field.foldl (step delimiter)
        ⟨mode, [], fields, lines, count, width, false, met⟩ =
        ⟨after, field.reverse, fields, lines, count, width, false, met⟩ ∧
      (EndsLine after ∨ field = [] ∧ after = mode) := by
  cases field with
  | nil => exact ⟨mode, rfl, .inr ⟨rfl, rfl⟩⟩
  | cons byte rest =>
    rw [List.forall_mem_cons] at hfield
    have hstart : mode = .lineStart ∨ EndsLine mode := hmode.imp_right .inl
    refine ⟨.inField, ?_, .inl (.inr rfl)⟩
    rw [List.foldl_cons, step_plain hfield.1 hstart, foldl_plain hfield.2]
    simp

/-- The rest of a line, once its first field has been read. -/
theorem foldl_furtherBytes (h : IsSeparator delimiter) (further : List Bytes) (field : Bytes)
    (hplain : ∀ field ∈ further, ∀ byte ∈ field, IsPlainByte delimiter byte)
    (hmode : EndsLine mode ∨ mode = .lineStart ∧ further ≠ [])
    (hwidth : count = 0 ∨ width = fields.length + further.length + 1) :
    (furtherBytes delimiter further ++ [lineFeed]).foldl (step delimiter)
        ⟨mode, field.reverse, fields, lines, count, width, false, met⟩ =
      ⟨.lineStart, [], [], (fields.reverse ++ field :: further) :: lines, count + 1,
        fields.length + further.length + 1, false, met + 1⟩ := by
  induction further generalizing mode field fields with
  | nil =>
    have hends : EndsLine mode := by simpa using hmode
    rw [furtherBytes, List.flatMap_nil, List.nil_append, List.foldl_cons,
      step_lineFeed hends hwidth]
    simp
  | cons next rest ih =>
    rw [List.forall_mem_cons] at hplain
    obtain ⟨after, hfield, hafter⟩ := foldl_field (field :: fields) lines count width met
      hplain.1 (.inr rfl)
    have hends : EndsLine after := by
      rcases hafter with hends | ⟨-, rfl⟩
      · exact hends
      · exact .inl rfl
    have hdelimiter : mode = .lineStart ∨ EndsLine mode := by tauto
    have hlength : (field :: fields).length + rest.length + 1 =
        fields.length + (next :: rest).length + 1 := by
      rw [List.length_cons, List.length_cons]
      omega
    rw [furtherBytes, List.flatMap_cons, ← furtherBytes, List.cons_append, List.cons_append,
      List.foldl_cons, step_delimiter h hdelimiter, List.reverse_reverse, List.append_assoc,
      List.foldl_append, hfield, ih next hplain.2 (.inl hends) (hlength ▸ hwidth), hlength]
    simp

theorem foldl_lineBytes (h : IsSeparator delimiter) {size : Nat} {line : List Bytes}
    (hline : IsPlainLine delimiter size line) (hwidth : count = 0 ∨ width = size) :
    (lineBytes delimiter line).foldl (step delimiter)
        ⟨.lineStart, [], [], lines, count, width, false, met⟩ =
      ⟨.lineStart, [], [], line :: lines, count + 1, size, false, met + 1⟩ := by
  obtain ⟨hsize, hne, hfilled, hplain⟩ := hline
  cases line with
  | nil => exact absurd rfl hne
  | cons field further =>
    rw [List.forall_mem_cons] at hplain
    obtain ⟨after, hfield, hafter⟩ := foldl_field [] lines count width met hplain.1
      (.inl rfl)
    have hmode : EndsLine after ∨ after = .lineStart ∧ further ≠ [] := by
      rcases hafter with hends | ⟨rfl, rfl⟩
      · exact .inl hends
      · exact .inr ⟨rfl, by rintro rfl; exact hfilled rfl⟩
    have hlength : ([] : List Bytes).length + further.length + 1 = size := by
      rw [List.length_nil, ← hsize, List.length_cons, Nat.zero_add]
    rw [lineBytes, List.foldl_append, hfield,
      foldl_furtherBytes h further field hplain.2 hmode (by rwa [hlength]), hlength]
    rfl

/-- Line by line, the width of the last one is that of all. -/
theorem foldl_lines (h : IsSeparator delimiter) {size : Nat} (all : List (List Bytes))
    (hall : ∀ line ∈ all, IsPlainLine delimiter size line) (lines : List (List Bytes))
    (count width met : Nat) (hwidth : count = 0 ∨ width = size) :
    ∃ width', (all.flatMap (lineBytes delimiter)).foldl (step delimiter)
        ⟨.lineStart, [], [], lines, count, width, false, met⟩ =
      ⟨.lineStart, [], [], all.reverse ++ lines, count + all.length, width', false,
        met + all.length⟩ := by
  induction all generalizing lines count width met with
  | nil => exact ⟨width, rfl⟩
  | cons line rest ih =>
    rw [List.forall_mem_cons] at hall
    obtain ⟨width', hrest⟩ := ih hall.2 (line :: lines) (count + 1) size (met + 1) (.inr rfl)
    refine ⟨width', ?_⟩
    rw [List.flatMap_cons, List.foldl_append, foldl_lineBytes h hall.1 hwidth, hrest]
    simp only [List.reverse_cons, List.append_assoc, List.singleton_append, List.length_cons,
      Nat.add_assoc, Nat.add_comm 1]

end Progress

/-- Bytes of ASCII text have no mark of the byte order. -/
theorem skipByteOrderMark_ascii {bytes : Bytes} (h : ∀ byte ∈ bytes, byte.toNat < 128) :
    skipByteOrderMark bytes = bytes := by
  unfold skipByteOrderMark
  split
  case h_1 rest =>
    exact absurd (h 0xEF List.mem_cons_self) (by decide)
  case h_2 => rfl

/-- Lines of equal length that are put together from plain fields are found again. -/
theorem Lines.ofBytes_lineBytes (h : IsSeparator delimiter) {size : Nat} {all : List (List Bytes)}
    (hall : ∀ line ∈ all, IsPlainLine delimiter size line)
    (hascii : ∀ byte ∈ all.flatMap (lineBytes delimiter), byte.toNat < 128) :
    Lines.ofBytes delimiter (all.flatMap (lineBytes delimiter)) = ⟨all, none⟩ := by
  obtain ⟨width, hfold⟩ := Progress.foldl_lines h all hall [] 0 0 0 (.inl rfl)
  rw [Lines.ofBytes, skipByteOrderMark_ascii hascii, Progress.start, hfold]
  simp [Progress.finish]

end TableTalk.Csv
