import Mathlib.Data.List.Forall2
import TableTalk.History
import TableTalk.Proofs.Calendar.TimestampText
import TableTalk.Proofs.Csv.StrictLines

/-! The exported log can be read back: under its header stands one record for each entry, in the
order of the entries, with everything that the entry says. -/
namespace TableTalk.History
open TableTalk.Calendar TableTalk.Csv TableTalk.Number

/-- A record says what an entry says; its third field denotes the time of the entry. -/
def Tells (entry : Entry) (record : List (List Char)) : Prop :=
  ∃ time, Timestamp.ofText? time = some entry.stamp.time ∧
    record = [entry.question.toList, entry.query.toList, time, (toString entry.rowCount).toList,
      (entry.error.getD "").toList]

/-- The texts of an entry have no carriage returns, which would end a line, and its time is one. -/
structure IsReadable (entry : Entry) : Prop where
  question : '\r' ∉ entry.question.toList
  query : '\r' ∉ entry.query.toList
  error : '\r' ∉ (entry.error.getD "").toList
  time : entry.stamp.time.IsValid

def fieldLists (fields : List String) : List (List Char) := fields.map String.toList

theorem return_notMem_padded (width n : Nat) : '\r' ∉ Timestamp.padded width n := fun h =>
  absurd (Timestamp.isAsciiDigit_of_mem_padded h) (by decide)

theorem return_notMem_toText (t : Timestamp) : '\r' ∉ t.toText.toList := by
  have hfraction : '\r' ∉ Timestamp.fractionText t.fraction := by
    unfold Timestamp.fractionText
    split <;> simp [return_notMem_padded]
  have hoffset (minutes : Int) : '\r' ∉ Timestamp.offsetText minutes := by
    unfold Timestamp.offsetText
    split <;> simp [return_notMem_padded]
  cases h : t.offset <;>
    simp [Timestamp.toText, Timestamp.localText, h, hfraction, hoffset, return_notMem_padded]

theorem return_notMem_integerText (n : Int) : '\r' ∉ (integerText n).toList := fun h => by
  simpa using digit_or_minus h

theorem return_notMem_entryFields {entry : Entry} (h : IsReadable entry) :
    ∀ field ∈ fieldLists (entryFields entry), '\r' ∉ field := by
  simp only [fieldLists, entryFields, List.map_cons, List.map_nil, List.forall_mem_cons]
  exact ⟨h.question, h.query, return_notMem_toText _, return_notMem_integerText _, h.error,
    by simp⟩

theorem tells_entryFields {entry : Entry} (h : IsReadable entry) :
    Tells entry (fieldLists (entryFields entry)) := by
  refine ⟨entry.stamp.time.toText.toList, Timestamp.ofText?_toText h.time, ?_⟩
  rw [← integerText_eq_toString]
  rfl

theorem return_notMem_header : ∀ field ∈ fieldLists header, '\r' ∉ field := by decide

/-- No record of the log is blank, since it has five fields. -/
theorem isBlankLine_fieldLists (isBlank : Char → Bool) {fields : List String}
    (h : fields = header ∨ ∃ entry, fields = entryFields entry) :
    StrictLines.isBlankLine isBlank (fieldLists fields) = false := by
  rcases h with rfl | ⟨entry, rfl⟩ <;> rfl

theorem toList_toCsv (history : History) : history.toCsv.toList =
    writeRecords ((header :: history.entries.map entryFields).map fieldLists) := by
  rw [toCsv, Csv.write, String.toList_ofList]
  rfl

/-- Reading the exported log gives its header and then a record for each entry. -/
theorem toCsv_readable (isBlank : Char → Bool) (history : History)
    (hreadable : ∀ entry ∈ history.entries, IsReadable entry) :
    ∃ records, StrictLines.ofText isBlank ',' history.toCsv.toList =
        ["question", "query_synthesized", "timestamp", "result_count", "error"].map
          String.toList :: records ∧
      List.Forall₂ Tells history.entries records := by
  have hfields : ∀ fields ∈ header :: history.entries.map entryFields,
      (fields = header ∨ ∃ entry, fields = entryFields entry) ∧
        ∀ field ∈ fieldLists fields, '\r' ∉ field := by
    intro fields hmem
    rcases List.mem_cons.mp hmem with rfl | hmem
    · exact ⟨.inl rfl, return_notMem_header⟩
    · obtain ⟨entry, hentry, rfl⟩ := List.mem_map.mp hmem
      exact ⟨.inr ⟨entry, rfl⟩, return_notMem_entryFields (hreadable entry hentry)⟩
  have hne : ∀ record ∈ (header :: history.entries.map entryFields).map fieldLists,
      record ≠ [] := by
    rw [List.forall_mem_map]
    intro fields hmem
    rcases (hfields fields hmem).1 with rfl | ⟨entry, rfl⟩ <;> exact List.cons_ne_nil _ _
  have hkept : ∀ record ∈ (header :: history.entries.map entryFields).map fieldLists,
      (!StrictLines.isBlankLine isBlank record) = true := by
    rw [List.forall_mem_map]
    intro fields hmem
    rw [isBlankLine_fieldLists isBlank (hfields fields hmem).1]
    rfl
  refine ⟨history.entries.map (fun entry => fieldLists (entryFields entry)), ?_, ?_⟩
  · rw [toList_toCsv, StrictLines.ofText_writeRecords isBlank hne
      (List.forall_mem_map.mpr fun fields hmem => (hfields fields hmem).2),
      List.filter_eq_self.mpr hkept, List.map_cons, List.map_map]
    rfl
  · rw [List.forall₂_map_right_iff, List.forall₂_same]
    exact fun entry hentry => tells_entryFields (hreadable entry hentry)

/-- A log with quotes, commas and a line feed in a question, and a question that failed. -/
def quotedLog : History :=
  ⟨[⟨⟨"1", ⟨2024, 2, 29, 23, 59, 58, 120000, some (-330)⟩⟩, "the \"top\" 3,\nby price",
      "SELECT * FROM data LIMIT 3", 3, none⟩,
    ⟨⟨"2", ⟨999, 12, 31, 0, 0, 0, 0, none⟩⟩, "average", "", 0, some "division by zero"⟩]⟩

theorem toCsv_readable_quotedLog : (∀ entry ∈ quotedLog.entries, IsReadable entry) ∧
    ∃ records, StrictLines.ofText Text.isBlank ',' quotedLog.toCsv.toList =
        ["question", "query_synthesized", "timestamp", "result_count", "error"].map
          String.toList :: records ∧
      List.Forall₂ Tells quotedLog.entries records := by
  have hreadable : ∀ entry ∈ quotedLog.entries, IsReadable entry := by
    simp only [quotedLog, List.forall_mem_cons]
    exact ⟨⟨by decide, by decide, by decide, by decide, by decide, by decide⟩,
      ⟨by decide, by decide, by decide, by decide, by decide, by decide⟩, by simp⟩
  exact ⟨hreadable, toCsv_readable Text.isBlank quotedLog hreadable⟩

end TableTalk.History
