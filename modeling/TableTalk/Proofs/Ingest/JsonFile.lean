import TableTalk.Proofs.Ingest.Records
import TableTalk.Proofs.Json.RoundTrip
import TableTalk.Proofs.Text.Utf8

/-! Datasets from JSON files: ASCII text and plain strings are read as they were written, and the
rows of the dataset are the records under clean names. -/
namespace TableTalk
open TableTalk.Text

namespace Json

/-- The characters that stand for themselves in a string. -/
def isPlain (c : Char) : Bool := c != '"' && c != '\\' && decide (32 ≤ c.toNat)

theorem readStringFrom_plain {start rest : List Char} {s : List Char}
    (h : ∀ c ∈ s, isPlain c = true) {fuel : Nat} (hfuel : s.length < fuel) (read : Symbols) :
    readStringFrom start fuel read (s ++ '"' :: rest) =
      .ok (read.reverse ++ s.map Symbol.char, rest) := by
  induction s generalizing fuel read with
  | nil =>
    obtain ⟨fuel, rfl⟩ := Nat.exists_eq_succ_of_ne_zero (Nat.ne_of_gt hfuel)
    simp [readStringFrom]
  | cons c s ih =>
    obtain ⟨fuel, rfl⟩ := Nat.exists_eq_succ_of_ne_zero (Nat.ne_of_gt (Nat.zero_lt_of_lt hfuel))
    rw [List.forall_mem_cons] at h
    obtain ⟨⟨hquote, hslash⟩, hcontrol⟩ : (c ≠ '"' ∧ c ≠ '\\') ∧ 32 ≤ c.toNat := by
      simpa [isPlain] using h.1
    rw [List.cons_append, readStringFrom_cons fuel hquote hslash hcontrol,
      ih h.2 (by simpa using hfuel)]
    simp

theorem readString_plain {s rest : List Char} (h : ∀ c ∈ s, isPlain c = true) :
    readString ('"' :: (s ++ '"' :: rest)) = .ok (s.map Symbol.char, rest) := by
  have hfuel : s.length < ('"' :: (s ++ '"' :: rest)).length := by
    rw [List.length_cons, List.length_append]
    omega
  exact readStringFrom_plain h hfuel []

variable {fuel depth : Nat} {s rest after : List Char} {value : Value}
  {members : List (Symbols × Value)}

theorem readValue_string (h : ∀ c ∈ s, isPlain c = true) :
    readValue (fuel + 1) depth ('"' :: (s ++ '"' :: rest)) =
      .ok (.string (s.map Symbol.char), rest) := by
  simp only [readValue, readString_plain h, Except.ok_bind]
  rfl

theorem readMembers_last (hname : ∀ c ∈ s, isPlain c = true) {text : List Char}
    (hvalue : readValue fuel depth (skipSpace text) = .ok (value, rest))
    (hrest : skipSpace rest = '\x7d' :: after) :
    readMembers (fuel + 1) depth members ('"' :: (s ++ '"' :: ':' :: text)) =
      .ok (.object (setMember members (s.map Symbol.char) value), after) :=
  readMembers_end (readString_plain hname) hvalue hrest

end Json

/-- The texts that the cells of a table hold, under the names of their columns. -/
def Table.texts (table : Table) : List (List (String × Option Symbols)) :=
  table.map fun row => row.map fun entry => (entry.1, entry.2.symbols?)

namespace Ingest

theorem recordsOfValue_objects (objects : List (List (Symbols × Json.Value))) :
    recordsOfValue (.array (objects.map Json.Value.object)) =
      .ok (objects.map cellsOfMembers) := by
  induction objects with
  | nil => rfl
  | cons members rest ih =>
    simp only [recordsOfValue] at ih
    simp only [recordsOfValue, List.map_cons, List.mapM_cons, recordOfValue, Except.ok_bind, ih]
    rfl

theorem cellOfValue_string (s : List Char) :
    cellOfValue (.string (s.map Symbol.char)) = .text (String.ofList s) := by
  rw [cellOfValue, ← symbols_ofList, Cell.ofSymbols_symbols]

variable {settings : Settings} {s : List Char} {filename : String} {value : Json.Value}
  {records : List (List (String × Cell))}

/-- A file is read as JSON if its name says so. -/
theorem records_json (hname : isJsonName filename = true)
    (hvalue : Json.read s = .ok value) (hrecords : recordsOfValue value = .ok records) :
    Ingest.records filename (Utf8.encode s) = .ok records := by
  simp only [Ingest.records, hname, if_true, jsonRecords, Utf8.decode_encode,
    Except.mapError, Except.ok_bind, hvalue, hrecords]

theorem ofFile_json (hname : isJsonName filename = true)
    (hsize : isTooLarge settings (Utf8.encode s) = false)
    (hvalue : Json.read s = .ok value) (hrecords : recordsOfValue value = .ok records) :
    ofFile settings (Utf8.encode s) filename =
      (Dataset.build settings (records.map cleanRow) filename).mapError (inFile filename) :=
  ofFile_of_records hsize (records_json hname hvalue hrecords)

end Ingest
end TableTalk
