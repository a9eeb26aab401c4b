import Mathlib.Data.List.Nodup
import TableTalk.Proofs.Ingest.JsonFile

/-! Datasets from JSON records. Values other than floats are kept: scalars as they are, arrays and
objects as texts that denote them. Lone halves are kept as well, but two that make a character
become one. -/
namespace TableTalk
open TableTalk.Text

namespace Ingest

/-- What a cell keeps of a value. -/
inductive Keeps : Json.Value → Cell → Prop where
  | null : Keeps .null .null
  | bool (b : Bool) : Keeps (.bool b) (.bool b)
  | int (n : Int) : Keeps (.int n) (.int n)
  | string {text : Symbols} {cell : Cell} (h : cell.symbols? = some text) :
      Keeps (.string text) cell
  | array {items : List Json.Value} {s : String} (h : Json.read s.toList = .ok (.array items)) :
      Keeps (.array items) (.text s)
  | object {members : List (Symbols × Json.Value)} {s : String}
      (h : Json.read s.toList = .ok (.object members)) : Keeps (.object members) (.text s)

/-- Members under distinct clean names, with values that fit into an object of an array. -/
structure IsRecord (record : List (String × Json.Value)) : Prop where
  nodup : (record.map Prod.fst).Nodup
  clean : ∀ member ∈ record, ColumnName.normalize member.1 = member.1
  fits : ∀ member ∈ record, Json.Fits (Json.depthLimit - 2) member.2
  short : ∀ member ∈ record, ∀ text, member.2 = .string text → ¬ (Cell.ofSymbols text).IsOverlong

def objectOf (record : List (String × Json.Value)) : Json.Value :=
  .object (record.map fun member => (symbols member.1, member.2))

/-- The text of a file with some records. -/
def recordsText (records : List (List (String × Json.Value))) : List Char :=
  Json.write (.array (records.map objectOf))

def rowOf (record : List (String × Json.Value)) : Row :=
  record.map fun member => (member.1, cellOfValue member.2)

variable {settings : Settings} {filename : String} {record : List (String × Json.Value)}
  {records : List (List (String × Json.Value))}

theorem IsRecord.fits_objectOf (h : IsRecord record) :
    Json.Fits (Json.depthLimit - 1) (objectOf record) := by
  have hnames : (record.map fun member => (symbols member.1, member.2)).map Prod.fst =
      (record.map Prod.fst).map symbols := by
    rw [List.map_map, List.map_map]
    rfl
  have hdepth : Json.depthLimit - 1 = Json.depthLimit - 2 + 1 := by decide
  rw [hdepth]
  apply Json.Fits.object
  · rw [hnames]
    exact h.nodup.map symbols_injective
  · rw [List.forall_mem_map]
    exact fun member _ => Json.isJoined_of_isWhole (isWhole_symbols member.1)
  · rw [List.forall_mem_map]
    exact h.fits

theorem fits_records (h : ∀ record ∈ records, IsRecord record) :
    Json.Fits Json.depthLimit (.array (records.map objectOf)) := by
  have hdepth : Json.depthLimit = Json.depthLimit - 1 + 1 := by decide
  rw [hdepth]
  apply Json.Fits.array
  rw [List.forall_mem_map]
  exact fun record hrecord => (h record hrecord).fits_objectOf

theorem records_recordsText (h : ∀ record ∈ records, IsRecord record)
    (hname : isJsonName filename = true) :
    Ingest.records filename (Utf8.encode (recordsText records)) = .ok (records.map rowOf) := by
  have hfits := fits_records h
  have hcells (record : List (String × Json.Value)) :
      cellsOfMembers (record.map fun member => (symbols member.1, member.2)) =
        rowOf record := by
    rw [cellsOfMembers, List.map_map, rowOf]
    apply List.map_congr_left
    intro member _
    rw [Function.comp_apply, shown_symbols]
  have hobjects := recordsOfValue_objects
    (records.map fun record => record.map fun member => (symbols member.1, member.2))
  rw [List.map_map, List.map_map] at hobjects
  rw [recordsText, records_json hname (Json.read_write hfits) hobjects]
  exact congrArg Except.ok (List.map_congr_left fun record _ => hcells record)

theorem map_cleanRow_rowOf (h : ∀ record ∈ records, IsRecord record) :
    (records.map rowOf).map cleanRow = records.map rowOf := by
  rw [List.map_map]
  apply List.map_congr_left
  intro record hrecord
  apply cleanRow_eq_self
  · rw [rowOf, List.map_map]
    exact (h record hrecord).nodup
  · rw [rowOf, List.forall_mem_map]
    exact (h record hrecord).clean

theorem isLegal_cellOfValue (value : Json.Value) : (cellOfValue value).isLegal = true := by
  cases value with
  | string text => exact Cell.isLegal_ofSymbols text
  | _ => rfl

theorem not_isOverlong_cellOfValue {value : Json.Value}
    (h : ∀ text, value = .string text → ¬ (Cell.ofSymbols text).IsOverlong) :
    ¬ (cellOfValue value).IsOverlong := by
  cases value with
  | string text => exact h text rfl
  | array items =>
    have hcell : cellOfValue (.array items) =
        .text (String.ofList ('[' :: (Json.writeItems items ++ [']']))) := by
      rw [← Json.write]
      rfl
    rw [hcell]
    exact Cell.not_isOverlong_of_bracket (.inl rfl)
  | object members =>
    have hcell : cellOfValue (.object members) =
        .text (String.ofList ('\x7b' :: (Json.writeMembers members ++ ['\x7d']))) := by
      rw [← Json.write]
      rfl
    rw [hcell]
    exact Cell.not_isOverlong_of_bracket (.inr rfl)
  | _ =>
    rintro ⟨_, _, heq, -⟩
    cases heq

theorem isReadable_rowOf (h : ∀ record ∈ records, IsRecord record) :
    ∀ row ∈ records.map rowOf, ∀ entry ∈ row, entry.2.IsReadable := by
  rw [List.forall_mem_map]
  intro record hrecord
  rw [rowOf, List.forall_mem_map]
  exact fun member hmember => ⟨isLegal_cellOfValue member.2,
    not_isOverlong_cellOfValue ((h record hrecord).short member hmember)⟩

theorem keeps_cellOfValue {value : Json.Value} (h : Json.Fits Json.depthLimit value) :
    Keeps value (cellOfValue value) := by
  have hread := Json.read_write h
  cases h with
  | null => exact .null
  | bool b => exact .bool b
  | int _ => exact .int _
  | string _ => exact .string (Cell.symbols?_ofSymbols _)
  | array _ => exact .array (by rwa [String.toList_ofList])
  | object _ _ _ => exact .object (by rwa [String.toList_ofList])

/-- The rows of a file of records have the names of the records in order, and cells that keep their
values. -/
theorem ofFile_recordsText (hne : records ≠ []) (h : ∀ record ∈ records, IsRecord record)
    (hname : isJsonName filename = true)
    (hsize : isTooLarge settings (Utf8.encode (recordsText records)) = false) :
    ∃ dataset, ofFile settings (Utf8.encode (recordsText records)) filename = .ok dataset ∧
      List.Forall₂ (List.Forall₂ fun member entry =>
        entry.1 = member.1 ∧ Keeps member.2 entry.2) records dataset.rows := by
  obtain ⟨dataset, hfile, hdataset⟩ := exists_ofFile_eq_ok hsize (records_recordsText h hname)
    (map_cleanRow_rowOf h) (by simpa using hne) (isReadable_rowOf h)
  refine ⟨dataset, hfile, ?_⟩
  rw [hdataset, List.forall₂_map_right_iff, List.forall₂_same]
  intro record hrecord
  rw [rowOf, List.forall₂_map_right_iff, List.forall₂_same]
  intro member hmember
  have hfits := ((h record hrecord).fits member hmember).mono (Nat.sub_le Json.depthLimit 2)
  exact ⟨rfl, keeps_cellOfValue hfits⟩

/-- One, truth and a numeral side by side, a lone half, and a nested value with nothing, a character
beyond 16 bits and another half in it. -/
def mixedRecord : List (String × Json.Value) :=
  [("count", .int 1), ("known", .bool true), ("code", .string (symbols "1")),
    ("torn", .string [.half 0xD83D]),
    ("parts", .array [.null, .string (symbols "é😀" ++ [.half 0xDE00])])]

theorem isRecord_mixedRecord : IsRecord mixedRecord := by
  refine ⟨by decide, by decide +kernel, ?_, ?_⟩
  · have hparts : Json.Fits 1 (.array [.null, .string (symbols "é😀" ++ [.half 0xDE00])]) := by
      apply Json.Fits.array
      rw [List.forall_mem_cons, List.forall_mem_singleton]
      exact ⟨.null, .string ⟨by decide, by decide⟩⟩
    simp only [mixedRecord, List.forall_mem_cons, List.not_mem_nil, false_implies, implies_true,
      and_true]
    exact ⟨.int (by decide), .bool true, .string (Json.isJoined_of_isWhole (isWhole_symbols _)),
      .string ⟨by decide, by decide⟩, hparts.mono (by decide)⟩
  · simp only [mixedRecord, List.forall_mem_cons, List.not_mem_nil, false_implies, implies_true,
      and_true]
    refine ⟨nofun, nofun, ?_, ?_, nofun⟩
    · rintro _ ⟨⟩
      exact Cell.not_isOverlong_of_length (by decide)
    · rintro _ ⟨⟩ ⟨_, _, heq, -⟩
      cases heq

theorem ofFile_recordsText_mixed :
    IsRecord mixedRecord ∧ isJsonName "Mixed.JSON" = true ∧
      isTooLarge {} (Utf8.encode (recordsText [mixedRecord])) = false ∧
      ∃ dataset, ofFile {} (Utf8.encode (recordsText [mixedRecord])) "Mixed.JSON" = .ok dataset ∧
        List.Forall₂ (List.Forall₂ fun member entry =>
          entry.1 = member.1 ∧ Keeps member.2 entry.2) [mixedRecord] dataset.rows := by
  have hname : isJsonName "Mixed.JSON" = true := by decide +kernel
  have hsize : isTooLarge {} (Utf8.encode (recordsText [mixedRecord])) = false := by decide +kernel
  exact ⟨isRecord_mixedRecord, hname, hsize, ofFile_recordsText (List.cons_ne_nil _ _)
    (List.forall_mem_singleton.mpr isRecord_mixedRecord) hname hsize⟩

/-- The two halves of a character, as a cell and as a name beside the character itself. -/
def joinedRecord : List (String × Json.Value) :=
  [("a", .string [.half 0xD83D, .half 0xDE00]),
    ("b", .object [([.half 0xD83D, .half 0xDE00], .int 1), (symbols "😀", .int 2)])]

/-- The text that the object of the record is kept as. -/
def joinedText : String := "\x7b\"\\ud83d\\ude00\": 2\x7d"

theorem read_joinedText :
    Json.read joinedText.toList = .ok (.object [(symbols "😀", .int 2)]) := by
  have hfits : Json.Fits 1 (.object [(symbols "😀", .int 2)]) := by
    apply Json.Fits.object (by decide)
    · exact List.forall_mem_singleton.mpr (Json.isJoined_of_isWhole (isWhole_symbols "😀"))
    · exact List.forall_mem_singleton.mpr (.int (by decide))
  have hwritten : joinedText.toList = Json.write (.object [(symbols "😀", .int 2)]) := by
    decide +kernel
  rw [hwritten, Json.read_write (hfits.mono (by decide))]

/-- Two halves that make a character are written like it, so that neither value is kept. -/
theorem ofFile_joined_halves :
    (joinedRecord.map Prod.fst).Nodup ∧
      (∀ member ∈ joinedRecord, ColumnName.normalize member.1 = member.1) ∧
      (∀ member ∈ joinedRecord, ∀ text, member.2 = .string text →
        ¬ (Cell.ofSymbols text).IsOverlong) ∧
      recordsText [joinedRecord] = ("[\x7b\"a\": \"\\ud83d\\ude00\", " ++
        "\"b\": \x7b\"\\ud83d\\ude00\": 1, \"\\ud83d\\ude00\": 2\x7d\x7d]").toList ∧
      ∃ dataset, ofFile {} (Utf8.encode (recordsText [joinedRecord])) "joined.json" = .ok dataset ∧
        dataset.rows.texts = [[("a", some (symbols "😀")), ("b", some (symbols joinedText))]] ∧
        List.Forall₂ (List.Forall₂ fun member entry => ¬ Keeps member.2 entry.2)
          [joinedRecord] dataset.rows := by
  have hshort : ∀ member ∈ joinedRecord, ∀ text, member.2 = .string text →
      ¬ (Cell.ofSymbols text).IsOverlong := by
    rw [joinedRecord, List.forall_mem_cons, List.forall_mem_singleton]
    refine ⟨?_, nofun⟩
    rintro _ ⟨⟩ ⟨_, _, heq, -⟩
    cases heq
  refine ⟨by decide, by decide +kernel, hshort, by decide +kernel, ?_⟩
  have hshown : (ofFile {} (Utf8.encode (recordsText [joinedRecord])) "joined.json").map
      (fun dataset => dataset.rows.texts) =
      .ok [[("a", some (symbols "😀")), ("b", some (symbols joinedText))]] := by decide +kernel
  obtain ⟨dataset, hfile, hcells⟩ := Except.map_eq_ok_iff.mp hshown
  refine ⟨dataset, hfile, hcells, ?_⟩
  obtain ⟨row, hrows, hrow⟩ := List.map_eq_singleton_iff.mp hcells
  obtain ⟨first, _, rfl, hfirst, hrest⟩ := List.map_eq_cons_iff.mp hrow
  obtain ⟨second, rfl, hsecond⟩ := List.map_eq_singleton_iff.mp hrest
  have hsecond := Cell.symbols?_eq_some_iff.mp (Prod.mk.inj hsecond).2
  rw [Cell.ofSymbols_symbols] at hsecond
  rw [hrows]
  refine .cons (.cons ?_ (.cons ?_ .nil)) .nil
  · intro hkeeps
    cases hkeeps with
    | string hhalves => exact absurd (hhalves.symm.trans (Prod.mk.inj hfirst).2) (by decide)
  · rw [hsecond]
    intro hkeeps
    cases hkeeps with
    | object hread => cases read_joinedText.symm.trans hread

end Ingest
end TableTalk
