import TableTalk.Proofs.Csv.Records
import TableTalk.Proofs.Export
import TableTalk.Proofs.Number.WholeText

/-! Exported integers. Those of a column without empty cells are written as they are. One empty cell
turns all integers of its column into floats, and a float is written as the shortest number that is
rounded to it, so that an integer keeps its value exactly if it is this number. -/
namespace TableTalk.Export
open TableTalk.Text TableTalk.Number

/-- Nothing, or an integer of at most 18 digits. -/
def IsShortInteger : Cell → Prop
  | .null => True
  | .int n => n.natAbs < 10 ^ 18
  | _ => False

/-- Rows under the same columns, with integers of at most 18 digits and empty cells. -/
structure IsIntegerTable (table : Table) : Prop where
  ne_nil : table ≠ []
  columns : ∀ row ∈ table, row.columns.Perm table.columns
  cells : ∀ row ∈ table, ∀ entry ∈ row, IsShortInteger entry.2

/-- No cell of the column is empty. -/
def IsFull (table : Table) (column : String) : Prop := ∀ row ∈ table, row.get column ≠ .null

/-- What the field of a cell tells. -/
structure Tells (table : Table) (column : String) (cell : Cell) (field : List Char) : Prop where
  empty : cell = .null → field = []
  integer : ∀ n, cell = .int n →
    (Denotes field n ↔ IsFull table column ∨ IsShortest n.natAbs)

variable {table : Table} {cell : Cell} {cells : List Cell} {column : String} {floats : Bool}

theorem shareRange_of_short {integers : List Int} (h : ∀ n ∈ integers, n.natAbs < 10 ^ 18) :
    shareRange integers = true := by
  rw [shareRange, Bool.or_eq_true, List.all_eq_true]
  refine .inl fun n hn => ?_
  have hlt := h n hn
  rw [Bool.and_eq_true, decide_eq_true_eq, decide_eq_true_eq]
  omega

/-- Among integers and empty cells it is the empty ones that turn the others into floats. -/
theorem asFloats_iff (h : ∀ cell ∈ cells, IsShortInteger cell) :
    asFloats cells = true ↔ .null ∈ cells := by
  have hnumbers : cells.all (fun cell => isMissing cell || isFloat cell ||
      (integer? cell).isSome) = true := by
    rw [List.all_eq_true]
    intro cell hcell
    have hshort := h cell hcell
    cases cell with
    | null | int => rfl
    | _ => cases hshort
  have hrange : shareRange (cells.filterMap integer?) = true := by
    refine shareRange_of_short fun n hn => ?_
    obtain ⟨cell, hcell, hinteger⟩ := List.mem_filterMap.mp hn
    have hshort := h cell hcell
    cases cell with
    | int => cases hinteger; exact hshort
    | _ => cases hinteger
  rw [asFloats, hnumbers, hrange, Bool.true_and, Bool.and_true, List.any_eq_true]
  constructor
  · rintro ⟨cell, hcell, hmissing⟩
    have hshort := h cell hcell
    cases cell with
    | null => exact hcell
    | int => cases hmissing
    | _ => cases hshort
  · exact fun hnull => ⟨.null, hnull, rfl⟩

theorem fieldText_int {n : Int} (h : n.natAbs < 10 ^ 18) :
    fieldText false (.int n) = .ok (symbols (integerText n)) := by
  have hlimit : 10 ^ 18 ≤ 10 ^ digitLimit := pow_le_pow_right₀ (by decide) (by decide)
  simp [fieldText, isMissing, Cell.plainText, Cell.itemText, writeInteger_of_lt (h.trans_le hlimit)]

theorem exists_fieldText (floats : Bool) (h : IsShortInteger cell) :
    ∃ field, fieldText floats cell = .ok (symbols field) ∧ (cell = .null → field = "") ∧
      ∀ n, cell = .int n → (Denotes field.toList n ↔ floats = false ∨ IsShortest n.natAbs) := by
  cases cell with
  | null => exact ⟨"", rfl, fun _ => rfl, nofun⟩
  | int n =>
    have hshort : n.natAbs < 10 ^ 18 := h
    cases floats with
    | false =>
      refine ⟨integerText n, fieldText_int hshort, nofun, ?_⟩
      rintro m ⟨⟩
      exact iff_of_true (denotes_integerText n) (.inl rfl)
    | true =>
      refine ⟨floatText (nearestFloat n), rfl, nofun, ?_⟩
      rintro m ⟨⟩
      rw [denotes_floatText_iff hshort]
      simp
  | _ => cases h

theorem exists_lookup {row : Row} (h : column ∈ row.columns) :
    ∃ cell, row.lookup column = some cell ∧ (column, cell) ∈ row := by
  obtain ⟨entry, hentry, rfl⟩ := List.mem_map.mp h
  have hsome : (row.lookup entry.1).isSome = true :=
    List.lookup_isSome_iff.mpr ⟨entry, hentry, beq_self_eq_true entry.1⟩
  obtain ⟨cell, hlookup⟩ := Option.isSome_iff_exists.mp hsome
  obtain ⟨before, after, hrow, -⟩ := List.lookup_eq_some_iff.mp hlookup
  exact ⟨cell, hlookup, by simp [hrow]⟩

/-- Every row has a cell in every column, an empty one or a short integer. -/
theorem IsIntegerTable.lookup (h : IsIntegerTable table) (hcolumn : column ∈ table.columns)
    {row : Row} (hrow : row ∈ table) :
    (row.lookup column).getD (.float (0 / 0)) = row.get column ∧
      IsShortInteger (row.get column) := by
  obtain ⟨cell, hlookup, hmem⟩ := exists_lookup ((h.columns row hrow).mem_iff.mpr hcolumn)
  rw [Row.get, hlookup]
  exact ⟨rfl, h.cells row hrow _ hmem⟩

theorem IsIntegerTable.asFloats_iff (h : IsIntegerTable table) (hcolumn : column ∈ table.columns) :
    asFloats (columnCells table column) = false ↔ IsFull table column := by
  have hcells : columnCells table column = table.map (fun row => row.get column) :=
    List.map_congr_left fun row hrow => (h.lookup hcolumn hrow).1
  rw [hcells, ← Bool.not_eq_true, Export.asFloats_iff, IsFull]
  · simp
  · rw [List.forall_mem_map]
    exact fun row hrow => (h.lookup hcolumn hrow).2

theorem IsIntegerTable.exists_rowFields (h : IsIntegerTable table) {row : Row}
    (hrow : row ∈ table) :
    ∃ fields : List String, rowFields (table.columns.map fun column =>
        (column, asFloats (columnCells table column))) row = .ok (fields.map symbols) ∧
      List.Forall₂ (fun column field => Tells table column (row.get column) field)
        table.columns (fields.map String.toList) := by
  simp only [rowFields, List.forall₂_map_right_iff]
  have hfield : ∀ entry ∈ table.columns.map fun column =>
        (column, asFloats (columnCells table column)),
      ∃ field : String, fieldText entry.2 ((row.lookup entry.1).getD (.float (0 / 0))) =
          .ok (symbols field) ∧
        Tells table entry.1 (row.get entry.1) field.toList := by
    rw [List.forall_mem_map]
    intro column hcolumn
    obtain ⟨hlookup, hshort⟩ := h.lookup hcolumn hrow
    obtain ⟨field, hfield, hempty, hinteger⟩ :=
      exists_fieldText (asFloats (columnCells table column)) hshort
    refine ⟨field, hlookup ▸ hfield, fun hnull => by rw [hempty hnull]; rfl, ?_⟩
    rwa [h.asFloats_iff hcolumn] at hinteger
  obtain ⟨fields, hfields, htells⟩ := Except.exists_mapM_map_forall₂ hfield
  exact ⟨fields, hfields, List.forall₂_map_left_iff.mp htells⟩

/-- The export of a table of integers and empty cells has a record for each of its rows under its
columns, and every field tells its cell. -/
theorem rows_integers (h : IsIntegerTable table) :
    ∃ text lines, rows table = .ok (symbols text) ∧
      Csv.readRecords text.toList = table.columns.map String.toList :: lines ∧
      List.Forall₂ (fun row fields => List.Forall₂
        (fun column field => Tells table column (row.get column) field) table.columns fields)
        table lines := by
  obtain ⟨records, hrecords, htells⟩ :=
    Except.exists_mapM_map_forall₂ fun row hrow => h.exists_rowFields hrow
  have hempty : table.isEmpty = false := by simpa using h.ne_nil
  refine ⟨Csv.write (table.columns :: records),
    records.map (fun fields => fields.map String.toList), ?_, ?_, ?_⟩
  · unfold rows
    rw [hempty]
    simp only [hrecords, Except.ok_bind, ← Csv.writeRecords_symbols, List.map_cons]
    rfl
  · rw [Csv.write, String.toList_ofList, Csv.readRecords_writeRecords]
    rfl
  · rwa [List.forall₂_map_right_iff]

/-- Two orders, the second one without an id. -/
def orders : Table :=
  [[("id", .int 9007199254740993), ("parts", .int 7)], [("parts", .int (-3)), ("id", .null)]]

theorem rows_integers_orders :
    IsIntegerTable orders ∧ ∃ text lines, rows orders = .ok (symbols text) ∧
    Csv.readRecords text.toList = ["id".toList, "parts".toList] :: lines ∧
    List.Forall₂ (fun row fields => List.Forall₂
      (fun column field => Tells orders column (row.get column) field) ["id", "parts"] fields)
      orders lines := by
  have h : IsIntegerTable orders := by
    refine ⟨by decide, by decide, ?_⟩
    simp only [orders, List.forall_mem_cons, IsShortInteger]
    simp
  exact ⟨h, rows_integers h⟩

/-- The id of the first order is told wrong, as the second one has none. -/
theorem rows_lose_integer : ∃ text, rows orders = .ok (symbols text) ∧
    Csv.readRecords text.toList = [["id".toList, "parts".toList],
      ["9007199254740992.0".toList, "7".toList], [[], "-3".toList]] ∧
    ¬ Denotes "9007199254740992.0".toList (9007199254740993 : ℤ) := by
  have htext : floatText (nearestFloat 9007199254740993) = "9007199254740992.0" := by
    rw [nearestFloat, nearestRatio, floatText, ofFloat_floatOfBits_eq]
    decide +kernel
  have hcolumns : (orders.columns.map fun column =>
      (column, asFloats (columnCells orders column))) = [("id", true), ("parts", false)] := by
    decide +kernel
  have hrecords : orders.mapM (rowFields [("id", true), ("parts", false)]) =
      .ok ([["9007199254740992.0", "7"], ["", "-3"]].map fun fields => fields.map symbols) := by
    have hfirst : fieldText true (.int 9007199254740993) = .ok (symbols "9007199254740992.0") :=
      congrArg (fun text => Except.ok (symbols text)) htext
    have hparts : fieldText false (.int 7) = .ok (symbols "7") := fieldText_int (by decide)
    have hothers : fieldText false (.int (-3)) = .ok (symbols "-3") := fieldText_int (by decide)
    have hempty : fieldText true .null = .ok (symbols "") := rfl
    simp [orders, rowFields, List.lookup_cons, hfirst, hparts, hothers, hempty]
  refine ⟨Csv.write [["id", "parts"], ["9007199254740992.0", "7"], ["", "-3"]], ?_, ?_, ?_⟩
  · have hempty : orders.isEmpty = false := rfl
    unfold rows
    rw [hempty, hcolumns]
    simp only [hrecords, Except.ok_bind, ← Csv.writeRecords_symbols, List.map_cons]
    rfl
  · decide +kernel
  · obtain ⟨decimal, -, hdecimal, hvalue⟩ := exists_positional
      (isDigit_of_mem_toDigits 9007199254740992) Nat.toDigits_ne_nil (le_refl _)
    have hfield : "9007199254740992.0".toList = decimal.text := by
      rw [hdecimal]
      decide +kernel
    rw [hfield, Decimal.denotes_text_iff, hvalue, digitsValue_toDigits]
    norm_num

end TableTalk.Export
