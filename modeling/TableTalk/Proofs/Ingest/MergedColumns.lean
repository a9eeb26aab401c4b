import TableTalk.Proofs.Csv.Header
import TableTalk.Proofs.Export
import TableTalk.Proofs.Ingest.Records
import TableTalk.Proofs.Json.Names
import TableTalk.Proofs.Json.RoundTrip
import TableTalk.Proofs.Text.Utf8

/-! Columns that become one. Distinct names may have the same clean form, as "Price ($)" and
"Price (%)" do. A row has all cells of its record exactly if they have not; otherwise it has fewer
columns, and of the cells that were to go under one name it has the last. -/
namespace TableTalk
open TableTalk.Text

namespace Ingest

def cleanNames (cells : List (String × Cell)) : List String :=
  cells.map fun entry => ColumnName.normalize entry.1

/-- A row with a column for every cell of a record, and that cell in it. -/
structure KeepsAll (cells : List (String × Cell)) (row : Row) : Prop where
  length : row.length = cells.length
  cells : ∀ entry ∈ cells, row.get (ColumnName.normalize entry.1) = entry.2

/-- A row that keeps all of a record exactly if its clean names are distinct, has less columns
otherwise, and gives the last cell that goes under a name. -/
structure IsCleaned (cells : List (String × Cell)) (row : Row) : Prop where
  keepsAll_iff : KeepsAll cells row ↔ (cleanNames cells).Nodup
  merged : ¬ (cleanNames cells).Nodup → row.length < cells.length
  last : ∀ column, row.get column =
    ((cells.reverse.find? fun entry => ColumnName.normalize entry.1 == column).map Prod.snd).getD
      .null

/-- The objects of a value: those of an array, or the only one. -/
inductive HoldsObjects : Json.Value → List (List (Symbols × Json.Value)) → Prop where
  | one (members : List (Symbols × Json.Value)) : HoldsObjects (.object members) [members]
  | many (objects : List (List (Symbols × Json.Value))) :
      HoldsObjects (.array (objects.map Json.Value.object)) objects

variable {settings : Settings} {bytes : List UInt8} {filename : String} {dataset : Dataset}
  {cells : List (String × Cell)} {records : List (List (String × Cell))} {value : Json.Value}
  {objects : List (List (Symbols × Json.Value))}

theorem map_fst_cleaned (cells : List (String × Cell)) :
    (cells.map fun entry => (ColumnName.normalize entry.1, entry.2)).map Prod.fst =
      cleanNames cells := by
  rw [List.map_map]
  rfl

/-- Under distinct clean names a record is its own row. -/
theorem cleanRow_eq_map (h : (cleanNames cells).Nodup) :
    cleanRow cells = cells.map fun entry => (ColumnName.normalize entry.1, entry.2) := by
  rw [cleanRow, Row.ofCells_eq_self]
  rwa [map_fst_cleaned]

theorem keepsAll_cleanRow (h : (cleanNames cells).Nodup) : KeepsAll cells (cleanRow cells) := by
  have hnodup : (Row.columns (cells.map fun entry =>
      (ColumnName.normalize entry.1, entry.2))).Nodup := by
    rwa [Row.columns, map_fst_cleaned]
  rw [cleanRow_eq_map h]
  refine ⟨List.length_map _, fun entry hentry => ?_⟩
  have hget := Row.get_of_mem hnodup (List.mem_map_of_mem hentry)
  exact hget

theorem isCleaned_cleanRow (cells : List (String × Cell)) : IsCleaned cells (cleanRow cells) := by
  obtain ⟨hle, hlength⟩ :=
    Row.length_ofCells (cells.map fun entry => (ColumnName.normalize entry.1, entry.2))
  rw [List.length_map, ← cleanRow] at hle hlength
  rw [map_fst_cleaned] at hlength
  refine ⟨⟨fun h => hlength.mp h.length, keepsAll_cleanRow⟩, ?_, ?_⟩
  · exact fun h => Nat.lt_of_le_of_ne hle fun heq => h (hlength.mp heq)
  · intro column
    rw [cleanRow, Row.get_ofCells, ← List.map_reverse, List.find?_map, Option.map_map]
    rfl

theorem recordsOfValue_eq_ok (h : recordsOfValue value = .ok records) :
    ∃ objects, HoldsObjects value objects ∧ records = objects.map cellsOfMembers := by
  unfold recordsOfValue at h
  split at h
  next members =>
    obtain rfl := Except.ok.inj h
    exact ⟨[members], .one members, rfl⟩
  next items =>
    have hitems := Except.mapM_eq_ok_iff.mp h
    have hobjects : ∃ objects : List (List (Symbols × Json.Value)),
        items = objects.map Json.Value.object ∧ records = objects.map cellsOfMembers := by
      clear h
      induction hitems with
      | nil => exact ⟨[], rfl, rfl⟩
      | @cons item cells items records hitem _ ih =>
        obtain ⟨objects, rfl, rfl⟩ := ih
        unfold recordOfValue at hitem
        split at hitem
        · obtain rfl := Except.ok.inj hitem
          exact ⟨_ :: objects, rfl, rfl⟩
        · cases hitem
    obtain ⟨objects, rfl, hrecords⟩ := hobjects
    exact ⟨objects, .many objects, hrecords⟩
  next => cases h

theorem HoldsObjects.nodup (h : HoldsObjects value objects) (hvalue : Json.IsNamed value) :
    ∀ members ∈ objects, (members.map Prod.fst).Nodup := by
  have hobject {members : List (Symbols × Json.Value)}
      (h : Json.IsNamed (.object members)) : (members.map Prod.fst).Nodup := by
    cases h
    assumption
  cases h with
  | one members => exact List.forall_mem_singleton.mpr (hobject hvalue)
  | many objects =>
    cases hvalue with
    | array hitems =>
      exact fun members hmembers => hobject (hitems _ (List.mem_map_of_mem hmembers))

theorem jsonRecords_eq_ok (h : jsonRecords filename bytes = .ok records) :
    ∃ text value objects, Utf8.decode bytes = .ok text ∧ Json.read text = .ok value ∧
      HoldsObjects value objects ∧ records = objects.map cellsOfMembers := by
  simp only [jsonRecords, Except.bind_eq_ok_iff, Except.mapError_eq_ok_iff] at h
  obtain ⟨text, htext, value, hvalue, hrecords⟩ := h
  obtain ⟨objects, hobjects, rfl⟩ := recordsOfValue_eq_ok hrecords
  exact ⟨text, value, objects, htext, hvalue, hobjects, rfl⟩

theorem csvRecords_eq_ok (h : csvRecords filename bytes = .ok records) :
    ∃ sheet, Csv.read bytes = .ok sheet ∧ records =
      sheet.records.map fun cells => cells.map fun entry => (entry.1, Cell.text entry.2) := by
  simp only [csvRecords, Except.bind_eq_ok_iff, Except.mapError_eq_ok_iff,
    Except.pure_eq_ok_iff] at h
  obtain ⟨sheet, hsheet, rfl⟩ := h
  exact ⟨sheet, hsheet, rfl⟩

/-- The rows of a file keep all that it holds, object by object and line by line, except for the
columns whose names have the same clean form. The names in one object are distinct, and so are those
of the columns of a sheet. -/
theorem ofFile_isCleaned (h : ofFile settings bytes filename = .ok dataset) :
    (isJsonName filename = true →
      ∃ text value objects, Utf8.decode bytes = .ok text ∧ Json.read text = .ok value ∧
        HoldsObjects value objects ∧ (∀ members ∈ objects, (members.map Prod.fst).Nodup) ∧
        List.Forall₂ (fun members row => IsCleaned (cellsOfMembers members) row) objects
          dataset.rows) ∧
    (isJsonName filename = false →
      ∃ sheet, Csv.read bytes = .ok sheet ∧
        (Csv.Header.names sheet.header).length = sheet.header.length ∧
        (sheet.header.Nodup → (∀ text ∈ sheet.header, text ≠ "") →
          Csv.Header.names sheet.header = sheet.header) ∧
        List.Forall₂ (fun fields row => fields.length = sheet.header.length →
          IsCleaned (Row.ofTexts (Csv.Header.names sheet.header) fields) row) sheet.lines
            dataset.rows) := by
  obtain ⟨records, hrecords, hbuild⟩ := ofFile_eq_ok h
  rw [Dataset.rows_of_build hbuild]
  unfold Ingest.records at hrecords
  constructor
  · intro hname
    rw [if_pos hname] at hrecords
    obtain ⟨text, value, objects, htext, hvalue, hobjects, rfl⟩ := jsonRecords_eq_ok hrecords
    refine ⟨text, value, objects, htext, hvalue, hobjects,
      hobjects.nodup (Json.isNamed_of_read hvalue), ?_⟩
    rw [List.map_map, List.forall₂_map_right_iff, List.forall₂_same]
    exact fun members _ => isCleaned_cleanRow (cellsOfMembers members)
  · intro hname
    rw [if_neg (by simp [hname])] at hrecords
    obtain ⟨sheet, hsheet, rfl⟩ := csvRecords_eq_ok hrecords
    refine ⟨sheet, hsheet, Csv.Header.length_names sheet.header, Csv.Header.names_eq_self, ?_⟩
    rw [Csv.Sheet.records_eq_map, List.map_map, List.map_map, List.forall₂_map_right_iff,
      List.forall₂_same]
    intro fields _ hlength
    have hcells : (((Csv.Header.names sheet.header).zip (fields.drop (fields.length -
        (Csv.Header.names sheet.header).length))).map fun entry => (entry.1, Cell.text entry.2)) =
          Row.ofTexts (Csv.Header.names sheet.header) fields := by
      rw [Csv.Header.length_names, hlength, Nat.sub_self, List.drop_zero, Row.ofTexts,
        List.zip_map_right]
      rfl
    rw [Function.comp_apply, Function.comp_apply, hcells]
    exact isCleaned_cleanRow _

/-- An object with two prices under different names. -/
def twoPrices (first second : String) : List (Symbols × Json.Value) :=
  [(symbols first, .int 10), (symbols second, .int 5)]

def twoPricesText (first second : String) : List Char :=
  Json.write (.array [.object (twoPrices first second)])

theorem fits_twoPrices {first second : String} (h : first ≠ second) :
    Json.Fits Json.depthLimit (.array [.object (twoPrices first second)]) := by
  have hsymbols : symbols first ≠ symbols second :=
    symbols_injective.ne h
  have hobject : Json.Fits 1 (.object (twoPrices first second)) := by
    apply Json.Fits.object
    · simpa [twoPrices] using hsymbols
    · simp only [twoPrices, List.forall_mem_cons, List.not_mem_nil, false_implies, implies_true,
        and_true]
      exact ⟨Json.isJoined_of_isWhole (isWhole_symbols first),
        Json.isJoined_of_isWhole (isWhole_symbols second)⟩
    · simp only [twoPrices, List.forall_mem_cons, List.not_mem_nil, false_implies, implies_true,
        and_true]
      exact ⟨.int (by decide), .int (by decide)⟩
  have harray : Json.Fits 2 (.array [.object (twoPrices first second)]) :=
    .array (List.forall_mem_singleton.mpr hobject)
  exact harray.mono (by decide)

theorem eq_of_holdsObjects_array {others : List (List (Symbols × Json.Value))}
    (h : HoldsObjects (.array (objects.map Json.Value.object)) others) : others = objects := by
  generalize hvalue : Json.Value.array (objects.map Json.Value.object) = value at h
  cases h with
  | one members => cases hvalue
  | many others =>
    have hinjective : Function.Injective Json.Value.object := fun _ _ h => Json.Value.object.inj h
    exact (List.map_injective_iff.mpr hinjective (Json.Value.array.inj hvalue)).symm

/-- Names that stay distinct, also after equal ones of a sheet were told apart by a number. -/
theorem ofFile_isCleaned_apart :
    (∃ dataset,
      ofFile {} (Utf8.encode (twoPricesText "Price" "Discount")) "prices.json" = .ok dataset ∧
      List.Forall₂ KeepsAll [cellsOfMembers (twoPrices "Price" "Discount")] dataset.rows) ∧
    ∃ dataset, ofFile {} (Utf8.encode "a,a\n1,2\n".toList) "twice.csv" = .ok dataset ∧
      List.Forall₂ KeepsAll [[("a", .text "1"), ("a.1", .text "2")]] dataset.rows := by
  constructor
  · have hcolumns : (ofFile {} (Utf8.encode (twoPricesText "Price" "Discount")) "prices.json").map
        (fun dataset => dataset.rows.map Row.columns) = .ok [["price", "discount"]] := by
      decide +kernel
    obtain ⟨dataset, hfile, -⟩ := Except.map_eq_ok_iff.mp hcolumns
    refine ⟨dataset, hfile, ?_⟩
    have hfits : Json.Fits Json.depthLimit (.array [.object (twoPrices "Price" "Discount")]) :=
      fits_twoPrices (by decide)
    obtain ⟨text, value, objects, htext, hvalue, hobjects, -, hrows⟩ :=
      (ofFile_isCleaned hfile).1 (by decide +kernel)
    rw [twoPricesText, Utf8.decode_encode] at htext
    obtain rfl := Except.ok.inj htext
    obtain rfl := Except.ok.inj ((Json.read_write hfits).symm.trans hvalue)
    obtain rfl : objects = [twoPrices "Price" "Discount"] := eq_of_holdsObjects_array hobjects
    obtain ⟨row, rows, hrow, hrest, hdataset⟩ := List.forall₂_cons_left_iff.mp hrows
    rw [List.forall₂_nil_left_iff.mp hrest] at hdataset
    rw [hdataset]
    exact .cons (hrow.keepsAll_iff.mpr (by decide +kernel)) .nil
  · have hcolumns : (ofFile {} (Utf8.encode "a,a\n1,2\n".toList) "twice.csv").map
        (fun dataset => dataset.rows.map Row.columns) = .ok [["a", "a1"]] := by decide +kernel
    obtain ⟨dataset, hfile, -⟩ := Except.map_eq_ok_iff.mp hcolumns
    refine ⟨dataset, hfile, ?_⟩
    obtain ⟨sheet, hsheet, -, -, hrows⟩ := (ofFile_isCleaned hfile).2 (by decide +kernel)
    have hknown : Csv.read (Utf8.encode "a,a\n1,2\n".toList) = .ok ⟨["a", "a"], [["1", "2"]]⟩ := by
      decide +kernel
    obtain rfl := Except.ok.inj (hknown.symm.trans hsheet)
    obtain ⟨row, rows, hrow, hrest, hdataset⟩ := List.forall₂_cons_left_iff.mp hrows
    rw [List.forall₂_nil_left_iff.mp hrest] at hdataset
    rw [hdataset]
    have hnames : Csv.Header.names ["a", "a"] = ["a", "a.1"] := by decide +kernel
    have hrow := hrow rfl
    simp only [hnames] at hrow
    exact .cons (hrow.keepsAll_iff.mpr (by decide +kernel)) .nil

/-- Of two prices under names that differ in punctuation only the second is left. -/
theorem ofFile_merged_prices :
    twoPricesText "Price ($)" "Price (%)" = "[\x7b\"Price ($)\": 10, \"Price (%)\": 5\x7d]".toList ∧
    ∃ dataset, ofFile {} (Utf8.encode (twoPricesText "Price ($)" "Price (%)")) "prices.json" =
        .ok dataset ∧
      Json.read (twoPricesText "Price ($)" "Price (%)") =
        .ok (.array [.object (twoPrices "Price ($)" "Price (%)")]) ∧
      ((twoPrices "Price ($)" "Price (%)").map Prod.fst).Nodup ∧
      dataset.rows.map (fun row => row.map fun entry => (entry.1, entry.2.renderText)) =
        [[("price_", .ok (symbols "5"))]] := by
  refine ⟨by decide +kernel, ?_⟩
  have hshown : (ofFile {} (Utf8.encode (twoPricesText "Price ($)" "Price (%)")) "prices.json").map
      (fun dataset => dataset.rows.map fun row => row.map fun entry =>
        (entry.1, entry.2.renderText)) = .ok [[("price_", .ok (symbols "5"))]] := by decide +kernel
  obtain ⟨dataset, hfile, hrows⟩ := Except.map_eq_ok_iff.mp hshown
  exact ⟨dataset, hfile, Json.read_write (fits_twoPrices (by decide)), by decide, hrows⟩

end Ingest
end TableTalk
