import Mathlib.Data.List.Count
import Mathlib.Data.List.Perm.Basic
import TableTalk.Proofs.Cell
import TableTalk.Proofs.Classification

/-! The law of column types under the default settings. The share of numbers or dates is compared
as a product of floats; for samples of up to a hundred rows the comparison is exact, so that a type
needs more than four fifths of the cells that say something. -/
namespace TableTalk

namespace Classification

variable {cells : List Cell} {table : Table} {classification : Classification} {column : String}
  {type : ColumnType} {count total : Nat}

def defaultSampling : Sampling := .ofSettings {} none none

/-- The cells of the leading rows that say something. -/
def sampledCells (table : Table) (column : String) : List Cell :=
  filledCells (table.take 100) column

theorem length_filledCells_le (table : Table) (column : String) :
    (filledCells table column).length ≤ table.length := by
  have h := List.length_filter_le (fun cell : Cell => !cell.isEmpty)
    (table.map fun row => row.get column)
  rwa [List.length_map] at h

theorem length_sampledCells_le (table : Table) (column : String) :
    (sampledCells table column).length ≤ 100 :=
  Nat.le_trans (length_filledCells_le _ column) (List.length_take_le 100 table)

theorem isNumeric_eq_ok {cell : Cell} {flag : Bool} (h : isNumeric cell = .ok flag) :
    cell.denotesNumber = flag := by
  simp only [isNumeric, Except.bind_eq_ok_iff, Except.pure_eq_ok_iff] at h
  obtain ⟨number, hnumber, rfl⟩ := h
  rw [Cell.denotesNumber, hnumber]
  cases number <;> rfl

theorem countNumeric_eq_ok (h : countNumeric cells = .ok count) :
    cells.countP Cell.denotesNumber = count := by
  simp only [countNumeric, Except.bind_eq_ok_iff, Except.pure_eq_ok_iff,
    Except.mapM_eq_ok_iff] at h
  obtain ⟨flags, hflags, rfl⟩ := h
  rw [← List.countP_eq_length_filter]
  induction hflags with
  | nil => rfl
  | cons hflag _ ih => rw [List.countP_cons, List.countP_cons, ih, isNumeric_eq_ok hflag, id]

/-- No sample is so large that rounding the product of its size and the share would matter. -/
theorem passes_eq_decide : ∀ total < 101, ∀ count < total + 1,
    passes count total defaultSampling.threshold = decide (4 * total < 5 * count) := by
  decide +kernel

theorem passes_iff (htotal : total ≤ 100) (hcount : count ≤ total) :
    passes count total defaultSampling.threshold = true ↔ 4 * total < 5 * count := by
  rw [passes_eq_decide total (by omega) count (by omega), decide_eq_true_iff]

/-- The type by more than four fifths of the cells, numbers before dates. -/
def majorityType (total numbers dates : Nat) : ColumnType :=
  if 4 * total < 5 * numbers then .numeric
  else if 4 * total < 5 * dates then .date
  else .text

theorem typeOfCells_eq_majorityType (hsize : cells.length ≤ 100)
    (h : typeOfCells defaultSampling.threshold cells = .ok type) :
    majorityType cells.length (cells.countP Cell.denotesNumber) (cells.countP Cell.isDate) =
      type := by
  have hpasses (p : Cell → Bool) :
      passes (cells.countP p) cells.length defaultSampling.threshold = true ↔
        4 * cells.length < 5 * cells.countP p :=
    passes_iff hsize List.countP_le_length
  by_cases hempty : cells = []
  · rw [hempty] at h ⊢
    exact Except.ok.inj h
  · rw [typeOfCells, if_neg (by simpa using hempty), Except.bind_eq_ok_iff] at h
    obtain ⟨count, hcount, h⟩ := h
    rw [← countNumeric_eq_ok hcount, ← List.countP_eq_length_filter] at h
    simp only [hpasses] at h
    unfold majorityType
    split_ifs at h ⊢ <;> exact Except.ok.inj h

theorem takeFirst_defaultSampling (table : Table) :
    Table.takeFirst table defaultSampling.size = table.take 100 := rfl

theorem mem_listed_iff (h : classify defaultSampling table = .ok classification)
    (hcolumn : column ∈ table.columns) :
    column ∈ classification.listed type ↔
      majorityType (sampledCells table column).length
        ((sampledCells table column).countP Cell.denotesNumber)
        ((sampledCells table column).countP Cell.isDate) = type := by
  obtain ⟨types, htypes, hlisted, -⟩ := classify_eq_ok_iff.mp h
  have hmajority : ∀ other, (column, other) ∈ types →
      majorityType (sampledCells table column).length
        ((sampledCells table column).countP Cell.denotesNumber)
        ((sampledCells table column).countP Cell.isDate) = other := by
    intro other hother
    obtain ⟨name, -, hname⟩ := Except.exists_mem_of_mapM htypes hother
    simp only [takeFirst_defaultSampling, Except.bind_eq_ok_iff, Except.pure_eq_ok_iff] at hname
    obtain ⟨_, htype, heq⟩ := hname
    cases heq
    exact typeOfCells_eq_majorityType (length_sampledCells_le table column) htype
  rw [hlisted, mem_namesOfType]
  constructor
  · exact hmajority type
  · rintro rfl
    rw [← map_fst_columnTypes htypes, List.mem_map] at hcolumn
    obtain ⟨⟨_, other⟩, hentry, rfl⟩ := hcolumn
    rwa [hmajority other hentry]

/-- A column is listed by what more than four fifths of some cells are. -/
structure DecidedBy (cells : List Cell) (classification : Classification) (column : String) :
    Prop where
  numeric : column ∈ classification.numeric ↔
    4 * cells.length < 5 * cells.countP Cell.denotesNumber
  date : column ∈ classification.date ↔
    5 * cells.countP Cell.denotesNumber ≤ 4 * cells.length ∧
      4 * cells.length < 5 * cells.countP Cell.isDate
  text : column ∈ classification.text ↔
    5 * cells.countP Cell.denotesNumber ≤ 4 * cells.length ∧
      5 * cells.countP Cell.isDate ≤ 4 * cells.length

/-- A column is listed under the same type in two classifications. -/
def ListedAlike (classification other : Classification) (column : String) : Prop :=
  ∀ type, column ∈ other.listed type ↔ column ∈ classification.listed type

theorem decidedBy_sampledCells (h : classify defaultSampling table = .ok classification)
    (hcolumn : column ∈ table.columns) :
    DecidedBy (sampledCells table column) classification column := by
  have hlisted (type : ColumnType) : column ∈ classification.listed type ↔ _ :=
    mem_listed_iff h hcolumn
  refine ⟨(hlisted .numeric).trans ?_, (hlisted .date).trans ?_, (hlisted .text).trans ?_⟩ <;>
    · unfold majorityType
      split_ifs <;> simp <;> omega

theorem listedAlike_of_perm {other : Table} {relisted : Classification}
    (h : classify defaultSampling table = .ok classification) (hcolumn : column ∈ table.columns)
    (hother : classify defaultSampling other = .ok relisted) (hkept : column ∈ other.columns)
    (hperm : (sampledCells other column).Perm (sampledCells table column)) :
    ListedAlike classification relisted column := by
  intro type
  rw [mem_listed_iff h hcolumn, mem_listed_iff hother hkept, hperm.length_eq, hperm.countP_eq,
    hperm.countP_eq]

theorem columns_take (table : Table) : Table.columns (table.take 100) = table.columns := by
  cases table <;> rfl

/-- The rows behind the sample are counted, and that is all. -/
theorem classify_of_take_eq {other : Table}
    (h : classify defaultSampling table = .ok classification)
    (htake : other.take 100 = table.take 100) :
    classify defaultSampling other = .ok { classification with totalRows := other.length } := by
  obtain ⟨types, htypes, hlisted, -, hcolumns⟩ := classify_eq_ok_iff.mp h
  have hkept : other.columns = table.columns := by
    rw [← columns_take other, htake, columns_take]
  refine classify_eq_ok_iff.mpr ⟨types, ?_, ?_, rfl, ?_⟩
  · simpa only [columnTypes, takeFirst_defaultSampling, htake, hkept] using htypes
  · intro type
    rw [← hlisted type]
    cases type <;> rfl
  · rw [hkept]
    exact hcolumns

/-- The rows that say something in a column. -/
def filledRows (table : Table) (column : String) : Table :=
  table.filter fun row => !(row.get column).isEmpty

theorem filledCells_eq_map (table : Table) (column : String) :
    filledCells table column = (filledRows table column).map fun row => row.get column := by
  rw [filledCells, filledRows, List.filter_map]
  rfl

/-- Under the default settings a column of the schema is numeric, a date or text by exactly how
many of its sampled cells are numbers or dates. Neither their order matters, nor the rows behind the
sample, nor rows of it that are empty in the column. -/
theorem classify_majority (h : classify defaultSampling table = .ok classification)
    (hcolumn : column ∈ table.columns) :
    DecidedBy (sampledCells table column) classification column ∧
    (∀ other relisted, classify defaultSampling other = .ok relisted → column ∈ other.columns →
      (sampledCells other column).Perm (sampledCells table column) →
      ListedAlike classification relisted column) ∧
    (∀ other : Table, other.take 100 = table.take 100 →
      classify defaultSampling other =
        .ok { classification with totalRows := other.length }) ∧
    ∀ other relisted, classify defaultSampling other = .ok relisted → column ∈ other.columns →
      filledRows (other.take 100) column = filledRows (table.take 100) column →
      ListedAlike classification relisted column := by
  refine ⟨decidedBy_sampledCells h hcolumn, ?_, ?_, ?_⟩
  · intro other relisted hother hkept hperm
    exact listedAlike_of_perm h hcolumn hother hkept hperm
  · intro other htake
    exact classify_of_take_eq h htake
  · intro other relisted hother hkept hfilled
    refine listedAlike_of_perm h hcolumn hother hkept (List.Perm.of_eq ?_)
    rw [sampledCells, filledCells_eq_map, hfilled, ← filledCells_eq_map, sampledCells]

/-- Parcels with their weights. All but one have been sent, and nothing is remarked. -/
def parcels : Table :=
  [[("weight", .text "2.5"), ("sent", .text "2024-05-01"), ("remark", .text "")],
   [("weight", .int 3), ("sent", .text "2024-05-01"), ("remark", .null)],
   [("weight", .text ""), ("sent", .text "not yet"), ("remark", .null)],
   [("weight", .text "4"), ("sent", .text "2024-05-02"), ("remark", .null)],
   [("weight", .text " 7 "), ("sent", .text "2024-05-03"), ("remark", .null)]]

def parcelTypes : Classification :=
  { numeric := ["weight"], text := ["sent", "remark"], date := [], totalRows := 5
    totalColumns := 3 }

theorem classify_parcels : classify defaultSampling parcels = .ok parcelTypes := by
  decide +kernel

/-- Exactly four fifths are dates, which is not enough. The weights are numbers with and without the
parcel that has none. -/
theorem classify_majority_parcels :
    "sent" ∈ parcelTypes.text ∧ (sampledCells parcels "sent").length = 5 ∧
      (sampledCells parcels "sent").countP Cell.isDate = 4 ∧
      ∃ relisted, classify defaultSampling (parcels.eraseIdx 2) = .ok relisted ∧
        ListedAlike parcelTypes relisted "weight" := by
  have hlength : (sampledCells parcels "sent").length = 5 := by decide +kernel
  have hdates : (sampledCells parcels "sent").countP Cell.isDate = 4 := by decide +kernel
  have hnumbers : (sampledCells parcels "sent").countP Cell.denotesNumber = 0 := by
    decide +kernel
  have hsent : "sent" ∈ Table.columns parcels := by decide
  obtain ⟨hdecided, -⟩ := classify_majority classify_parcels hsent
  have htext : "sent" ∈ parcelTypes.text := by
    rw [hdecided.text, hlength, hdates, hnumbers]
    decide
  have hweight : "weight" ∈ Table.columns parcels := by decide
  obtain ⟨-, -, -, hempty⟩ := classify_majority classify_parcels hweight
  have herased : classify defaultSampling (parcels.eraseIdx 2) =
      .ok { parcelTypes with totalRows := 4, text := ["remark"], date := ["sent"] } := by
    decide +kernel
  exact ⟨htext, hlength, hdates, _, herased, hempty _ _ herased (by decide) (by rfl)⟩

end Classification

end TableTalk
