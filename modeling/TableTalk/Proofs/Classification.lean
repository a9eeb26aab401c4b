import Mathlib.Data.List.Nodup
import Mathlib.Data.List.Perm.Basic
import TableTalk.Classification
import TableTalk.Proofs.Except

/-! The lists of a classification. Each column of the schema is in the list of its type and in no
other one, and each list has its columns in schema order, so that the type of a column can be
looked up in the lists. -/
namespace TableTalk.Classification

/-- The columns that are listed under a type. -/
def listed (classification : Classification) : ColumnType → List String
  | .numeric => classification.numeric
  | .text => classification.text
  | .date => classification.date

variable {sampling : Sampling} {table : Table} {classification : Classification}
  {types : List (String × ColumnType)} {name : String} {type : ColumnType}

theorem map_fst_columnTypes (h : columnTypes sampling table = .ok types) :
    types.map Prod.fst = table.columns := by
  simp only [columnTypes, Except.mapM_eq_ok_iff, Except.bind_eq_ok_iff,
    Except.pure_eq_ok_iff] at h
  generalize table.columns = columns at h
  induction h with
  | nil => rfl
  | cons hentry _ ih =>
    obtain ⟨type, -, rfl⟩ := hentry
    rw [List.map_cons, ih]

theorem classify_eq_ok_iff :
    classify sampling table = .ok classification ↔
      ∃ types, columnTypes sampling table = .ok types ∧
        (∀ type, classification.listed type = namesOfType types type) ∧
        classification.totalRows = table.length ∧
        classification.totalColumns = table.columns.length := by
  simp only [classify, Except.bind_eq_ok_iff, Except.pure_eq_ok_iff]
  constructor
  · rintro ⟨types, htypes, rfl⟩
    exact ⟨types, htypes, fun type => by cases type <;> rfl, rfl, rfl⟩
  · rintro ⟨types, htypes, hlisted, hrows, hcolumns⟩
    refine ⟨types, htypes, ?_⟩
    rw [← hlisted .numeric, ← hlisted .text, ← hlisted .date, ← hrows, ← hcolumns]
    rfl

theorem mem_namesOfType : name ∈ namesOfType types type ↔ (name, type) ∈ types := by
  simp [namesOfType]

theorem namesOfType_sublist (types : List (String × ColumnType)) (type : ColumnType) :
    (namesOfType types type).Sublist (types.map Prod.fst) :=
  List.filter_sublist.map Prod.fst

/-- The three lists hold every column once. -/
theorem namesOfType_perm (types : List (String × ColumnType)) :
    (namesOfType types .numeric ++ namesOfType types .text ++ namesOfType types .date).Perm
      (types.map Prod.fst) := by
  induction types with
  | nil => exact .nil
  | cons entry rest ih =>
    obtain ⟨name, type⟩ := entry
    have hcons (other : ColumnType) : namesOfType ((name, type) :: rest) other =
        if type = other then name :: namesOfType rest other else namesOfType rest other := by
      by_cases h : type = other <;> simp [namesOfType, h]
    rw [hcons, hcons, hcons, List.map_cons]
    cases type with
    | numeric => exact ih.cons name
    | text =>
      rw [List.append_assoc] at ih ⊢
      exact List.perm_middle.trans (ih.cons name)
    | date => exact List.perm_middle.trans (ih.cons name)

/-- A column has one type, however often its name is in the schema. -/
theorem eq_of_mem_columnTypes {other : ColumnType} (h : columnTypes sampling table = .ok types)
    (htype : (name, type) ∈ types) (hother : (name, other) ∈ types) : type = other := by
  have hcells (kind : ColumnType) (hkind : (name, kind) ∈ types) :
      typeOfCells sampling.threshold
        (filledCells (Table.takeFirst table sampling.size) name) = .ok kind := by
    obtain ⟨column, -, hcolumn⟩ := Except.exists_mem_of_mapM h hkind
    simp only [Except.bind_eq_ok_iff, Except.pure_eq_ok_iff, Prod.mk.injEq] at hcolumn
    obtain ⟨_, hcolumn, rfl, rfl⟩ := hcolumn
    exact hcolumn
  exact Except.ok.inj ((hcells type htype).symm.trans (hcells other hother))

/-- A column that is listed under a type is found to be of this type. -/
theorem typeOf_of_mem (hlisted : ∀ type, classification.listed type = namesOfType types type)
    (hunique : ∀ other, (name, other) ∈ types → other = type) (h : (name, type) ∈ types) :
    classification.typeOf name = type := by
  have hlist (other : ColumnType) (hother : name ∈ classification.listed other) :
      other = type := by
    rw [hlisted, mem_namesOfType] at hother
    exact hunique other hother
  have hmem : name ∈ classification.listed type := by rwa [hlisted, mem_namesOfType]
  unfold typeOf
  split_ifs with hnumeric hdate
  · exact hlist .numeric (List.contains_iff_mem.mp hnumeric)
  · exact hlist .date (List.contains_iff_mem.mp hdate)
  · cases type with
    | numeric => exact absurd (List.contains_iff_mem.mpr hmem) hnumeric
    | text => rfl
    | date => exact absurd (List.contains_iff_mem.mpr hmem) hdate

/-- The schema of a table under its own classification is what the classification was made of. -/
theorem schema_eq (hlisted : ∀ type, classification.listed type = namesOfType types type)
    (hcolumns : types.map Prod.fst = table.columns) (hnodup : table.columns.Nodup) :
    table.schema classification = types := by
  rw [← hcolumns] at hnodup
  rw [Table.schema, ← hcolumns, List.map_map]
  conv_rhs => rw [← List.map_id types]
  apply List.map_congr_left
  rintro ⟨name, type⟩ hentry
  have hunique : ∀ other, (name, other) ∈ types → other = type := fun other hother =>
    congrArg Prod.snd (List.inj_on_of_nodup_map hnodup hother hentry rfl)
  exact congrArg (Prod.mk name) (typeOf_of_mem hlisted hunique hentry)

/-- The columns that are listed under a type are those of the schema that have it. -/
theorem listed_eq_filter (h : classify sampling table = .ok classification) (type : ColumnType) :
    classification.listed type =
      table.columns.filter (fun column => classification.typeOf column = type) := by
  obtain ⟨types, htypes, hlisted, -⟩ := classify_eq_ok_iff.mp h
  rw [hlisted, namesOfType, ← map_fst_columnTypes htypes, List.filter_map]
  congr 1
  apply List.filter_congr
  rintro ⟨name, other⟩ hentry
  have hunique : ∀ kind, (name, kind) ∈ types → kind = other := fun kind hkind =>
    eq_of_mem_columnTypes htypes hkind hentry
  rw [Function.comp_apply, typeOf_of_mem hlisted hunique hentry]

/-- The first numeric column is the first one of the schema that has this type. -/
theorem firstNumeric_eq_find? (h : classify sampling table = .ok classification) :
    classification.firstNumeric =
      table.columns.find? (fun column => classification.typeOf column = .numeric) := by
  have hnumeric : classification.numeric = classification.listed .numeric := rfl
  rw [firstNumeric, hnumeric, listed_eq_filter h, List.head?_filter]

/-- Only a table with columns, and so with a row, has a numeric column. -/
theorem ne_nil_of_firstNumeric {column : String}
    (h : classify sampling table = .ok classification)
    (hfirst : classification.firstNumeric = some column) : table ≠ [] := by
  rw [firstNumeric_eq_find? h] at hfirst
  rintro rfl
  cases hfirst

end TableTalk.Classification
