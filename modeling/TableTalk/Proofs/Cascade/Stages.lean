import TableTalk.Cascade
import TableTalk.Proofs.Cell
import TableTalk.Proofs.Except

/-! What each step of a cascade makes of the rows it is given, and a run of all steps as four
stages: the rows within the limits, the filter, the groups, the aggregates. -/
namespace TableTalk.Cascade
open TableTalk.Text

variable {table rows : Table} {signals : Signals} {column : String}

/-- Whether a cell has a text; integers beyond the digit limit have none. -/
def Shows (cell : Cell) : Prop := ∃ text, cell.renderText = .ok text

/-- Whether the text of a row's cell has the name of the column in it. -/
def showsName (column : String) (row : Row) : Bool :=
  match (row.get column).renderText with
  | .ok text => occursIn (symbols column) (mapParts lower text)
  | .error _ => false

theorem mentionsColumn_eq_ok_iff {row : Row} {shown : Bool} :
    mentionsColumn column row = .ok shown ↔
      Shows (row.get column) ∧ showsName column row = shown := by
  cases h : (row.get column).renderText <;> simp [mentionsColumn, Shows, showsName, h]

/-- The filter fails at a cell without a text, and otherwise keeps the rows that show the name. -/
theorem keepMentions_eq_ok_iff {kept : Table} :
    keepMentions column rows = .ok kept ↔
      (∀ row ∈ rows, Shows (row.get column)) ∧ kept = rows.filter (showsName column) := by
  induction rows generalizing kept with
  | nil => simp [keepMentions, eq_comm]
  | cons row rest ih =>
    simp only [keepMentions, Except.bind_eq_ok_iff, mentionsColumn_eq_ok_iff, ih,
      Except.pure_eq_ok_iff, List.forall_mem_cons, List.filter_cons]
    constructor
    · rintro ⟨_, ⟨hrow, rfl⟩, _, ⟨hrest, rfl⟩, rfl⟩
      exact ⟨⟨hrow, hrest⟩, rfl⟩
    · rintro ⟨⟨hrow, hrest⟩, rfl⟩
      exact ⟨_, ⟨hrow, rfl⟩, _, ⟨hrest, rfl⟩, rfl⟩

theorem exists_countBy_iff :
    (∃ groups, countBy column rows = .ok groups) ↔ ∀ row ∈ rows, Shows (row.get column) := by
  simp only [countBy, shownTexts, Except.bind_eq_ok_iff, Except.pure_eq_ok_iff, Shows,
    ← Except.exists_mapM_eq_ok_iff]
  constructor
  · rintro ⟨_, texts, htexts, rfl⟩
    exact ⟨texts, htexts⟩
  · rintro ⟨texts, htexts⟩
    exact ⟨_, texts, htexts, rfl⟩

/-- One row with one cell. -/
def HasOnlyCell (rows : Table) (column : String) : Prop := ∃ cell, rows = [[(column, cell)]]

theorem averageOf_hasOnlyCell (h : averageOf table column = .ok rows) :
    HasOnlyCell rows ("average_" ++ column) := by
  simp only [averageOf, Except.bind_eq_ok_iff, Except.pure_eq_ok_iff] at h
  obtain ⟨_, _, _, _, rfl⟩ := h
  exact ⟨_, rfl⟩

theorem totalOf_hasOnlyCell (h : totalOf table column = .ok rows) :
    HasOnlyCell rows ("total_" ++ column) := by
  simp only [totalOf, Except.bind_eq_ok_iff, Except.pure_eq_ok_iff] at h
  obtain ⟨_, _, rfl⟩ := h
  exact ⟨_, rfl⟩

/-- The rows that the two limits leave. -/
def limited (table : Table) (signals : Signals) : Table :=
  let rows := (signals.limitHead.map (Table.takeFirst table)).getD table
  (signals.limitTail.map (Table.takeLast rows)).getD rows

theorem mem_of_mem_takeFirst {count : Int} {row : Row}
    (h : row ∈ Table.takeFirst rows count) : row ∈ rows := by
  unfold Table.takeFirst at h
  split at h <;> exact List.mem_of_mem_take h

theorem mem_of_mem_takeLast {count : Int} {row : Row}
    (h : row ∈ Table.takeLast rows count) : row ∈ rows := by
  unfold Table.takeLast at h
  split at h
  · exact List.mem_of_mem_drop h
  · cases h

theorem mem_of_mem_limited {row : Row} (h : row ∈ limited table signals) : row ∈ table := by
  unfold limited at h
  cases hhead : signals.limitHead <;> cases htail : signals.limitTail <;>
    simp only [hhead, htail, Option.map_none, Option.map_some, Option.getD_none,
      Option.getD_some] at h
  · exact h
  · exact mem_of_mem_takeLast h
  · exact mem_of_mem_takeFirst h
  · exact mem_of_mem_takeFirst (mem_of_mem_takeLast h)

/-- A step on a column that may not be named. -/
def stage (step : String → Table → Except Fault Table) : Option String → Table → Except Fault Table
  | none, rows => .ok rows
  | some column, rows => step column rows

theorem mem_of_mem_stage_keepMentions {filter : Option String} {kept : Table} {row : Row}
    (h : stage keepMentions filter rows = .ok kept) (hrow : row ∈ kept) : row ∈ rows := by
  cases filter with
  | none =>
    cases h
    exact hrow
  | some column =>
    rw [(keepMentions_eq_ok_iff.mp h).2] at hrow
    exact List.mem_of_mem_filter hrow

/-- The steps that replace the rows by an aggregate of the whole table. -/
def aggregated (table : Table) (signals : Signals) (rows : Table) : Except Fault Table :=
  match Signals.named? signals.aggregateColumn with
  | none => .ok rows
  | some column =>
      (if signals.averageRequested then averageOf table column else .ok rows) >>= fun rows =>
        if signals.sumRequested then totalOf table column else .ok rows

/-- An optional step runs on the rows so far or leaves them. -/
theorem foldlM_optional {α : Type} (f : α → Step) (o : Option α) :
    (o.map f).toList.foldlM (fun rows step => step.apply table rows) rows =
      o.elim (.ok rows) (fun a => (f a).apply table rows) := by
  cases o with
  | none => rfl
  | some a => simp

/-- The steps of the two aggregates. -/
theorem foldlM_aggregates (column : String) :
    ((if signals.averageRequested then [Step.average column] else []) ++
      (if signals.sumRequested then [Step.total column] else [])).foldlM
        (fun rows step => step.apply table rows) rows =
      (if signals.averageRequested then averageOf table column else .ok rows) >>= fun rows =>
        if signals.sumRequested then totalOf table column else .ok rows := by
  cases signals.averageRequested <;> cases signals.sumRequested <;> simp [Step.apply]

/-- A run goes through its stages; only the last of them sees the whole table. -/
theorem run_eq_stages (table : Table) (signals : Signals) :
    run table signals =
      stage keepMentions (Signals.named? signals.filterColumn) (limited table signals) >>=
        stage countBy (Signals.named? signals.groupColumn) >>= aggregated table signals := by
  have hhead : signals.limitHead.elim (.ok table)
      (fun count => (Step.takeFirst count).apply table table) =
        .ok ((signals.limitHead.map (Table.takeFirst table)).getD table) := by
    cases signals.limitHead <;> rfl
  have htail (rows : Table) : signals.limitTail.elim (.ok rows)
      (fun count => (Step.takeLast count).apply table rows) =
        .ok ((signals.limitTail.map (Table.takeLast rows)).getD rows) := by
    cases signals.limitTail <;> rfl
  have hkeep (rows : Table) (column : Option String) : column.elim (.ok rows)
      (fun column => (Step.keepMentions column).apply table rows) =
        stage keepMentions column rows := by
    cases column <;> rfl
  have hcount (rows : Table) (column : Option String) : column.elim (.ok rows)
      (fun column => (Step.countBy column).apply table rows) = stage countBy column rows := by
    cases column <;> rfl
  simp only [run, steps, List.foldlM_append, foldlM_optional, hhead, htail, hkeep, hcount,
    Except.ok_bind, bind_assoc]
  change stage keepMentions _ (limited table signals) >>= _ = _
  congr 1
  funext kept
  congr 1
  funext groups
  cases h : Signals.named? signals.aggregateColumn with
  | none => simp [aggregated, h]
  | some column =>
    simp only [aggregated, h]
    exact foldlM_aggregates column

/-- Rows hold legal cells only. -/
def IsLegal (table : Table) : Prop :=
  ∀ row ∈ table, ∀ entry ∈ row, entry.2.isLegal = true

theorem mem_groupRow {group : Symbols × Nat} {entry : String × Cell}
    (h : entry ∈ groupRow column group) :
    entry.2 = .ofSymbols group.1 ∨ entry.2 = .int group.2 := by
  by_cases hcount : column = "count"
  · simp [groupRow, Row.ofCells, Row.set, hcount] at h
    exact .inr (h ▸ rfl)
  · simp [groupRow, Row.ofCells, Row.set, hcount] at h
    rcases h with rfl | rfl
    · exact .inl rfl
    · exact .inr rfl

theorem legal_groupRow (column : String) (group : Symbols × Nat) :
    ∀ entry ∈ groupRow column group, entry.2.isLegal = true := by
  intro entry hentry
  rcases mem_groupRow hentry with hcell | hcell <;> rw [hcell]
  · exact Cell.isLegal_ofSymbols group.1
  · rfl

/-- The cells that a step makes are legal, and it leaves those that are there. -/
theorem Step.apply_legal {step : Step} {next : Table} (hlegal : IsLegal rows)
    (h : step.apply table rows = .ok next) : IsLegal next := by
  cases step with
  | takeFirst count =>
    cases h
    exact fun row hrow => hlegal row (mem_of_mem_takeFirst hrow)
  | takeLast count =>
    cases h
    exact fun row hrow => hlegal row (mem_of_mem_takeLast hrow)
  | keepMentions column =>
    obtain ⟨-, rfl⟩ := keepMentions_eq_ok_iff.mp h
    exact fun row hrow => hlegal row (List.mem_of_mem_filter hrow)
  | countBy column =>
    simp only [apply, Cascade.countBy, Except.bind_eq_ok_iff, Except.pure_eq_ok_iff] at h
    obtain ⟨texts, -, rfl⟩ := h
    intro row hrow
    obtain ⟨group, -, rfl⟩ := List.mem_map.mp hrow
    exact legal_groupRow column group
  | average column =>
    simp only [apply, averageOf, Except.bind_eq_ok_iff, Except.pure_eq_ok_iff] at h
    obtain ⟨total, -, mean, -, rfl⟩ := h
    simp [IsLegal, Cell.isLegal]
  | total column =>
    simp only [apply, totalOf, Except.bind_eq_ok_iff, Except.pure_eq_ok_iff] at h
    obtain ⟨total, -, rfl⟩ := h
    cases total <;> simp [IsLegal, Number.toCell, Cell.isLegal]

theorem foldlM_legal {steps : List Step} {start : Table} (hlegal : IsLegal start)
    (h : steps.foldlM (fun rows step => step.apply table rows) start = .ok rows) :
    IsLegal rows := by
  induction steps generalizing start with
  | nil =>
    cases h
    exact hlegal
  | cons step rest ih =>
    rw [List.foldlM_cons, Except.bind_eq_ok_iff] at h
    obtain ⟨next, hnext, hrest⟩ := h
    exact ih (Step.apply_legal hlegal hnext) hrest

/-- The rows of a run have legal cells if those of the table have. -/
theorem run_legal (hlegal : IsLegal table) (h : run table signals = .ok rows) : IsLegal rows :=
  foldlM_legal hlegal h

end TableTalk.Cascade
