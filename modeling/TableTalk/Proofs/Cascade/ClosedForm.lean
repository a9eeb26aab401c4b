import TableTalk.Proofs.Cascade.Stages

/-! The rows that answer the operations asked for, written without steps: the rows of a range of
positions, filtered and grouped, or one row that aggregates the whole table. A run of the steps
gives these rows, and it fails only if a cell that has to be shown has no text or an aggregate
cannot be computed. -/
namespace TableTalk.Cascade

variable {table rows : Table} {signals : Signals} {column : String}

/-- The position at which rows taken from the start end; a negative count leaves rows off. -/
def stopPosition (size : Nat) : Option Int → Nat
  | none => size
  | some count => if 0 ≤ count then min count.toNat size else (size + count).toNat

/-- The position at which rows taken from the end start. -/
def startPosition (stop : Nat) : Option Int → Nat
  | none => 0
  | some count => if count ≤ 0 then stop else (stop - count).toNat

/-- The rows at the positions from the start on and before the stop. -/
def between (start stop : Nat) (table : Table) : Table :=
  (table.zipIdx.filter (fun entry => decide (start ≤ entry.2) && decide (entry.2 < stop))).map
    Prod.fst

def inLimits (table : Table) (signals : Signals) : Table :=
  let stop := stopPosition table.length signals.limitHead
  between (startPosition stop signals.limitTail) stop table

/-- The rows in the limits that show the name of the filter column, if there is one. -/
def selected (table : Table) (signals : Signals) : Table :=
  match Signals.named? signals.filterColumn with
  | some column => (inLimits table signals).filter (showsName column)
  | none => inLimits table signals

/-- The rows that answer the operations: a total goes before an average, an average before
groups. -/
def closedForm (table : Table) (signals : Signals) : Except Fault Table :=
  match Signals.named? signals.aggregateColumn, signals.sumRequested, signals.averageRequested with
  | some column, true, _ => totalOf table column
  | some column, false, true => averageOf table column
  | _, _, _ =>
      match Signals.named? signals.groupColumn with
      | some column => countBy column (selected table signals)
      | none => .ok (selected table signals)

/-- No step fails: the cells that are filtered and grouped have texts, and the aggregates asked
for can be computed, also one that is replaced afterwards. -/
structure Proceeds (table : Table) (signals : Signals) : Prop where
  filter : ∀ column, Signals.named? signals.filterColumn = some column →
    ∀ row ∈ inLimits table signals, Shows (row.get column)
  group : ∀ column, Signals.named? signals.groupColumn = some column →
    ∀ row ∈ selected table signals, Shows (row.get column)
  average : ∀ column, Signals.named? signals.aggregateColumn = some column →
    signals.averageRequested = true → ∃ rows, averageOf table column = .ok rows
  total : ∀ column, Signals.named? signals.aggregateColumn = some column →
    signals.sumRequested = true → ∃ rows, totalOf table column = .ok rows

theorem stopPosition_le (size : Nat) (limit : Option Int) : stopPosition size limit ≤ size := by
  cases limit with
  | none => exact Nat.le_refl size
  | some count =>
    simp only [stopPosition]
    split <;> omega

theorem takeFirst_eq_take (limit : Option Int) :
    (limit.map (Table.takeFirst table)).getD table =
      table.take (stopPosition table.length limit) := by
  cases limit with
  | none => simp [stopPosition]
  | some count =>
    simp only [Option.map_some, Option.getD_some, Table.takeFirst, stopPosition]
    split
    · rw [List.take_eq_take_iff]
      omega
    · congr 1
      omega

theorem takeLast_eq_drop (limit : Option Int) :
    (limit.map (Table.takeLast rows)).getD rows = rows.drop (startPosition rows.length limit) := by
  cases limit with
  | none => rfl
  | some count =>
    simp only [Option.map_some, Option.getD_some, Table.takeLast, startPosition]
    by_cases h : 0 < count
    · rw [if_pos h, if_neg (by omega)]
      congr 1
      omega
    · rw [if_neg h, if_pos (by omega), List.drop_length]

/-- Positions counted from an offset on; the rows before the start drop out one by one. -/
theorem zipIdx_between (start stop offset : Nat) (table : Table) :
    ((table.zipIdx offset).filter
      (fun entry => decide (start ≤ entry.2) && decide (entry.2 < stop))).map Prod.fst =
        (table.take (stop - offset)).drop (start - offset) := by
  induction table generalizing offset with
  | nil => simp
  | cons row rest ih =>
    have ih := ih (offset + 1)
    rw [List.zipIdx_cons, List.filter_cons]
    by_cases hstop : offset < stop
    · have hk : stop - offset = stop - (offset + 1) + 1 := by omega
      rw [hk, List.take_succ_cons]
      by_cases hstart : start ≤ offset
      · have h0 : start - offset = 0 := by omega
        have h1 : start - (offset + 1) = 0 := by omega
        rw [h1] at ih
        simpa [hstart, hstop, h0] using ih
      · have hj : start - offset = start - (offset + 1) + 1 := by omega
        rw [hj, List.drop_succ_cons, ← ih]
        simp [hstart]
    · have h0 : stop - offset = 0 := by omega
      have h1 : stop - (offset + 1) = 0 := by omega
      rw [h1] at ih
      simpa [hstop, h0] using ih

theorem between_eq_drop_take (start stop : Nat) (table : Table) :
    between start stop table = (table.take stop).drop start :=
  zipIdx_between start stop 0 table

theorem limited_eq_inLimits (table : Table) (signals : Signals) :
    limited table signals = inLimits table signals := by
  have hlen : (table.take (stopPosition table.length signals.limitHead)).length =
      stopPosition table.length signals.limitHead := by
    rw [List.length_take]
    exact Nat.min_eq_left (stopPosition_le _ _)
  simp only [limited, inLimits, takeFirst_eq_take, takeLast_eq_drop, between_eq_drop_take, hlen]

theorem mem_of_mem_inLimits {row : Row} (h : row ∈ inLimits table signals) : row ∈ table := by
  rw [← limited_eq_inLimits] at h
  exact mem_of_mem_limited h

theorem mem_of_mem_selected {row : Row} (h : row ∈ selected table signals) : row ∈ table := by
  unfold selected at h
  split at h
  · exact mem_of_mem_inLimits (List.mem_of_mem_filter h)
  · exact mem_of_mem_inLimits h

theorem stage_keepMentions_eq_ok_iff {kept : Table} :
    stage keepMentions (Signals.named? signals.filterColumn) (inLimits table signals) = .ok kept ↔
      (∀ column, Signals.named? signals.filterColumn = some column →
        ∀ row ∈ inLimits table signals, Shows (row.get column)) ∧
      kept = selected table signals := by
  cases h : Signals.named? signals.filterColumn with
  | none => simp [stage, selected, h, eq_comm]
  | some column => simp [stage, selected, h, keepMentions_eq_ok_iff]

theorem exists_stage_countBy_iff :
    (∃ groups, stage countBy (Signals.named? signals.groupColumn) (selected table signals) =
        .ok groups) ↔
      ∀ column, Signals.named? signals.groupColumn = some column →
        ∀ row ∈ selected table signals, Shows (row.get column) := by
  cases h : Signals.named? signals.groupColumn with
  | none => simp [stage]
  | some column => simp [stage, exists_countBy_iff]

theorem closedForm_eq_totalOf (hcolumn : Signals.named? signals.aggregateColumn = some column)
    (hsum : signals.sumRequested = true) : closedForm table signals = totalOf table column := by
  simp [closedForm, hcolumn, hsum]

theorem closedForm_eq_averageOf (hcolumn : Signals.named? signals.aggregateColumn = some column)
    (hsum : signals.sumRequested = false) (haverage : signals.averageRequested = true) :
    closedForm table signals = averageOf table column := by
  simp [closedForm, hcolumn, hsum, haverage]

/-- Whether an average or a total of a named column is asked for. -/
def HasAggregate (signals : Signals) : Prop :=
  (∃ column, Signals.named? signals.aggregateColumn = some column) ∧
    (signals.sumRequested = true ∨ signals.averageRequested = true)

theorem closedForm_eq_groups (h : ¬ HasAggregate signals) :
    closedForm table signals =
      stage countBy (Signals.named? signals.groupColumn) (selected table signals) := by
  have hstage : stage countBy (Signals.named? signals.groupColumn) (selected table signals) =
      match Signals.named? signals.groupColumn with
      | some column => countBy column (selected table signals)
      | none => .ok (selected table signals) := by
    cases Signals.named? signals.groupColumn <;> rfl
  cases hcolumn : Signals.named? signals.aggregateColumn with
  | none => simp [hstage, closedForm, hcolumn]
  | some column =>
    have hrequested : signals.sumRequested = false ∧ signals.averageRequested = false := by
      simpa [HasAggregate, hcolumn] using h
    simp [hstage, closedForm, hcolumn, hrequested]

/-- The last stage gives an aggregate of the whole table, or else leaves the groups. -/
theorem aggregated_eq_ok_iff {groups : Table}
    (hgroups : stage countBy (Signals.named? signals.groupColumn) (selected table signals) =
      .ok groups) :
    aggregated table signals groups = .ok rows ↔
      (∀ column, Signals.named? signals.aggregateColumn = some column →
        signals.averageRequested = true → ∃ rows, averageOf table column = .ok rows) ∧
      (∀ column, Signals.named? signals.aggregateColumn = some column →
        signals.sumRequested = true → ∃ rows, totalOf table column = .ok rows) ∧
      closedForm table signals = .ok rows := by
  cases hcolumn : Signals.named? signals.aggregateColumn with
  | none =>
    have h : ¬ HasAggregate signals := by simp [HasAggregate, hcolumn]
    simp [aggregated, hcolumn, closedForm_eq_groups h, hgroups]
  | some column =>
    cases hsum : signals.sumRequested with
    | true =>
      rw [closedForm_eq_totalOf hcolumn hsum]
      cases haverage : signals.averageRequested
      · simp only [aggregated, hcolumn, hsum, haverage]
        simpa using fun h => ⟨rows, h⟩
      · simp only [aggregated, hcolumn, hsum, haverage]
        simpa using fun _ _ h => ⟨rows, h⟩
    | false =>
      cases haverage : signals.averageRequested with
      | true =>
        rw [closedForm_eq_averageOf hcolumn hsum haverage]
        simp only [aggregated, hcolumn, hsum, haverage]
        simpa using fun h => ⟨rows, h⟩
      | false =>
        have h : ¬ HasAggregate signals := by simp [HasAggregate, hsum, haverage]
        simp [aggregated, hcolumn, hsum, haverage, closedForm_eq_groups h, hgroups]

theorem run_eq_ok_iff :
    run table signals = .ok rows ↔
      Proceeds table signals ∧ closedForm table signals = .ok rows := by
  rw [run_eq_stages, limited_eq_inLimits]
  simp only [Except.bind_eq_ok_iff, stage_keepMentions_eq_ok_iff]
  constructor
  · rintro ⟨groups, ⟨_, ⟨hfilter, rfl⟩, hgroups⟩, hrows⟩
    obtain ⟨haverage, htotal, hclosed⟩ := (aggregated_eq_ok_iff hgroups).mp hrows
    exact ⟨⟨hfilter, exists_stage_countBy_iff.mp ⟨groups, hgroups⟩, haverage, htotal⟩, hclosed⟩
  · rintro ⟨⟨hfilter, hgroup, haverage, htotal⟩, hclosed⟩
    obtain ⟨groups, hgroups⟩ := exists_stage_countBy_iff.mpr hgroup
    exact ⟨groups, ⟨_, ⟨hfilter, rfl⟩, hgroups⟩,
      (aggregated_eq_ok_iff hgroups).mpr ⟨haverage, htotal, hclosed⟩⟩

theorem exists_closedForm_eq_ok (h : Proceeds table signals) :
    ∃ rows, closedForm table signals = .ok rows := by
  by_cases haggregate : HasAggregate signals
  · obtain ⟨⟨column, hcolumn⟩, hrequested⟩ := haggregate
    cases hsum : signals.sumRequested with
    | true =>
      rw [closedForm_eq_totalOf hcolumn hsum]
      exact h.total column hcolumn hsum
    | false =>
      have haverage : signals.averageRequested = true := by simpa [hsum] using hrequested
      rw [closedForm_eq_averageOf hcolumn hsum haverage]
      exact h.average column hcolumn haverage
  · rw [closedForm_eq_groups haggregate]
    exact exists_stage_countBy_iff.mpr h.group

/-- Signals that ask for the same aggregates of the same column. -/
def SameAggregate (signals other : Signals) : Prop :=
  other.aggregateColumn = signals.aggregateColumn ∧
    other.averageRequested = signals.averageRequested ∧
    other.sumRequested = signals.sumRequested

/-- An aggregate depends neither on the limits nor on the filter nor on the groups. -/
theorem closedForm_eq_of_sameAggregate {other : Signals} (h : HasAggregate signals)
    (hsame : SameAggregate signals other) :
    closedForm table other = closedForm table signals := by
  obtain ⟨⟨column, hcolumn⟩, hrequested⟩ := h
  obtain ⟨hother, haverage, hsum⟩ := hsame
  rw [← hother] at hcolumn
  cases hs : signals.sumRequested with
  | true =>
    rw [closedForm_eq_totalOf hcolumn (hsum.trans hs), closedForm_eq_totalOf (hother ▸ hcolumn) hs]
  | false =>
    have ha : signals.averageRequested = true := by simpa [hs] using hrequested
    rw [closedForm_eq_averageOf hcolumn (hsum.trans hs) (haverage.trans ha),
      closedForm_eq_averageOf (hother ▸ hcolumn) hs ha]

/-- A run answers exactly when no step fails, and then with the rows of the closed form. Runs
that are asked for the same aggregate give the same rows whatever else is asked of them. -/
theorem run_closedForm (table : Table) (signals : Signals) (rows : Table) :
    (run table signals = .ok rows ↔
      Proceeds table signals ∧ closedForm table signals = .ok rows) ∧
    (HasAggregate signals → run table signals = .ok rows →
      ∀ other otherRows, SameAggregate signals other → run table other = .ok otherRows →
        otherRows = rows) := by
  refine ⟨run_eq_ok_iff, fun haggregate hrun other otherRows hsame hother => ?_⟩
  have hclosed := (run_eq_ok_iff.mp hother).2
  rw [closedForm_eq_of_sameAggregate haggregate hsame, (run_eq_ok_iff.mp hrun).2] at hclosed
  exact (Except.ok.inj hclosed).symm

/-- Three articles of a shop, of which one has the name of its column in its name. -/
def articles : Table :=
  [[("name", .text "Pen"), ("price", .int 2)], [("name", .text "Name tag"), ("price", .int 4)],
   [("name", .text "Ink"), ("price", .int 5)]]

/-- The filter works on the rows that the limits leave, but the total is that of all rows. -/
theorem run_closedForm_articles :
    (Proceeds articles
        { limitHead := some (-1), limitTail := some 1, filterColumn := some "name" } ∧
      closedForm articles
        { limitHead := some (-1), limitTail := some 1, filterColumn := some "name" } =
          .ok [[("name", .text "Name tag"), ("price", .int 4)]]) ∧
    HasAggregate { aggregateColumn := some "price", sumRequested := true } ∧
    run articles { aggregateColumn := some "price", sumRequested := true } =
      .ok [[("total_price", .int 11)]] ∧
    ∀ rows, run articles
        { limitHead := some 1, aggregateColumn := some "price", sumRequested := true } = .ok rows →
      rows = [[("total_price", .int 11)]] := by
  have htotal : run articles { aggregateColumn := some "price", sumRequested := true } =
      .ok [[("total_price", .int 11)]] := by rfl
  have haggregate : HasAggregate { aggregateColumn := some "price", sumRequested := true } :=
    ⟨⟨"price", by rfl⟩, .inl rfl⟩
  exact ⟨(run_closedForm articles _ _).1.mp (by rfl), haggregate, htotal, fun rows hrows =>
    (run_closedForm articles _ _).2 haggregate htotal _ rows ⟨rfl, rfl, rfl⟩ hrows⟩

end TableTalk.Cascade
