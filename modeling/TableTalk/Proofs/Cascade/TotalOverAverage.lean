import TableTalk.Proofs.Cascade.ClosedForm
import TableTalk.Proofs.Number.Sum

/-! Runs that are asked for an average and a total at once. The total replaces the average, so its
rows are those of a run that is asked for the total alone; but the average is computed first, and
where no float can hold it the run ends there, though the total would have been known. -/
namespace TableTalk.Cascade
open TableTalk.Number

variable {table rows : Table} {signals : Signals} {column : String}

/-- The same operations without the average. -/
def withoutAverage (signals : Signals) : Signals := { signals with averageRequested := false }

/-- The total of a column is known, but no float can hold its share for each row. -/
def HasMeanBeyond (table : Table) (column : String) : Prop :=
  ∃ total, columnSum table column = .ok total ∧ total.IsMeanBeyond table.length

theorem exists_totalOf_eq_ok_iff :
    (∃ rows, totalOf table column = .ok rows) ↔ ∃ total, columnSum table column = .ok total := by
  simp [totalOf]

/-- An average needs the total, and then that a float can hold the mean. -/
theorem exists_averageOf_eq_ok_iff (hne : table ≠ []) :
    (∃ rows, averageOf table column = .ok rows) ↔
      (∃ total, columnSum table column = .ok total) ∧ ¬ HasMeanBeyond table column := by
  have hpos : 0 < table.length := List.length_pos_iff.mpr hne
  cases htotal : columnSum table column with
  | error fault => simp [averageOf, htotal]
  | ok total =>
    have hshare : (∃ x, share total table.length = .ok x) ↔ ¬ total.IsMeanBeyond table.length :=
      exists_share_eq_ok_iff hpos
    simpa [averageOf, HasMeanBeyond, htotal] using hshare

/-- A run without the average proceeds where the run with it does, and also where just the mean
is beyond the floats. -/
theorem proceeds_iff_withoutAverage (hne : table ≠ [])
    (hcolumn : Signals.named? signals.aggregateColumn = some column)
    (haverage : signals.averageRequested = true) (hsum : signals.sumRequested = true) :
    Proceeds table signals ↔
      Proceeds table (withoutAverage signals) ∧ ¬ HasMeanBeyond table column := by
  constructor
  · intro h
    refine ⟨⟨h.filter, h.group, fun _ _ hnone => (Bool.false_ne_true hnone).elim, h.total⟩, ?_⟩
    exact ((exists_averageOf_eq_ok_iff hne).mp (h.average column hcolumn haverage)).2
  · rintro ⟨h, hmean⟩
    refine ⟨h.filter, h.group, ?_, h.total⟩
    intro other hother _
    obtain rfl := Option.some.inj (hcolumn.symm.trans hother)
    have htotal := exists_totalOf_eq_ok_iff.mp (h.total column hcolumn hsum)
    exact (exists_averageOf_eq_ok_iff hne).mpr ⟨htotal, hmean⟩

theorem closedForm_withoutAverage
    (hcolumn : Signals.named? signals.aggregateColumn = some column)
    (hsum : signals.sumRequested = true) :
    closedForm table (withoutAverage signals) = closedForm table signals := by
  rw [closedForm_eq_totalOf hcolumn hsum]
  exact closedForm_eq_totalOf hcolumn hsum

theorem run_eq_ok_iff_withoutAverage (hne : table ≠ [])
    (hcolumn : Signals.named? signals.aggregateColumn = some column)
    (haverage : signals.averageRequested = true) (hsum : signals.sumRequested = true) :
    run table signals = .ok rows ↔
      run table (withoutAverage signals) = .ok rows ∧ ¬ HasMeanBeyond table column := by
  rw [run_eq_ok_iff, run_eq_ok_iff, proceeds_iff_withoutAverage hne hcolumn haverage hsum,
    closedForm_withoutAverage hcolumn hsum]
  tauto

/-- Asked for both aggregates, a run gives the rows of the total alone, unless the total is known
and its mean is beyond the floats. In that case the run fails. -/
theorem run_total_over_average (hne : table ≠ [])
    (hcolumn : Signals.named? signals.aggregateColumn = some column)
    (haverage : signals.averageRequested = true) (hsum : signals.sumRequested = true) :
    ((∀ rows, run table signals = .ok rows ↔ run table (withoutAverage signals) = .ok rows) ↔
      ¬ ((∃ rows, run table (withoutAverage signals) = .ok rows) ∧
        HasMeanBeyond table column)) ∧
    (HasMeanBeyond table column → ∃ fault, run table signals = .error fault) := by
  have hrun {rows : Table} : run table signals = .ok rows ↔
      run table (withoutAverage signals) = .ok rows ∧ ¬ HasMeanBeyond table column :=
    run_eq_ok_iff_withoutAverage hne hcolumn haverage hsum
  refine ⟨⟨?_, ?_⟩, ?_⟩
  · rintro hsame ⟨⟨rows, hrows⟩, hmean⟩
    exact (hrun.mp ((hsame rows).mpr hrows)).2 hmean
  · intro h rows
    rw [hrun]
    exact and_iff_left_of_imp fun hrows hmean => h ⟨⟨rows, hrows⟩, hmean⟩
  · intro hmean
    cases hfails : run table signals with
    | error fault => exact ⟨fault, rfl⟩
    | ok rows => exact absurd hmean (hrun.mp hfails).2

def bothAggregates (column : String) : Signals :=
  { averageRequested := true, sumRequested := true, aggregateColumn := some column }

/-- A single article. -/
def stockOf (n : Int) : Table := [[("stock", .int n)]]

theorem isLegal_stockOf (n : Int) : IsLegal (stockOf n) := by
  simp [IsLegal, stockOf, Cell.isLegal]

theorem columnSum_stockOf (n : Int) : columnSum (stockOf n) "stock" = .ok (.int n) := by
  simp [columnSum, stockOf, Row.get, Cell.toNumberOrZero, Cell.toNumber?, sum, add]

/-- The mean of one row is its number. -/
theorem hasMeanBeyond_stockOf (n : Nat) (h : floatLimit ≤ n) :
    HasMeanBeyond (stockOf n) "stock" := by
  refine ⟨.int n, columnSum_stockOf n, ?_⟩
  rw [Number.IsMeanBeyond, Int.natAbs_natCast, stockOf, List.length_singleton, Nat.mul_one]
  exact h

/-- Three articles have a total, and the average is left out. That of the single article is known
as well, but not to a run that has to compute the average. -/
theorem run_total_over_average_stocks :
    (∀ rows, run articles (bothAggregates "price") = .ok rows ↔
      run articles (withoutAverage (bothAggregates "price")) = .ok rows) ∧
    run articles (bothAggregates "price") = .ok [[("total_price", .int 11)]] ∧
    ∃ fault, run (stockOf floatLimit) (bothAggregates "stock") = .error fault := by
  have hmean : ¬ HasMeanBeyond articles "price" := by
    rintro ⟨total, htotal, hlarge⟩
    obtain rfl : Number.int 11 = total := Except.ok.inj htotal
    exact absurd hlarge (by unfold Number.IsMeanBeyond; decide +kernel)
  have hsame : ∀ rows, run articles (bothAggregates "price") = .ok rows ↔
      run articles (withoutAverage (bothAggregates "price")) = .ok rows :=
    (run_total_over_average (List.cons_ne_nil _ _) (by rfl) rfl rfl).1.mpr fun h => hmean h.2
  refine ⟨hsame, (hsame _).mpr (by rfl), ?_⟩
  have hvast : stockOf floatLimit ≠ [] := List.cons_ne_nil _ _
  exact (run_total_over_average hvast (by rfl) rfl rfl).2 (hasMeanBeyond_stockOf _ (Nat.le_refl _))

/-- The average that would be replaced takes the total with it. -/
theorem run_loses_total :
    stockOf floatLimit ≠ [] ∧ IsLegal (stockOf floatLimit) ∧
      run (stockOf floatLimit) (withoutAverage (bothAggregates "stock")) =
        .ok [[("total_stock", .int floatLimit)]] ∧
      ∀ rows, run (stockOf floatLimit) (bothAggregates "stock") ≠ .ok rows := by
  have hne : stockOf floatLimit ≠ [] := List.cons_ne_nil _ _
  refine ⟨hne, isLegal_stockOf _, ?_, ?_⟩
  · have hrun : run (stockOf floatLimit) (withoutAverage (bothAggregates "stock")) =
        totalOf (stockOf floatLimit) "stock" := by rfl
    rw [hrun, totalOf, columnSum_stockOf]
    rfl
  · intro rows hrows
    have hmean := ((run_eq_ok_iff_withoutAverage hne (by rfl) rfl rfl).mp hrows).2
    exact hmean (hasMeanBeyond_stockOf _ (Nat.le_refl _))

end TableTalk.Cascade
