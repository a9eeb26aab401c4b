import Mathlib.Algebra.BigOperators.Group.List.Basic
import Mathlib.Algebra.Ring.Int.Defs
import TableTalk.Cascade
import TableTalk.Proofs.Except

/-! Totals of columns without fractions. Integers of any size are added without rounding, so the
total is the sum of what the cells denote, and neither the order of the rows nor the rows without a
number make a difference. -/
namespace TableTalk

/-- The integer that a cell denotes, if it denotes one. -/
def Cell.integer? (cell : Cell) : Option Int :=
  match cell.toNumber? with
  | .ok (some (.int n)) => some n
  | _ => none

theorem Cell.integer?_of_toNumber? {cell : Cell} {value : Option Int}
    (h : cell.toNumber? = .ok (value.map .int)) : cell.integer? = value := by
  cases value <;> simp [integer?, h]

theorem Number.foldlM_add_int (start : Int) (summands : List Int) :
    (summands.map Number.int).foldlM add (.int start) = .ok (.int (start + summands.sum)) := by
  induction summands generalizing start with
  | nil => simp [pure, Except.pure]
  | cons n rest ih =>
    rw [List.map_cons, List.foldlM_cons, add, Except.ok_bind, ih, List.sum_cons, Int.add_assoc]

namespace Cascade

variable {rows more : Table} {column : String}

/-- Every cell of a column denotes an integer or no number; a row without the column has no
number there. -/
def IsIntegral (column : String) (rows : Table) : Prop :=
  ∀ row ∈ rows, ∃ value : Option Int, (Row.get row column).toNumber? = .ok (value.map .int)

/-- What a row adds to the total of a column. -/
def contribution (column : String) (row : Row) : Int := (row.get column).integer?.getD 0

/-- The sum of the integers of a column. -/
def integerTotal (column : String) (rows : Table) : Int := (rows.map (contribution column)).sum

/-- The one row that tells a total. -/
def totalRow (column : String) (total : Int) : Table := [[("total_" ++ column, .int total)]]

theorem IsIntegral.of_perm {other : Table} (h : IsIntegral column rows)
    (hperm : other.Perm rows) : IsIntegral column other :=
  fun row hrow => h row (hperm.mem_iff.mp hrow)

theorem IsIntegral.append (h : IsIntegral column rows) (hmore : IsIntegral column more) :
    IsIntegral column (rows ++ more) :=
  List.forall_mem_append.mpr ⟨h, hmore⟩

theorem integerTotal_perm {other : Table} (hperm : other.Perm rows) :
    integerTotal column other = integerTotal column rows :=
  (hperm.map (contribution column)).sum_eq

theorem integerTotal_append (rows more : Table) :
    integerTotal column (rows ++ more) = integerTotal column rows + integerTotal column more := by
  rw [integerTotal, List.map_append, List.sum_append]
  rfl

theorem integerTotal_of_noNumbers
    (h : ∀ row ∈ rows, (Row.get row column).toNumber? = .ok none) :
    integerTotal column rows = 0 := by
  refine List.sum_eq_zero ?_
  rw [List.forall_mem_map]
  intro row hrow
  have hnone : (row.get column).integer? = none := Cell.integer?_of_toNumber? (h row hrow)
  rw [contribution, hnone, Option.getD_none]

theorem toNumberOrZero_eq_contribution {row : Row} {value : Option Int}
    (h : (row.get column).toNumber? = .ok (value.map .int)) :
    (row.get column).toNumberOrZero = .ok (.int (contribution column row)) := by
  rw [Cell.toNumberOrZero, h, contribution, Cell.integer?_of_toNumber? h]
  cases value <;> rfl

theorem columnSum_eq_integerTotal (h : IsIntegral column rows) :
    columnSum rows column = .ok (.int (integerTotal column rows)) := by
  have hsummands : rows.mapM (fun row => (row.get column).toNumberOrZero) =
      .ok ((rows.map (contribution column)).map Number.int) := by
    rw [Except.mapM_eq_ok_iff, List.map_map, List.forall₂_map_right_iff, List.forall₂_same]
    intro row hrow
    obtain ⟨value, hvalue⟩ := h row hrow
    exact toNumberOrZero_eq_contribution hvalue
  rw [columnSum, hsummands, Except.ok_bind, Number.sum, Number.foldlM_add_int, Int.zero_add]
  rfl

theorem totalOf_eq_totalRow (h : IsIntegral column rows) :
    totalOf rows column = .ok (totalRow column (integerTotal column rows)) := by
  rw [totalOf, columnSum_eq_integerTotal h]
  rfl

/-- A column of integers and cells without a number has its sum as total. The rows may come in any
order, rows without a number may be left out, and the totals of two tables add up to that of
both. -/
theorem totalOf_integers (h : IsIntegral column rows) :
    totalOf rows column = .ok (totalRow column (integerTotal column rows)) ∧
    (∀ other : Table, other.Perm rows → totalOf other column = totalOf rows column) ∧
    (∀ kept removed : Table, rows.Perm (kept ++ removed) →
      (∀ row ∈ removed, (Row.get row column).toNumber? = .ok none) →
        totalOf kept column = totalOf rows column) ∧
    ∀ more, IsIntegral column more →
      totalOf (rows ++ more) column =
        .ok (totalRow column (integerTotal column rows + integerTotal column more)) := by
  have htotal := totalOf_eq_totalRow h
  refine ⟨htotal, ?_, ?_, ?_⟩
  · intro other hperm
    rw [htotal, totalOf_eq_totalRow (h.of_perm hperm), integerTotal_perm hperm]
  · intro kept removed hperm hremoved
    have hall := h.of_perm hperm.symm
    have hkept : IsIntegral column kept := (List.forall_mem_append.mp hall).1
    rw [htotal, totalOf_eq_totalRow hkept, ← integerTotal_perm hperm.symm, integerTotal_append,
      integerTotal_of_noNumbers hremoved, Int.add_zero]
  · intro more hmore
    rw [totalOf_eq_totalRow (h.append hmore), integerTotal_append]

/-- Amounts as texts with signs and white space, a truth value, an integer that no float holds, and
four rows without a number. -/
def amounts : Table :=
  [[("amount", .text " +12 ")], [("amount", .null)], [("amount", .int (10 ^ 200))],
   [("amount", .text "n/a")], [("amount", .bool true), ("note", .text "7")], [("note", .text "7")],
   [("amount", .text "-0040")], [("amount", .list [.int 5])]]

theorem isIntegral_amounts : IsIntegral "amount" amounts := by
  simp only [IsIntegral, amounts, List.forall_mem_cons]
  exact ⟨⟨some 12, rfl⟩, ⟨none, rfl⟩, ⟨some (10 ^ 200), rfl⟩, ⟨none, rfl⟩, ⟨some 1, rfl⟩,
    ⟨none, rfl⟩, ⟨some (-40), rfl⟩, ⟨none, rfl⟩, by simp⟩

/-- The rows are turned around, left without one that has no number, and doubled. -/
theorem totalOf_integers_amounts :
    IsIntegral "amount" amounts ∧
      totalOf amounts "amount" = .ok [[("total_amount", .int (10 ^ 200 - 27))]] ∧
      totalOf amounts.reverse "amount" = totalOf amounts "amount" ∧
      totalOf ([("amount", .text " +12 ")] :: amounts.drop 2) "amount" =
        totalOf amounts "amount" ∧
      totalOf (amounts ++ amounts) "amount" =
        .ok [[("total_amount", .int (2 * 10 ^ 200 - 54))]] := by
  obtain ⟨htotal, hperm, hkept, happend⟩ := totalOf_integers isIntegral_amounts
  have hsum : integerTotal "amount" amounts = 10 ^ 200 - 27 := by rfl
  have hnull : ∀ row ∈ [[("amount", Cell.null)]],
      (Row.get row "amount").toNumber? = .ok none := List.forall_mem_singleton.mpr rfl
  have hsplit : amounts.Perm
      (([("amount", .text " +12 ")] :: amounts.drop 2) ++ [[("amount", .null)]]) :=
    (List.Perm.swap _ _ _).trans (List.perm_append_singleton _ _).symm
  rw [hsum] at htotal
  refine ⟨isIntegral_amounts, htotal, hperm _ amounts.reverse_perm, hkept _ _ hsplit hnull, ?_⟩
  rw [happend amounts isIntegral_amounts, hsum]
  rfl

end Cascade
end TableTalk
