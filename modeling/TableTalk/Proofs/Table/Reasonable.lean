import TableTalk.Proofs.Cell.Shown
import TableTalk.Proofs.Dataset.Build
import TableTalk.Proofs.Number.Sum

/-! Tables with which no step of a cascade fails: all cells have texts, and the integers are bounded
so that the sum of a column can still be turned into a float and divided, whatever floats stand
between them. -/
namespace TableTalk
open TableTalk.Text TableTalk.Number

/-- An integer, and a text that spells one, has at most 300 digits. Floats may be any. -/
structure Cell.IsReasonable (cell : Cell) : Prop where
  legal : cell.isLegal = true
  integer : ∀ n, cell = .int n → n.natAbs < 10 ^ 300
  literal : ∀ s count, cell = .text s → IsLiteral s.toList count → count ≤ 300

structure Table.IsReasonable (table : Table) : Prop where
  size : table.length < 10 ^ 8
  cells : ∀ row ∈ table, ∀ entry ∈ row, entry.2.IsReasonable

namespace Cell

variable {cell : Cell}

theorem isReasonable_null : null.IsReasonable := ⟨rfl, nofun, nofun⟩

theorem isReasonable_float (x : Float) : (float x).IsReasonable := ⟨rfl, nofun, nofun⟩

theorem isReasonable_int {n : Int} (h : n.natAbs < 10 ^ 300) : (int n).IsReasonable :=
  ⟨rfl, fun _ hn => int.inj hn ▸ h, nofun⟩

theorem isReasonable_text {s : String} (h : s.toList.length ≤ 300) : (text s).IsReasonable :=
  ⟨rfl, nofun, fun _ _ hs hliteral => hliteral.le_length.trans (text.inj hs ▸ h)⟩

theorem IsReasonable.not_isOverlong (h : cell.IsReasonable) : ¬ cell.IsOverlong := by
  rintro ⟨s, count, hcell, hliteral, hlimit⟩
  have hcount := h.literal s count hcell hliteral
  rw [digitLimit] at hlimit
  omega

theorem IsReasonable.exists_toNumberOrZero_eq_ok (h : cell.IsReasonable) :
    ∃ number, cell.toNumberOrZero = .ok number ∧ number.IsWithin (10 ^ 300) := by
  have hzero : (Number.int 0).IsWithin (10 ^ 300) := Nat.zero_le _
  cases cell with
  | null => exact ⟨.int 0, rfl, hzero⟩
  | bool b =>
    refine ⟨.int (if b then 1 else 0), rfl, ?_⟩
    cases b
    · exact hzero
    · exact one_le_pow₀ (by decide)
  | int n => exact ⟨.int n, rfl, (h.integer n rfl).le⟩
  | float x =>
    by_cases hfinite : isFinite x = true
    · exact ⟨.float x, by simp [toNumberOrZero, toNumber?, hfinite], trivial⟩
    · exact ⟨.int 0, by simp [toNumberOrZero, toNumber?, hfinite], hzero⟩
  | text s =>
    obtain ⟨number, hnumber⟩ := exists_toNumber?_eq_ok h.not_isOverlong
    have hread : (text s).toNumberOrZero = .ok (number.getD (.int 0)) := by
      simp [toNumberOrZero, hnumber]
    refine ⟨_, hread, ?_⟩
    rcases number with _ | n | x
    · exact hzero
    · obtain ⟨count, hliteral, hbound⟩ := isLiteral_of_ofText?_int hnumber
      have hcount := h.literal s count rfl hliteral
      exact hbound.le.trans (pow_le_pow_right₀ (by decide) hcount)
    · trivial
  | broken s => exact ⟨.int 0, rfl, hzero⟩
  | list items => cases h.legal

theorem IsReasonable.shows (h : cell.IsReasonable) : Cascade.Shows cell := by
  unfold Cascade.Shows
  cases cell with
  | null => exact ⟨_, rfl⟩
  | bool b => exact ⟨_, rfl⟩
  | int n =>
    have hpower : 10 ^ 300 ≤ 10 ^ digitLimit := pow_le_pow_right₀ (by decide) (by decide)
    have hbelow : (int n).IntegersBelow (10 ^ digitLimit) := by
      rw [IntegersBelow]
      exact (h.integer n rfl).trans_le hpower
    exact hbelow.shows le_rfl
  | float x => exact shows_float x
  | text s => exact ⟨_, rfl⟩
  | broken s => exact ⟨_, rfl⟩
  | list items => cases h.legal

end Cell

namespace Table.IsReasonable

variable {table : Table} (h : table.IsReasonable)
include h

theorem get {row : Row} (hrow : row ∈ table) (column : String) :
    (row.get column).IsReasonable := by
  rcases row.get_eq_null_or_mem column with hnull | ⟨entry, hentry, hget⟩
  · rw [hnull]
    exact Cell.isReasonable_null
  · rw [← hget]
    exact h.cells row hrow entry hentry

theorem bound : table.length * 10 ^ 300 < 10 ^ 308 := by
  calc table.length * 10 ^ 300 < 10 ^ 8 * 10 ^ 300 :=
        Nat.mul_lt_mul_of_pos_right h.size (by positivity)
    _ = 10 ^ 308 := by rw [← pow_add]

theorem exists_columnSum_eq_ok (column : String) :
    ∃ total, Cascade.columnSum table column = .ok total ∧
      total.IsWithin (table.length * 10 ^ 300) := by
  obtain ⟨numbers, hnumbers, hlength, hwithin⟩ := Except.exists_mapM_eq_ok_of_forall
    fun row hrow => (h.get hrow column).exists_toNumberOrZero_eq_ok
  obtain ⟨total, htotal, hbound⟩ := exists_sum_eq_ok hwithin (hlength.symm ▸ h.bound)
  rw [hlength] at hbound
  exact ⟨total, by rw [Cascade.columnSum, hnumbers, Except.ok_bind, htotal], hbound⟩

theorem exists_averageOf_eq_ok (hne : table ≠ []) (column : String) :
    ∃ rows, Cascade.averageOf table column = .ok rows := by
  obtain ⟨total, htotal, hwithin⟩ := h.exists_columnSum_eq_ok column
  have hcount : table.length < 10 ^ 308 :=
    (Nat.le_mul_of_pos_right _ (by positivity)).trans_lt h.bound
  obtain ⟨x, hx⟩ := exists_share_eq_ok hwithin h.bound (List.length_pos_iff.mpr hne) hcount
  exact ⟨_, by rw [Cascade.averageOf, htotal, Except.ok_bind, hx]; rfl⟩

theorem exists_totalOf_eq_ok (column : String) :
    ∃ rows, Cascade.totalOf table column = .ok rows := by
  obtain ⟨total, htotal, -⟩ := h.exists_columnSum_eq_ok column
  exact ⟨_, by rw [Cascade.totalOf, htotal]; rfl⟩

end Table.IsReasonable

end TableTalk
