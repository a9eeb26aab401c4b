import TableTalk.Proofs.Except
import TableTalk.Proofs.Number.Rounding

/-! Sums that can be computed. A sum of integers and floats fails only if an integer that is to be
added to a float is beyond the floats; the partial sums stay below this as long as the summands are
few and small enough. -/
namespace TableTalk.Number

/-- Integers are bounded; floats may be any. -/
def IsWithin (bound : Nat) : Number → Prop
  | .int n => n.natAbs ≤ bound
  | .float _ => True

variable {bound other : Nat}

theorem exists_add_eq_ok {a b : Number} (ha : a.IsWithin bound) (hb : b.IsWithin other)
    (hsmall : bound + other < 10 ^ 308) :
    ∃ c, add a b = .ok c ∧ c.IsWithin (bound + other) := by
  cases a with
  | int m =>
    cases b with
    | int n => exact ⟨.int (m + n), rfl, (Int.natAbs_add_le m n).trans (Nat.add_le_add ha hb)⟩
    | float y =>
      have hm : m.natAbs < 10 ^ 308 := ha.trans_lt ((Nat.le_add_right _ _).trans_lt hsmall)
      obtain ⟨x, hx⟩ :=
        exists_floatOfInteger_eq_ok_iff.mpr (hm.trans_le ten_pow_le_floatLimit)
      exact ⟨.float (x + y), by rw [add, hx]; rfl, trivial⟩
  | float x =>
    cases b with
    | int n =>
      have hn : n.natAbs < 10 ^ 308 := hb.trans_lt ((Nat.le_add_left _ _).trans_lt hsmall)
      obtain ⟨y, hy⟩ :=
        exists_floatOfInteger_eq_ok_iff.mpr (hn.trans_le ten_pow_le_floatLimit)
      exact ⟨.float (x + y), by rw [add, hy]; rfl, trivial⟩
    | float y => exact ⟨.float (x + y), rfl, trivial⟩

/-- The partial sum grows with each summand by the bound of one at most. -/
theorem exists_foldlM_add_eq_ok {numbers : List Number} {partialSum : Number} {start : Nat}
    (hpartial : partialSum.IsWithin start) (h : ∀ number ∈ numbers, number.IsWithin bound)
    (hsmall : start + numbers.length * bound < 10 ^ 308) :
    ∃ total, numbers.foldlM add partialSum = .ok total ∧
      total.IsWithin (start + numbers.length * bound) := by
  induction numbers generalizing partialSum start with
  | nil => exact ⟨partialSum, rfl, by simpa using hpartial⟩
  | cons number rest ih =>
    rw [List.forall_mem_cons] at h
    have hlength : start + (number :: rest).length * bound =
        start + bound + rest.length * bound := by
      rw [List.length_cons, Nat.succ_mul]
      omega
    rw [hlength] at hsmall ⊢
    obtain ⟨next, hnext, hwithin⟩ :=
      exists_add_eq_ok hpartial h.1 ((Nat.le_add_right _ _).trans_lt hsmall)
    rw [List.foldlM_cons, hnext, Except.ok_bind]
    exact ih hwithin h.2 hsmall

theorem exists_sum_eq_ok {numbers : List Number} (h : ∀ number ∈ numbers, number.IsWithin bound)
    (hsmall : numbers.length * bound < 10 ^ 308) :
    ∃ total, sum numbers = .ok total ∧ total.IsWithin (numbers.length * bound) := by
  have hzero : (Number.int 0).IsWithin 0 := Nat.le_refl 0
  have hsum := exists_foldlM_add_eq_ok hzero h (by rwa [Nat.zero_add])
  rwa [Nat.zero_add] at hsum

/-- No float can hold the mean of a total over so many shares; or not even their number, which a
total that is a float is divided by. -/
def IsMeanBeyond (count : Nat) : Number → Prop
  | .int n => floatLimit * count ≤ n.natAbs
  | .float _ => floatLimit ≤ count

theorem exists_share_eq_ok_iff {total : Number} {count : Nat} (hpos : 0 < count) :
    (∃ x, share total count = .ok x) ↔ ¬ total.IsMeanBeyond count := by
  cases total with
  | int n =>
    rw [IsMeanBeyond, ← infinityBits_le_nearestBits_iff hpos, share, if_neg hpos.ne']
    split_ifs with hlarge <;> simp [hlarge]
  | float x =>
    have hcount : (∃ y, floatOfInteger count = .ok y) ↔ ¬ floatLimit ≤ count := by
      rw [exists_floatOfInteger_eq_ok_iff, Int.natAbs_natCast, Nat.not_le]
    rw [share, if_neg hpos.ne', IsMeanBeyond, ← hcount]
    simp

theorem exists_share_eq_ok {total : Number} {count : Nat} (htotal : total.IsWithin bound)
    (hbound : bound < 10 ^ 308) (hpos : 0 < count) (hcount : count < 10 ^ 308) :
    ∃ x, share total count = .ok x := by
  rw [exists_share_eq_ok_iff hpos]
  cases total with
  | int n =>
    have hn : n.natAbs < floatLimit := htotal.trans_lt (hbound.trans_le ten_pow_le_floatLimit)
    exact Nat.not_le.mpr (hn.trans_le (Nat.le_mul_of_pos_right _ hpos))
  | float x => exact Nat.not_le.mpr (hcount.trans_le ten_pow_le_floatLimit)

end TableTalk.Number
