import Mathlib.Data.List.Basic
import TableTalk.History.Clock

/-! Clocks that give every entry an id of its own. Serial numbers do, because a number can be read
back from its digits, whatever zeros stand before them. -/
namespace TableTalk.Clock

/-- No two entries get the same id. -/
def NeverRepeats (clock : Clock) : Prop :=
  ∀ m n, 0 < m → 0 < n → (clock m).id = (clock n).id → m = n

/-- The digits up to fifteen, by their values. -/
def hexDigits : List Char := (List.range 16).map Nat.digitChar

def hexValue (s : List Char) : Nat := s.foldl (fun n c => 16 * n + hexDigits.idxOf c) 0

theorem idxOf_digitChar {n : Nat} (h : n < 16) : hexDigits.idxOf n.digitChar = n := by
  have hall : ∀ m < 16, hexDigits.idxOf (Nat.digitChar m) = m := by decide
  exact hall n h

theorem hexValue_toDigits (n : Nat) : hexValue (Nat.toDigits 16 n) = n := by
  induction n using Nat.strongRecOn with
  | ind n ih =>
    by_cases hsmall : n < 16
    · rw [Nat.toDigits_of_lt_base hsmall, hexValue, List.foldl_cons, List.foldl_nil,
        idxOf_digitChar hsmall, Nat.mul_zero, Nat.zero_add]
    · have hshorter := ih (n / 16) (Nat.div_lt_self (by omega) (by decide))
      rw [Nat.toDigits_of_base_le (by decide) (by omega), hexValue, List.foldl_append, ← hexValue,
        hshorter, List.foldl_cons, List.foldl_nil, idxOf_digitChar (Nat.mod_lt n (by decide))]
      exact Nat.div_add_mod n 16

theorem hexValue_padLeft (width : Nat) (s : List Char) :
    hexValue (Number.padLeft width '0' s) = hexValue s := by
  have hzeros (count : Nat) : hexValue (List.replicate count '0') = 0 := by
    induction count with
    | zero => rfl
    | succ count ih => rw [List.replicate_succ', hexValue, List.foldl_append, ← hexValue, ih]; decide
  rw [Number.padLeft, hexValue, List.foldl_append, ← hexValue, hzeros, ← hexValue]

theorem serialId_injective : Function.Injective serialId := by
  intro m n h
  have hdigits := congrArg (fun id => hexValue id.toList) h
  simpa only [serialId, String.toList_ofList, hexValue_padLeft, hexValue_toDigits] using hdigits

/-- Serial numbers never repeat, at whatever time entries are made. -/
theorem steady_neverRepeats (midnight : Calendar.Timestamp) (step : Nat) :
    (steady midnight step).NeverRepeats :=
  fun _ _ _ _ h => serialId_injective h

end TableTalk.Clock
