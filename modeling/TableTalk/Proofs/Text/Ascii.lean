import Mathlib.Data.List.Basic
import TableTalk.Text.Digit

/-! ASCII letters and digits by their codes. -/
namespace TableTalk.Text

variable {c : Char}

theorem isUpper_iff : c.isUpper = true ↔ 65 ≤ c.toNat ∧ c.toNat ≤ 90 := by
  delta Char.isUpper
  simp only [decide_eq_true_eq, UInt32.le_iff_toNat_le]
  rfl

theorem isLower_iff : c.isLower = true ↔ 97 ≤ c.toNat ∧ c.toNat ≤ 122 := by
  delta Char.isLower
  simp only [Bool.and_eq_true, decide_eq_true_eq, UInt32.le_iff_toNat_le]
  rfl

theorem isDigit_iff : c.isDigit = true ↔ 48 ≤ c.toNat ∧ c.toNat ≤ 57 := by
  delta Char.isDigit
  simp only [Bool.and_eq_true, decide_eq_true_eq, UInt32.le_iff_toNat_le]
  rfl

theorem isAlphanum_iff :
    c.isAlphanum = true ↔ (c.isUpper = true ∨ c.isLower = true) ∨ c.isDigit = true := by
  delta Char.isAlphanum Char.isAlpha
  rw [Bool.or_eq_true, Bool.or_eq_true]

/-- What holds of the ten ASCII digits holds of each one. -/
theorem of_isAsciiDigit {p : Char → Prop} (hp : ∀ d < 10, p (Nat.digitChar d))
    (hc : isAsciiDigit c = true) : p c := by
  simp only [isAsciiDigit, Bool.and_eq_true, decide_eq_true_eq] at hc
  have hcode : ∀ d < 10, Nat.digitChar d = Char.ofNat (48 + d) := by decide
  have hchar : Nat.digitChar (c.toNat - 48) = c := by
    rw [hcode _ (by omega), Nat.add_sub_cancel' hc.1, Char.ofNat_toNat]
  rw [← hchar]
  exact hp _ (by omega)

end TableTalk.Text
