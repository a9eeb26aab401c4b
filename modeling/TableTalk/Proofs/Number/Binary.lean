import Mathlib.Algebra.Order.Field.Power
import Mathlib.Algebra.Order.Field.Rat
import Mathlib.Tactic.Linarith
import Mathlib.Tactic.Ring
import TableTalk.Number.Numeral
import TableTalk.Proofs.Number.Decimal

/-! The range of floats. The logarithm of a quotient is exact, so that it tells the binade in which
the quotient lies, and a finite float that is whole is below two to the power of 1024. -/
namespace TableTalk.Number

variable {p q : Nat}

/-- Comparing a quotient with a power of two needs natural numbers only. -/
theorem scaled_le_iff (p q : Nat) (k : Int) :
    (if 0 ≤ k then q * 2 ^ k.toNat ≤ p else q ≤ p * 2 ^ (-k).toNat) ↔ (q : ℚ) * 2 ^ k ≤ p := by
  obtain ⟨n, rfl | rfl⟩ := k.eq_nat_or_neg
  · rw [if_pos (Int.natCast_nonneg n), Int.toNat_natCast, zpow_natCast]
    exact_mod_cast Iff.rfl
  · by_cases hn : n = 0
    · subst hn
      simp
    · rw [if_neg (by omega), neg_neg, Int.toNat_natCast, zpow_neg, zpow_natCast,
        mul_inv_le_iff₀ (by positivity)]
      exact_mod_cast Iff.rfl

theorem cast_lt_two_zpow (n : Nat) : (n : ℚ) < 2 ^ ((n.log2 : Int) + 1) := by
  have h : n < 2 ^ (n.log2 + 1) := Nat.lt_log2_self
  exact_mod_cast h

theorem two_zpow_le_cast {n : Nat} (h : 0 < n) : (2 : ℚ) ^ (n.log2 : Int) ≤ n := by
  have h : 2 ^ n.log2 ≤ n := Nat.log2_self_le h.ne'
  exact_mod_cast h

theorem floorLog2_cases (p q : Nat) :
    (floorLog2 p q = p.log2 - q.log2 ∧ (q : ℚ) * 2 ^ floorLog2 p q ≤ p) ∨
      (floorLog2 p q = p.log2 - q.log2 - 1 ∧ (p : ℚ) < q * 2 ^ (floorLog2 p q + 1)) := by
  have hscaled := scaled_le_iff p q (p.log2 - q.log2)
  by_cases h : (q : ℚ) * 2 ^ ((p.log2 : Int) - q.log2) ≤ p
  · have hfloor : floorLog2 p q = p.log2 - q.log2 := if_pos (hscaled.mpr h)
    exact .inl ⟨hfloor, hfloor ▸ h⟩
  · have hfloor : floorLog2 p q = p.log2 - q.log2 - 1 := if_neg (mt hscaled.mp h)
    refine .inr ⟨hfloor, ?_⟩
    rw [hfloor, sub_add_cancel]
    exact not_le.mp h

theorem mul_two_zpow_floorLog2_le (hp : 0 < p) : (q : ℚ) * 2 ^ floorLog2 p q ≤ p := by
  rcases floorLog2_cases p q with ⟨-, hle⟩ | ⟨hk, -⟩
  · exact hle
  · calc (q : ℚ) * 2 ^ floorLog2 p q
        ≤ 2 ^ ((q.log2 : Int) + 1) * 2 ^ floorLog2 p q := by
          gcongr
          exact (cast_lt_two_zpow q).le
      _ = 2 ^ (p.log2 : Int) := by
          rw [← zpow_add₀ two_ne_zero, hk]
          congr 1
          ring
      _ ≤ p := two_zpow_le_cast hp

theorem lt_mul_two_zpow_floorLog2 (hq : 0 < q) : (p : ℚ) < q * 2 ^ (floorLog2 p q + 1) := by
  rcases floorLog2_cases p q with ⟨hk, -⟩ | ⟨-, hlt⟩
  · calc (p : ℚ) < 2 ^ ((p.log2 : Int) + 1) := cast_lt_two_zpow p
      _ = 2 ^ (q.log2 : Int) * 2 ^ (floorLog2 p q + 1) := by
          rw [← zpow_add₀ two_ne_zero, hk]
          congr 1
          ring
      _ ≤ q * 2 ^ (floorLog2 p q + 1) := by
          gcongr
          exact two_zpow_le_cast hq
  · exact hlt

/-- Half a unit above the largest finite float. -/
def floatLimit : Nat := (2 ^ 54 - 1) * 2 ^ 970

theorem ten_pow_le_floatLimit : 10 ^ 308 ≤ floatLimit := by decide +kernel

theorem Binary.ofBits_finite {bits mantissa : Nat} {negative : Bool} {exponent : Int}
    (h : Binary.ofBits bits = .finite negative mantissa exponent) :
    mantissa < 2 ^ 53 ∧ exponent ≤ 971 := by
  unfold Binary.ofBits at h
  have hfraction : bits % 2 ^ 52 < 2 ^ 52 := Nat.mod_lt _ (by decide)
  have hfield : bits / 2 ^ 52 % 2 ^ 11 < 2048 := Nat.mod_lt _ (by decide)
  dsimp only at h
  split_ifs at h with hlast hzero hsmall
  · injection h with _ hmantissa hexponent
    omega
  · injection h with _ hmantissa hexponent
    omega

/-- The size of a whole float, by the bits of the mantissa and the greatest exponent. -/
theorem natAbs_lt_of_toInteger? {x : Float} {n : Int}
    (h : (Binary.ofFloat x).toInteger? = some n) : n.natAbs < 2 ^ (53 + 971) := by
  cases hbinary : Binary.ofFloat x with
  | notANumber | infinite => simp [hbinary, Binary.toInteger?] at h
  | finite negative mantissa exponent =>
    obtain ⟨hmantissa, hexponent⟩ := Binary.ofBits_finite hbinary
    simp only [hbinary, Binary.toInteger?] at h
    split_ifs at h with hpositive hwhole
    · cases h
      rw [natAbs_signed]
      calc mantissa * 2 ^ exponent.toNat < 2 ^ 53 * 2 ^ exponent.toNat :=
            Nat.mul_lt_mul_of_pos_right hmantissa (by positivity)
        _ ≤ 2 ^ 53 * 2 ^ 971 := by
            gcongr
            · exact one_le_two
            · omega
        _ = 2 ^ (53 + 971) := (pow_add 2 53 971).symm
    · cases h
      rw [natAbs_signed]
      calc mantissa / 2 ^ (-exponent).toNat ≤ mantissa := Nat.div_le_self _ _
        _ < 2 ^ 53 := hmantissa
        _ ≤ 2 ^ 53 * 2 ^ 971 := Nat.le_mul_of_pos_right _ (by positivity)
        _ = 2 ^ (53 + 971) := (pow_add 2 53 971).symm

/-- Every whole float has few enough digits to be written and read. -/
theorem natAbs_lt_limit_of_toInteger? {x : Float} {n : Int}
    (h : (Binary.ofFloat x).toInteger? = some n) : n.natAbs < 10 ^ digitLimit := by
  have hpower : 2 ^ (53 + 971) ≤ 10 ^ digitLimit := by decide +kernel
  exact (natAbs_lt_of_toInteger? h).trans_le hpower

end TableTalk.Number
