import Mathlib
import TableTalk.Proofs.Number.Magnitude

/-! The order of floats. A float is compared by sign, exponent and mantissa, and this is the order
of the values that finite floats stand for; what is not a number is on no side of anything. -/
namespace TableTalk.Number
open Float.Model Float.Model.UnpackedFloat

variable {x y : Float} {m m' : Nat} {e e' : Int}

def isMinus : Sign → Bool
  | .negative => true
  | .positive => false

/-- A float by its parts. Zero has the least exponent. -/
def Binary.ofUnpacked : UnpackedFloat → Binary
  | .notANumber => .notANumber
  | .infinity sign => .infinite (isMinus sign)
  | .zero sign => .finite (isMinus sign) 0 (-1074)
  | .finite sign mantissa exponent _ => .finite (isMinus sign) mantissa exponent

theorem isMinus_ofBitVec (bit : BitVec 1) :
    isMinus (Sign.ofBitVec bit) = decide (bit.toNat = 1) := by
  decide +revert

theorem toNat_unpackSign (pattern : BitVec 64) :
    (@unpackSign Format.binary64 pattern).toNat = pattern.toNat / 2 ^ 63 % 2 ^ 1 := by
  rw [unpackSign_def, BitVec.extractLsb'_toNat, Nat.shiftRight_eq_div_pow]
  rfl

theorem ofUnpacked_unpack (pattern : BitVec 64) :
    .ofUnpacked (unpack Format.binary64 pattern) = Binary.ofBits pattern.toNat := by
  have hlt : pattern.toNat < 2 ^ 64 := pattern.isLt
  have hsign : isMinus (Sign.ofBitVec (@unpackSign Format.binary64 pattern)) =
      decide (2 ^ 63 ≤ pattern.toNat) := by
    rw [isMinus_ofBitVec, toNat_unpackSign, decide_eq_decide]
    omega
  have hlast : @unpackExponent Format.binary64 pattern = -1#11 ↔
      pattern.toNat / 2 ^ 52 % 2 ^ 11 = 2047 := by
    rw [← toNat_unpackExponent, ← BitVec.toNat_inj]
    rfl
  have hfirst : @unpackExponent Format.binary64 pattern = 0#11 ↔
      pattern.toNat / 2 ^ 52 % 2 ^ 11 = 0 := by
    rw [← toNat_unpackExponent, ← BitVec.toNat_inj]
    rfl
  have hzero : @unpackMantissa Format.binary64 pattern = 0#52 ↔ pattern.toNat % 2 ^ 52 = 0 := by
    rw [← toNat_unpackMantissa, ← BitVec.toNat_inj]
    rfl
  rw [UnpackedFloat.unpack]
  simp only [Binary.ofBits, hlast, hfirst, hzero]
  split_ifs with hlargest hwhole hsmall hnothing
  · rw [Binary.ofUnpacked, hsign]
  · rfl
  · rw [Binary.ofUnpacked, hsign, hnothing]
  · rw [Binary.ofUnpacked, hsign, toNat_unpackMantissa, toNat_unpackExponent, hsmall]
    rfl
  · -- The leading bit of the mantissa is not in the pattern.
    have hfull : (1#1).toNat <<< 52 ||| pattern.toNat % 2 ^ 52 = 2 ^ 52 + pattern.toNat % 2 ^ 52 :=
      (Nat.two_pow_add_eq_or_of_lt (Nat.mod_lt _ (Nat.two_pow_pos 52)) 1).symm
    rw [Binary.ofUnpacked, hsign, toNat_unpackExponent, BitVec.toNat_append, toNat_unpackMantissa]
    exact congrArg₂ (Binary.finite _) hfull rfl

theorem ofFloat_eq_ofUnpacked (x : Float) : Binary.ofFloat x = .ofUnpacked x.toModel.unpack :=
  (ofUnpacked_unpack x.toBits.toBitVec).symm

/-- The mantissa has its full width, unless the exponent is the least one. -/
structure IsCanonical (m : Nat) (e : Int) : Prop where
  lt : m < 2 ^ 53
  least : -1074 ≤ e
  full : e = -1074 ∨ 2 ^ 52 ≤ m

theorem isCanonical_ofBits {bits : Nat} {negative : Bool}
    (h : Binary.ofBits bits = .finite negative m e) : IsCanonical m e := by
  have hfraction : bits % 2 ^ 52 < 2 ^ 52 := Nat.mod_lt _ (by decide)
  unfold Binary.ofBits at h
  dsimp only at h
  split_ifs at h
  · injection h with _ hmantissa hexponent
    constructor <;> omega
  · injection h with _ hmantissa hexponent
    constructor <;> omega

theorem IsCanonical.scaled_lt (h : IsCanonical m e) (h' : IsCanonical m' e') (hlt : e < e') :
    (m : ℚ) * 2 ^ e < m' * 2 ^ e' := by
  have hfull : 2 ^ 52 ≤ m' := h'.full.resolve_left (h.least.trans_lt hlt).ne'
  have hmantissa : (m : ℚ) < 2 ^ 53 := by exact_mod_cast h.lt
  have hmantissa' : (2 : ℚ) ^ 52 ≤ m' := by exact_mod_cast hfull
  calc (m : ℚ) * 2 ^ e < 2 ^ 53 * 2 ^ e := by gcongr
    _ = 2 ^ 52 * 2 ^ (e + 1) := by
        rw [zpow_add₀ two_ne_zero]
        ring
    _ ≤ m' * 2 ^ e' := by
        gcongr
        · exact one_le_two
        · exact hlt

/-- Canonical values are in the order of their exponents, and of their mantissas on the same one. -/
theorem IsCanonical.compare_eq (h : IsCanonical m e) (h' : IsCanonical m' e') :
    (compare e e').then (compare m m') = compare ((m : ℚ) * 2 ^ e) (m' * 2 ^ e') := by
  rcases lt_trichotomy e e' with hlt | rfl | hgt
  · rw [compare_lt_iff_lt.mpr hlt, compare_lt_iff_lt.mpr (h.scaled_lt h' hlt)]
    rfl
  · have hmono : StrictMono fun n : Nat => (n : ℚ) * 2 ^ e := fun a b hab => by
      dsimp only
      gcongr
    have hmantissas : cmp ((m : ℚ) * 2 ^ e) (m' * 2 ^ e) = cmp m m' := hmono.cmp_map_eq m m'
    have hsame : compare e e = .eq := compare_eq_iff_eq.mpr rfl
    rw [hsame, Ordering.eq_then, ← cmp_eq_compare, ← cmp_eq_compare, hmantissas]
  · rw [compare_gt_iff_gt.mpr hgt, compare_gt_iff_gt.mpr (h'.scaled_lt h hgt)]
    rfl

/-- A finite float is zero, or a canonical value above or below zero. -/
theorem unpack_cases (h : isFinite x = true) :
    (∃ sign, x.toModel.unpack = .zero sign ∧ floatValue x = 0) ∨
      ∃ m e hpos, IsCanonical m e ∧
        (x.toModel.unpack = .finite .positive m e hpos ∧ floatValue x = m * 2 ^ e ∨
          x.toModel.unpack = .finite .negative m e hpos ∧ floatValue x = -(m * 2 ^ e)) := by
  have hfloat := ofFloat_eq_ofUnpacked x
  rw [isFinite] at h
  rw [floatValue]
  cases hunpack : x.toModel.unpack with
  | notANumber => simp [hfloat, hunpack, Binary.ofUnpacked] at h
  | infinity sign => simp [hfloat, hunpack, Binary.ofUnpacked] at h
  | zero sign => exact .inl ⟨sign, rfl, by simp [hfloat, hunpack, Binary.ofUnpacked, Binary.value]⟩
  | finite sign m e hpos =>
    rw [hunpack] at hfloat
    refine .inr ⟨m, e, hpos, isCanonical_ofBits hfloat, ?_⟩
    rw [hfloat]
    cases sign with
    | positive => exact .inl ⟨rfl, by simp [Binary.ofUnpacked, Binary.value, isMinus]⟩
    | negative => exact .inr ⟨rfl, by simp [Binary.ofUnpacked, Binary.value, isMinus]⟩

theorem compare_unpack (hx : isFinite x = true) (hy : isFinite y = true) :
    x.toModel.unpack.compare y.toModel.unpack = some (compare (floatValue x) (floatValue y)) := by
  have hscaled {m : Nat} (e : Int) (hpos : 0 < m) : 0 < (m : ℚ) * 2 ^ e := by positivity
  have hneg : StrictAnti fun v : ℚ => -v := fun _ _ => neg_lt_neg
  rcases unpack_cases hx with ⟨_, hux, hvx⟩ | ⟨m, e, hm, hcx, ⟨hux, hvx⟩ | ⟨hux, hvx⟩⟩ <;>
    rcases unpack_cases hy with ⟨_, huy, hvy⟩ | ⟨m', e', hm', hcy, ⟨huy, hvy⟩ | ⟨huy, hvy⟩⟩ <;>
    rw [hux, huy, hvx, hvy]
  · rfl
  · rw [compare_lt_iff_lt.mpr (hscaled e' hm')]
    rfl
  · rw [compare_gt_iff_gt.mpr (neg_neg_of_pos (hscaled e' hm'))]
    rfl
  · rw [compare_gt_iff_gt.mpr (hscaled e hm)]
    rfl
  · exact congrArg some (hcx.compare_eq hcy)
  · rw [compare_gt_iff_gt.mpr ((neg_neg_of_pos (hscaled e' hm')).trans (hscaled e hm))]
    rfl
  · rw [compare_lt_iff_lt.mpr (neg_neg_of_pos (hscaled e hm))]
    rfl
  · rw [compare_lt_iff_lt.mpr ((neg_neg_of_pos (hscaled e hm)).trans (hscaled e' hm'))]
    rfl
  · -- Below zero the greater size is the smaller value.
    have hswap : cmp (-((m : ℚ) * 2 ^ e)) (-(m' * 2 ^ e')) = cmp (m' * 2 ^ e' : ℚ) (m * 2 ^ e) :=
      hneg.cmp_map_eq _ _
    rw [← cmp_eq_compare, hswap, ← cmp_swap, cmp_eq_compare, ← hcx.compare_eq hcy]
    rfl

theorem lt_iff_floatValue_lt (hx : isFinite x = true) (hy : isFinite y = true) :
    x < y ↔ floatValue x < floatValue y := by
  have hlt : x < y ↔ (x.toModel.unpack.compare y.toModel.unpack == some .lt) = true :=
    decide_eq_true_iff
  rw [hlt, compare_unpack hx hy, beq_iff_eq, Option.some.injEq, compare_lt_iff_lt]

theorem le_iff_floatValue_le (hx : isFinite x = true) (hy : isFinite y = true) :
    x ≤ y ↔ floatValue x ≤ floatValue y := by
  have hle : x ≤ y ↔ (x.toModel.unpack.compare y.toModel.unpack).any (·.isLE) = true :=
    decide_eq_true_iff
  rw [hle, compare_unpack hx hy, Option.any_some, ← Ordering.ne_gt_iff_isLE]
  exact compare_le_iff_le

theorem isFinite_of_pos_of_le_one (hpos : 0 < x) (hle : x ≤ 1) : isFinite x = true := by
  have hpos : ((0 : Float).toModel.unpack.compare x.toModel.unpack == some .lt) = true :=
    decide_eq_true_iff.mp hpos
  have hle : (x.toModel.unpack.compare (1 : Float).toModel.unpack).any (·.isLE) = true :=
    decide_eq_true_iff.mp hle
  rw [isFinite, ofFloat_eq_ofUnpacked]
  cases hunpack : x.toModel.unpack with
  | notANumber =>
    rw [hunpack] at hpos
    exact absurd hpos (by decide)
  | infinity sign =>
    rw [hunpack] at hpos hle
    cases sign with
    | positive => exact absurd hle (by decide)
    | negative => exact absurd hpos (by decide)
  | zero sign => rfl
  | finite sign m e hm => rfl

theorem floatValue_zero : floatValue 0 = 0 := by
  have hfloat : Binary.ofFloat 0 = .finite false 0 (-1074) := by rfl
  simp [floatValue, hfloat, Binary.value]

theorem floatValue_one : floatValue 1 = 1 := by
  have hfloat : Binary.ofFloat 1 = .finite false (2 ^ 52) (-52) := by rfl
  norm_num [floatValue, hfloat, Binary.value]

/-- What lies between zero and one by the order of floats is a number with a value between them. -/
theorem share_iff :
    0 < x ∧ x ≤ 1 ↔ isFinite x = true ∧ 0 < floatValue x ∧ floatValue x ≤ 1 := by
  have hzero : isFinite 0 = true := by rfl
  have hone : isFinite 1 = true := by rfl
  constructor
  · rintro ⟨hpos, hle⟩
    have hx := isFinite_of_pos_of_le_one hpos hle
    rw [lt_iff_floatValue_lt hzero hx, floatValue_zero] at hpos
    rw [le_iff_floatValue_le hx hone, floatValue_one] at hle
    exact ⟨hx, hpos, hle⟩
  · rintro ⟨hx, hpos, hle⟩
    rw [lt_iff_floatValue_lt hzero hx, floatValue_zero, le_iff_floatValue_le hx hone,
      floatValue_one]
    exact ⟨hpos, hle⟩

end TableTalk.Number
