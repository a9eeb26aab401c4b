import Mathlib
import TableTalk.Proofs.Number.Binary

/-! Floats on the number line. Bit patterns without a sign are in the order of their values, the
steps between neighbours are powers of two, and a pattern is even when the mantissa is. So a finite
float is a sign and a natural number, which may be compared, counted on and halved between. -/
namespace TableTalk.Number
open Float.Model Float.Model.UnpackedFloat

variable {bits scale mantissa : Nat} {negative : Bool} {x : Float}

/-- The value of a pattern without its sign. The patterns from infinity on go on like the finite
ones, in binades of their own. -/
def magnitude (bits : Nat) : ℚ :=
  if bits < 2 ^ 52 then bits * 2 ^ (-1074 : Int)
  else (2 ^ 52 + bits % 2 ^ 52 : Nat) * 2 ^ ((bits / 2 ^ 52 : Nat) - 1075 : Int)

/-- A scale and a mantissa on it. The largest mantissa is the smallest one of the next scale. -/
theorem magnitude_scaled (hmantissa : mantissa ≤ 2 ^ 53) (h : scale = 0 ∨ 2 ^ 52 ≤ mantissa) :
    magnitude (scale * 2 ^ 52 + mantissa) = mantissa * 2 ^ ((scale : Int) - 1074) := by
  unfold magnitude
  split_ifs with hsmall
  · obtain rfl : scale = 0 := by omega
    simp
  · rcases hmantissa.lt_or_eq with hlt | rfl
    · have hrest : 2 ^ 52 + (scale * 2 ^ 52 + mantissa) % 2 ^ 52 = mantissa := by omega
      have hfield : (scale * 2 ^ 52 + mantissa) / 2 ^ 52 = scale + 1 := by omega
      rw [hrest, hfield]
      congr 2
      push_cast
      ring
    · have hrest : 2 ^ 52 + (scale * 2 ^ 52 + 2 ^ 53) % 2 ^ 52 = 2 ^ 52 := by omega
      have hfield : (scale * 2 ^ 52 + 2 ^ 53) / 2 ^ 52 = scale + 2 := by omega
      rw [hrest, hfield]
      have hexponent : (((scale + 2 : Nat) : Int) - 1075) = 1 + ((scale : Int) - 1074) := by
        push_cast
        ring
      rw [hexponent, zpow_add₀ two_ne_zero]
      push_cast
      ring

theorem exists_scale (bits : Nat) : ∃ scale mantissa, bits = scale * 2 ^ 52 + mantissa ∧
    mantissa < 2 ^ 53 ∧ (scale = 0 ∨ 2 ^ 52 ≤ mantissa) := by
  by_cases h : bits < 2 ^ 52
  · exact ⟨0, bits, by omega, by omega, .inl rfl⟩
  · exact ⟨bits / 2 ^ 52 - 1, 2 ^ 52 + bits % 2 ^ 52, by omega, by omega, .inr (by omega)⟩

theorem magnitude_strictMono : StrictMono magnitude := by
  apply strictMono_nat_of_lt_succ
  intro bits
  obtain ⟨scale, mantissa, rfl, hlt, hscale⟩ := exists_scale bits
  rw [Nat.add_assoc, magnitude_scaled hlt.le hscale, magnitude_scaled hlt (by omega)]
  gcongr
  omega

@[simp] theorem magnitude_zero : magnitude 0 = 0 := by
  simp [magnitude]

theorem magnitude_nonneg (bits : Nat) : 0 ≤ magnitude bits := by
  rw [← magnitude_zero]
  exact magnitude_strictMono.monotone (Nat.zero_le bits)

/-- Natural numbers within the limit of the mantissa, times a power of two, are values of
patterns. -/
theorem exists_magnitude_eq {n : Nat} (h : n ≤ 2 ^ 53) (power : Nat) :
    ∃ bits, magnitude bits = n * 2 ^ power := by
  by_cases hsmall : n = 0
  · exact ⟨0, by simp [hsmall]⟩
  -- The number is shifted to the full width of the mantissa.
  · obtain ⟨shift, hshift, hfits, hfull⟩ :
        ∃ shift, shift ≤ 53 ∧ n * 2 ^ shift ≤ 2 ^ 53 ∧ 2 ^ 52 ≤ n * 2 ^ shift := by
      have hlower := Nat.log2_self_le hsmall
      have hupper : n < 2 ^ (n.log2 + 1) := Nat.lt_log2_self
      rcases h.lt_or_eq with hlt | rfl
      · have hlog : n.log2 ≤ 52 := Nat.lt_succ_iff.mp ((Nat.log2_lt hsmall).mpr hlt)
        obtain ⟨shift, hshift⟩ := Nat.exists_eq_add_of_le hlog
        refine ⟨shift, by omega, ?_, ?_⟩
        · calc n * 2 ^ shift ≤ 2 ^ (n.log2 + 1) * 2 ^ shift :=
                Nat.mul_le_mul_right _ hupper.le
            _ = 2 ^ 53 := by rw [← pow_add]; congr 1; omega
        · calc 2 ^ 52 = 2 ^ n.log2 * 2 ^ shift := by rw [← pow_add]; congr 1
            _ ≤ n * 2 ^ shift := Nat.mul_le_mul_right _ hlower
      · exact ⟨0, by omega, by omega, by omega⟩
    refine ⟨(1074 - shift + power) * 2 ^ 52 + n * 2 ^ shift, ?_⟩
    rw [magnitude_scaled hfits (.inr hfull)]
    have hexponent : ((1074 - shift + power : Nat) : Int) - 1074 = power - shift := by omega
    rw [hexponent, zpow_sub₀ two_ne_zero, zpow_natCast, zpow_natCast]
    push_cast
    field_simp

theorem toNat_unpackExponent (pattern : BitVec 64) :
    (@unpackExponent Format.binary64 pattern).toNat = pattern.toNat / 2 ^ 52 % 2 ^ 11 := by
  rw [unpackExponent_def, BitVec.extractLsb'_toNat, Nat.shiftRight_eq_div_pow]

theorem toNat_unpackMantissa (pattern : BitVec 64) :
    (@unpackMantissa Format.binary64 pattern).toNat = pattern.toNat % 2 ^ 52 := by
  rw [unpackMantissa_def, BitVec.extractLsb'_toNat, Nat.shiftRight_zero]

theorem isNaNBits_eq_false {pattern : BitVec 64} (h : pattern.toNat % 2 ^ 63 ≤ infinityBits) :
    @isNaNBits Format.binary64 pattern = false := by
  rw [isNaNBits, decide_eq_false_iff_not, not_and_not_right]
  intro hones
  have hfield : pattern.toNat / 2 ^ 52 % 2 ^ 11 = 2047 :=
    (toNat_unpackExponent pattern).symm.trans ((congrArg BitVec.toNat hones).trans (by decide))
  have hlt : pattern.toNat < 2 ^ 64 := pattern.isLt
  apply BitVec.eq_of_toNat_eq
  rw [toNat_unpackMantissa]
  change pattern.toNat % 2 ^ 52 = 0
  simp only [infinityBits] at h
  omega

/-- A pattern is kept by its float, unless it is one of the many that are not a number. -/
theorem toNat_toBits_ofBits {n : Nat} (hlt : n < 2 ^ 64) (h : n % 2 ^ 63 ≤ infinityBits) :
    (Float.ofBits (UInt64.ofNat n)).toBits.toNat = n := by
  have hpack : (Float.ofBits (UInt64.ofNat n)).toBits.toBitVec =
      (unpack Format.binary64 (BitVec.ofNat 64 n)).pack Format.binary64 := rfl
  have hnat : (BitVec.ofNat 64 n).toNat = n := by rw [BitVec.toNat_ofNat, Nat.mod_eq_of_lt hlt]
  rw [pack_unpack, isNaNBits_eq_false (by rwa [hnat]), if_neg Bool.false_ne_true] at hpack
  rw [← UInt64.toNat_toBitVec, hpack, hnat]

def signBit (negative : Bool) : Nat := if negative then 2 ^ 63 else 0

theorem ofFloat_floatOfBits_eq (negative : Bool) (bits : Nat) :
    Binary.ofFloat (floatOfBits negative bits) =
      Binary.ofBits (signBit negative + min bits infinityBits) := by
  have hsign : signBit negative = 0 ∨ signBit negative = 2 ^ 63 := by
    cases negative <;> simp [signBit]
  have hmin : min bits infinityBits ≤ infinityBits := min_le_right _ _
  have hbits : infinityBits < 2 ^ 63 := by decide
  rw [Binary.ofFloat, floatOfBits, toNat_toBits_ofBits]
  · rfl
  · change signBit negative + min bits infinityBits < 2 ^ 64
    omega
  · change (signBit negative + min bits infinityBits) % 2 ^ 63 ≤ infinityBits
    omega

/-- A float of a finite pattern has its sign and its value, and an even mantissa exactly if the
pattern is even. -/
theorem ofFloat_floatOfBits (negative : Bool) (h : bits < infinityBits) :
    ∃ mantissa exponent, Binary.ofFloat (floatOfBits negative bits) =
        .finite negative mantissa exponent ∧
      (mantissa : ℚ) * 2 ^ exponent = magnitude bits ∧ (Even mantissa ↔ Even bits) := by
  have hlt : bits < 2047 * 2 ^ 52 := h
  have hsign : decide (2 ^ 63 ≤ signBit negative + bits) = negative := by
    rw [signBit]
    cases negative with
    | false => exact decide_eq_false (by simp only [Bool.false_eq_true, if_false]; omega)
    | true => exact decide_eq_true (by simp only [if_true]; omega)
  have hfield : (signBit negative + bits) / 2 ^ 52 % 2 ^ 11 = bits / 2 ^ 52 := by
    rw [signBit]
    split_ifs <;> omega
  have hfraction : (signBit negative + bits) % 2 ^ 52 = bits % 2 ^ 52 := by
    rw [signBit]
    split_ifs <;> omega
  have hlast : bits / 2 ^ 52 ≠ 2047 := by omega
  simp only [ofFloat_floatOfBits_eq, min_eq_left h.le, Binary.ofBits, hsign, hfield, hfraction,
    hlast, if_false]
  by_cases hsmall : bits < 2 ^ 52
  · have hzero : bits / 2 ^ 52 = 0 := by omega
    refine ⟨bits % 2 ^ 52, -1074, by rw [if_pos hzero], ?_, ?_⟩
    · rw [magnitude, if_pos hsmall, Nat.mod_eq_of_lt hsmall]
    · rw [Nat.mod_eq_of_lt hsmall]
  · have hzero : bits / 2 ^ 52 ≠ 0 := by omega
    refine ⟨2 ^ 52 + bits % 2 ^ 52, (bits / 2 ^ 52 : Nat) - 1075, by rw [if_neg hzero], ?_, ?_⟩
    · rw [magnitude, if_neg hsmall]
    · rw [Nat.even_iff, Nat.even_iff]
      omega

theorem ofFloat_floatOfBits_infinite (negative : Bool) (h : infinityBits ≤ bits) :
    Binary.ofFloat (floatOfBits negative bits) = .infinite negative := by
  rw [ofFloat_floatOfBits_eq, min_eq_right h]
  cases negative <;> rfl

theorem isFinite_floatOfBits (negative : Bool) (bits : Nat) :
    isFinite (floatOfBits negative bits) = decide (bits < infinityBits) := by
  rcases Nat.lt_or_ge bits infinityBits with hlt | hge
  · obtain ⟨mantissa, exponent, hfloat, -⟩ := ofFloat_floatOfBits negative hlt
    simp [isFinite, hfloat, hlt]
  · simp [isFinite, ofFloat_floatOfBits_infinite negative hge, Nat.not_lt.mpr hge]

theorem exists_floatOfBits (h : isFinite x = true) :
    ∃ negative bits, bits < infinityBits ∧ x = floatOfBits negative bits := by
  have hlt : x.toBits.toNat < 2 ^ 64 := x.toBits.toNat_lt
  have hfield : x.toBits.toNat / 2 ^ 52 % 2 ^ 11 ≠ 2047 := by
    intro hfield
    rw [isFinite, Binary.ofFloat, Binary.ofBits, if_pos hfield] at h
    split_ifs at h
  have hbits : x.toBits.toNat % 2 ^ 63 < infinityBits := by
    simp only [infinityBits]
    omega
  have hsplit : (if decide (2 ^ 63 ≤ x.toBits.toNat) then 2 ^ 63 else 0) +
      x.toBits.toNat % 2 ^ 63 = x.toBits.toNat := by
    simp only [decide_eq_true_eq]
    split_ifs <;> omega
  refine ⟨decide (2 ^ 63 ≤ x.toBits.toNat), x.toBits.toNat % 2 ^ 63, hbits, ?_⟩
  have hpattern : x = Float.ofBits (UInt64.ofNat x.toBits.toNat) := by
    rw [UInt64.ofNat_toNat, Float.ofBits_toBits]
  rw [floatOfBits, min_eq_left hbits.le]
  exact hpattern.trans (congrArg (fun n => Float.ofBits (UInt64.ofNat n)) hsplit.symm)

/-- The value of a finite float. -/
def Binary.value : Binary → ℚ
  | .finite negative mantissa exponent => (if negative then -1 else 1) * (mantissa * 2 ^ exponent)
  | _ => 0

def floatValue (x : Float) : ℚ := (Binary.ofFloat x).value

theorem floatValue_floatOfBits (negative : Bool) (h : bits < infinityBits) :
    floatValue (floatOfBits negative bits) = (if negative then -1 else 1) * magnitude bits := by
  obtain ⟨mantissa, exponent, hfloat, hvalue, -⟩ := ofFloat_floatOfBits negative h
  rw [floatValue, hfloat, Binary.value, hvalue]

end TableTalk.Number
