import TableTalk.Cell
import TableTalk.Proofs.Number.Literal
import TableTalk.Proofs.Number.NearestFloat
import TableTalk.Proofs.Text.Symbols

/-! Whole numbers as they are shown. Integers and floats without a fraction show the decimal digits
of their value, which are read back as an integer of the same value: so they show alike exactly if
they are equal, whatever they are held in and however large they are. -/
namespace TableTalk
open TableTalk.Text TableTalk.Number

namespace Number

variable {x : Float} {n : Int} {negative : Bool} {mantissa : Nat} {exponent : Int}

theorem signed_eq_iff {size : Nat} : signed negative size = n ↔ withValue negative size = n := by
  have hcast : ((signed negative size : Int) : ℚ) = withValue negative size := by
    cases negative <;> simp [signed, withValue]
  rw [← hcast, Int.cast_inj]

/-- A mantissa and an exponent make an integer exactly if this is their value. -/
theorem Binary.toInteger?_finite_eq_some_iff :
    (Binary.finite negative mantissa exponent).toInteger? = some n ↔
      withValue negative (mantissa * 2 ^ exponent) = n := by
  rw [toInteger?]
  split_ifs with hnonneg hwhole
  · obtain ⟨k, rfl⟩ := Int.eq_ofNat_of_zero_le hnonneg
    rw [Option.some.injEq, signed_eq_iff, Int.toNat_natCast, zpow_natCast]
    push_cast
    rfl
  · obtain ⟨k, rfl⟩ : ∃ k : Nat, exponent = -k := ⟨(-exponent).toNat, by omega⟩
    rw [neg_neg, Int.toNat_natCast] at hwhole ⊢
    obtain ⟨quotient, rfl⟩ := Nat.dvd_of_mod_eq_zero hwhole
    have hvalue : ((2 ^ k * quotient : Nat) : ℚ) * 2 ^ (-k : Int) = quotient := by
      rw [zpow_neg, zpow_natCast]
      push_cast
      field_simp
    rw [Nat.mul_div_cancel_left _ (Nat.two_pow_pos k), Option.some.injEq, signed_eq_iff, hvalue]
  · obtain ⟨k, rfl⟩ : ∃ k : Nat, exponent = -k := ⟨(-exponent).toNat, by omega⟩
    rw [neg_neg, Int.toNat_natCast] at hwhole
    refine iff_of_false (by simp) fun hvalue => hwhole ?_
    -- A value without a fraction is the mantissa divided by the power.
    have hsize : (mantissa : ℚ) * 2 ^ (-k : Int) = n.natAbs := by
      have habs := congrArg abs hvalue
      rwa [abs_withValue (by positivity), ← Int.cast_abs, ← Int.natCast_natAbs, Int.cast_natCast]
        at habs
    rw [zpow_neg, zpow_natCast, mul_inv_eq_iff_eq_mul₀ (by positivity)] at hsize
    have hmantissa : mantissa = n.natAbs * 2 ^ k := by exact_mod_cast hsize
    rw [hmantissa, Nat.mul_mod_left]

theorem toInteger?_eq_some_iff :
    (Binary.ofFloat x).toInteger? = some n ↔ isFinite x = true ∧ floatValue x = n := by
  rw [isFinite, floatValue]
  cases Binary.ofFloat x with
  | notANumber | infinite => simp [Binary.toInteger?]
  | finite negative mantissa exponent =>
    rw [Binary.toInteger?_finite_eq_some_iff]
    exact (and_iff_right rfl).symm

/-- The exact value of a number. -/
def toRat : Number → ℚ
  | .int n => n
  | .float x => floatValue x

/-- An integer with no more digits than can be read, or a float without a fraction. -/
def IsWhole : Number → Prop
  | .int n => (Nat.toDigits 10 n.natAbs).length ≤ digitLimit
  | .float x => isFinite x = true ∧ ∃ n : Int, floatValue x = n

theorem isWhole_float_iff :
    (Number.float x).IsWhole ↔ (Binary.ofFloat x).toInteger?.isSome = true := by
  simp only [IsWhole, Option.isSome_iff_exists, toInteger?_eq_some_iff, exists_and_left]

instance : DecidablePred IsWhole
  | .int n => inferInstanceAs (Decidable ((Nat.toDigits 10 n.natAbs).length ≤ digitLimit))
  | .float _ => decidable_of_iff _ isWhole_float_iff.symm

variable {a b : Number}

/-- A whole number shows the digits of its value. -/
theorem IsWhole.exists_renderText (h : a.IsWhole) : ∃ n : Int, a.toRat = n ∧
    n.natAbs < 10 ^ digitLimit ∧ a.toCell.renderText = .ok (symbols (integerText n)) := by
  cases a with
  | int n =>
    have hlimit : n.natAbs < 10 ^ digitLimit :=
      (Nat.length_toDigits_le_iff (by decide) (by decide)).mp h
    refine ⟨n, rfl, hlimit, ?_⟩
    simp only [toCell, Cell.renderText, Cell.plainText, Cell.itemText, writeInteger_of_lt hlimit]
    rfl
  | float x =>
    obtain ⟨hfinite, n, hvalue⟩ := h
    have hwhole := toInteger?_eq_some_iff.mpr ⟨hfinite, hvalue⟩
    have hlimit := natAbs_lt_limit_of_toInteger? hwhole
    have hnumber : isNaN x = false := by
      rw [isFinite] at hfinite
      rw [isNaN]
      cases hfloat : Binary.ofFloat x <;> simp_all
    refine ⟨n, hvalue, hlimit, ?_⟩
    simp only [toCell, Cell.renderText, hnumber, Bool.false_eq_true, if_false, hwhole,
      writeInteger_of_lt hlimit]
    rfl

/-- What a whole number shows is read back as an integer of the same value, and whole numbers show
the same exactly if they have the same value. -/
theorem renderText_whole (ha : a.IsWhole) (hb : b.IsWhole) :
    (∃ text n, a.toCell.renderText = .ok (symbols text) ∧
      (Cell.text text).toNumber? = .ok (some (.int n)) ∧ (n : ℚ) = a.toRat) ∧
    (a.toCell.renderText = b.toCell.renderText ↔ a.toRat = b.toRat) := by
  obtain ⟨m, hm, hlimit, htext⟩ := ha.exists_renderText
  obtain ⟨n, hn, -, hother⟩ := hb.exists_renderText
  constructor
  · refine ⟨integerText m, m, htext, ?_, hm.symm⟩
    rw [Cell.toNumber?, ofText?_integerText hlimit]
  · rw [htext, hother, hm, hn, Except.ok.injEq, symbols_injective.eq_iff,
      integerText_injective.eq_iff, Int.cast_inj]

/-- A large float shows the integer that it is and not the power of ten that it was written as, and
nothing is shown of the sign of a zero. -/
theorem renderText_whole_large :
    (Number.int 99999999999999991611392).IsWhole ∧ (Number.float 1e23).IsWhole ∧
      (Cell.float 1e23).renderText = (Cell.int 99999999999999991611392).renderText ∧
      (Cell.float 1e23).renderText ≠ (Cell.int (10 ^ 23)).renderText ∧
      (Cell.float (-0.0)).renderText = (Cell.int 0).renderText := by
  have hint : (Number.int 99999999999999991611392).IsWhole := by decide +kernel
  have hfloat : (Number.float 1e23).IsWhole := by decide +kernel
  have hpower : (Number.int (10 ^ 23)).IsWhole := by decide +kernel
  have hnothing : (Number.int 0).IsWhole := by decide +kernel
  have hminus : (Number.float (-0.0)).IsWhole := by decide +kernel
  have hvalue : (Number.float 1e23).toRat = (99999999999999991611392 : Int) :=
    (toInteger?_eq_some_iff.mp (by decide +kernel)).2
  have hzero : (Number.float (-0.0)).toRat = (0 : Int) :=
    (toInteger?_eq_some_iff.mp (by decide +kernel)).2
  refine ⟨hint, hfloat, (renderText_whole hfloat hint).2.mpr hvalue, ?_,
    (renderText_whole hminus hnothing).2.mpr hzero⟩
  intro h
  have hsame := (renderText_whole hfloat hpower).2.mp h
  rw [hvalue, toRat, Int.cast_inj] at hsame
  exact absurd hsame (by decide)

end Number
end TableTalk
