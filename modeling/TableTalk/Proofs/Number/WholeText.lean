import TableTalk.Proofs.Number.Grammar
import TableTalk.Proofs.Number.Shortest

/-! The texts of integers and of whole floats, and the values they denote. A whole float is written
as the shortest number that is rounded to it, positional or with an exponent, so that an integer is
told by the text of its float exactly if it is this number. -/
namespace TableTalk.Number
open TableTalk.Text

variable {digits further : List Char} {c k n : Nat} {negative : Bool}

/-- A text denotes a value if it is that of a decimal with this value. -/
def Denotes (text : List Char) (value : ℚ) : Prop :=
  ∃ decimal : Decimal, decimal.text = text ∧ decimal.value = value

/-- The value of a decimal is told by its text. -/
theorem Decimal.value_eq_of_text_eq {decimal other : Decimal} (h : decimal.text = other.text) :
    decimal.value = other.value := by
  have hread := congrArg readNumeral? h
  rw [readNumeral?_text, readNumeral?_text, Option.some.injEq, numeral, numeral,
    Numeral.mk.injEq] at hread
  obtain ⟨hnegative, hdigits, hscale⟩ := hread
  rw [value, value, hnegative, hscale, ← ofDigits_filterMap, ← ofDigits_filterMap, hdigits]

theorem Decimal.denotes_text_iff (decimal : Decimal) (value : ℚ) :
    Denotes decimal.text value ↔ decimal.value = value := by
  constructor
  · rintro ⟨other, htext, rfl⟩
    exact value_eq_of_text_eq htext.symm
  · exact fun h => ⟨decimal, rfl, h⟩

/-- Digits further on weigh less. -/
theorem digitsValue_append (digits : List Char) (h : ∀ c ∈ further, isDigit c = true) :
    digitsValue (digits ++ further) =
      digitsValue digits * 10 ^ further.length + digitsValue further := by
  have hlength : (further.reverse.filterMap digitValue?).length = further.length := by
    rw [length_filterMap_digitValue? (by simpa using h), List.length_reverse]
  simp only [digitsValue, List.reverse_append, List.filterMap_append, Nat.ofDigits_append, hlength]
  ring

theorem digitsValue_zeros (count : Nat) : digitsValue (List.replicate count '0') = 0 := by
  have hzero : digitValue? '0' = some 0 := by decide
  simp [digitsValue, List.filterMap_replicate_of_some hzero, Nat.ofDigits_replicate_zero]

theorem isDigit_zeros (count : Nat) : ∀ c ∈ List.replicate count '0', isDigit c = true := by
  intro c hc
  rw [List.eq_of_mem_replicate hc]
  decide

theorem digitsValue_append_zeros (digits : List Char) (count : Nat) :
    digitsValue (digits ++ List.replicate count '0') = digitsValue digits * 10 ^ count := by
  rw [digitsValue_append digits (isDigit_zeros count), digitsValue_zeros, List.length_replicate,
    Nat.add_zero]

theorem digitsValue_toDigits (n : Nat) : digitsValue (Nat.toDigits 10 n) = n := by
  have hvalues : (Nat.toDigits 10 n).filterMap digitValue? =
      (Nat.toDigits 10 n).map fun c => c.toNat - 48 := by
    rw [← List.filterMap_eq_map]
    exact List.filterMap_congr fun c hc =>
      digitValue?_of_isAsciiDigit (isAsciiDigit_of_mem_toDigits c hc)
  rw [← ofDigits_filterMap, hvalues, ofDigits_toDigits]

theorem isDigit_of_mem_toDigits (n : Nat) : ∀ c ∈ Nat.toDigits 10 n, isDigit c = true :=
  fun c hc => isDigit_of_isAsciiDigit (isAsciiDigit_of_mem_toDigits c hc)

/-- Digits that were stripped of the zeros at their end. -/
theorem exists_zeros (s : List Char) :
    ∃ count, s = (s.reverse.dropWhile (· == '0')).reverse ++ List.replicate count '0' := by
  refine ⟨(s.reverse.takeWhile (· == '0')).length, ?_⟩
  have hzeros : (s.reverse.takeWhile (· == '0')).reverse =
      List.replicate (s.reverse.takeWhile (· == '0')).length '0' := by
    rw [List.eq_replicate_iff]
    refine ⟨List.length_reverse, fun c hc => ?_⟩
    simpa using List.mem_takeWhile_imp (List.mem_reverse.mp hc)
  rw [← hzeros, ← List.reverse_append, List.takeWhile_append_dropWhile, List.reverse_reverse]

/-- A sign put before a decimal that has none. -/
def Decimal.withSign (decimal : Decimal) (negative : Bool) : Decimal :=
  { decimal with
    sign := if negative then ['-'] else []
    sign_mem := by cases negative <;> decide }

/-- A decimal without a sign. -/
structure IsUnsigned (decimal : Decimal) (text : List Char) (value : ℚ) : Prop where
  sign : decimal.sign = []
  text : decimal.text = text
  value : decimal.value = value

theorem IsUnsigned.withSign {decimal : Decimal} {text : List Char} {value : ℚ}
    (h : IsUnsigned decimal text value) (negative : Bool) :
    (decimal.withSign negative).text = (if negative then '-' :: text else text) ∧
      (decimal.withSign negative).value = withValue negative value := by
  obtain ⟨hsign, rfl, rfl⟩ := h
  have htext : decimal.text = decimal.whole ++
      (Decimal.pointText decimal.fraction ++ Decimal.exponentText decimal.exponent) := by
    rw [Decimal.text, hsign, List.nil_append]
  have hvalue : decimal.value = digitsValue decimal.digits * 10 ^ decimal.scale := by
    simp [Decimal.value, Decimal.negative, hsign, Number.withValue]
  rw [htext, hvalue]
  constructor
  · cases negative <;> rfl
  · cases negative <;> rfl

/-- The power of an exponent as it is written, with a sign and two digits at least. -/
def writtenPower (power : Nat) : Literal where
  sign := ['+']
  digits := padLeft 2 '0' (Nat.toDigits 10 power)
  sign_mem := by decide
  isDigit_of_mem c hc := by
    rcases List.mem_append.mp hc with hc | hc
    · exact isDigit_zeros _ c hc
    · exact isDigit_of_mem_toDigits power c hc
  digits_ne_nil := List.append_ne_nil_of_right_ne_nil _ Nat.toDigits_ne_nil

theorem value_writtenPower (power : Nat) : (writtenPower power).value = power := by
  have hdigits : digitsValue (padLeft 2 '0' (Nat.toDigits 10 power)) = power := by
    rw [padLeft, digitsValue_append _ (isDigit_of_mem_toDigits power), digitsValue_zeros,
      Nat.zero_mul, Nat.zero_add, digitsValue_toDigits]
  have hsign : ¬ ['+'] = ['-'] := by decide
  rw [Literal.value, writtenPower, if_neg hsign, hdigits]

section Forms
variable (hdigits : ∀ c ∈ digits, isDigit c = true) (hne : digits ≠ []) {point : Nat}
  (hpoint : digits.length ≤ point)
include hdigits hne hpoint

theorem exists_positional : ∃ decimal, IsUnsigned decimal (positional digits point)
    (digitsValue digits * 10 ^ (point - digits.length) : Nat) := by
  have hpos := List.length_pos_iff.mpr hne
  have htext : positional digits point =
      digits ++ List.replicate (point - digits.length) '0' ++ ['.', '0'] := by
    rw [positional, if_neg (by omega), Int.toNat_natCast, if_pos hpoint]
  have hzero : ∀ fraction ∈ some ['0'], ∀ c ∈ fraction, isDigit c = true := by
    rintro fraction ⟨⟩
    exact isDigit_zeros 1
  refine ⟨⟨[], digits ++ List.replicate (point - digits.length) '0', some ['0'], none, by decide,
    ?_, hzero, by simp⟩, rfl, ?_, ?_⟩
  · intro c hc
    rcases List.mem_append.mp hc with hc | hc
    · exact hdigits c hc
    · exact isDigit_zeros _ c hc
  · rw [htext]
    simp [Decimal.text, Decimal.pointText, Decimal.exponentText]
  · have hzeros : digits ++ List.replicate (point - digits.length) '0' ++ ['0'] =
        digits ++ List.replicate (point - digits.length + 1) '0' := by
      rw [List.append_assoc, ← List.replicate_succ']
    simp only [Decimal.value, Decimal.negative, Decimal.digits, Decimal.scale, Option.getD_some,
      hzeros, digitsValue_append_zeros]
    simp only [pow_succ, Number.withValue]
    push_cast
    simp
    field_simp

theorem exists_scientific : ∃ decimal, IsUnsigned decimal (scientific plainFormat digits point)
    (digitsValue digits * 10 ^ (point - digits.length) : Nat) := by
  obtain ⟨d, rest, rfl⟩ := List.exists_cons_of_ne_nil hne
  rw [List.forall_mem_cons] at hdigits
  rw [List.length_cons] at hpoint ⊢
  have hpower : ((point : Int) - 1) = (point - 1 : Nat) := by omega
  have hmark : scientific plainFormat (d :: rest) point =
      [d] ++ (Decimal.pointText (if rest = [] then none else some rest) ++
        Decimal.exponentText (some ⟨'e', writtenPower (point - 1), .inl rfl⟩)) := by
    cases rest <;> simp only [scientific, hpower] <;> rfl
  have hdigit : ∀ c ∈ [d], isDigit c = true := by simpa using hdigits.1
  have hfraction : ∀ fraction ∈ (if rest = [] then none else some rest),
      ∀ c ∈ fraction, isDigit c = true := by
    intro fraction hfraction
    split_ifs at hfraction
    · cases hfraction
    · cases hfraction
      exact hdigits.2
  have hrest : (if rest = [] then none else some rest).getD [] = rest := by
    cases rest <;> rfl
  refine ⟨⟨[], [d], if rest = [] then none else some rest,
    some ⟨'e', writtenPower (point - 1), .inl rfl⟩, by decide, hdigit, hfraction, by simp⟩,
    rfl, hmark.symm, ?_⟩
  have hscale : ((point - 1 : Nat) : Int) - rest.length = (point - (rest.length + 1) : Nat) := by
    omega
  simp only [Decimal.value, Decimal.negative, Decimal.digits, Decimal.scale, hrest,
    Option.elim_some, value_writtenPower, hscale, zpow_natCast]
  simp [Number.withValue]

end Forms

/-- The digits of a number without the zeros at their end, written with the point where the number
with so many more zeros has it. -/
theorem exists_form (hc : 0 < c) (k : Nat) : ∃ decimal, IsUnsigned decimal
    (if plainFormat.firstPoint ≤ ((Nat.toDigits 10 c).length + k : Int) ∧
        ((Nat.toDigits 10 c).length + k : Int) ≤ plainFormat.lastPoint then
      positional ((Nat.toDigits 10 c).reverse.dropWhile (· == '0')).reverse
        ((Nat.toDigits 10 c).length + k)
    else scientific plainFormat ((Nat.toDigits 10 c).reverse.dropWhile (· == '0')).reverse
      ((Nat.toDigits 10 c).length + k))
    (c * 10 ^ k : Nat) := by
  obtain ⟨count, hzeros⟩ := exists_zeros (Nat.toDigits 10 c)
  generalize ((Nat.toDigits 10 c).reverse.dropWhile (· == '0')).reverse = digits at hzeros ⊢
  have hdigits : ∀ d ∈ digits, isDigit d = true := fun d hd =>
    isDigit_of_mem_toDigits c d (hzeros ▸ List.mem_append_left _ hd)
  have hvalue : c = digitsValue digits * 10 ^ count := by
    rw [← digitsValue_toDigits c, hzeros, digitsValue_append_zeros]
  have hne : digits ≠ [] := by
    rintro rfl
    have hempty : digitsValue [] = 0 := rfl
    rw [hempty, Nat.zero_mul] at hvalue
    exact hc.ne' hvalue
  have hpoint : ((Nat.toDigits 10 c).length + k : Int) = (digits.length + (count + k) : Nat) := by
    rw [hzeros, List.length_append, List.length_replicate]
    push_cast
    ring
  have hwritten : digitsValue digits * 10 ^ (digits.length + (count + k) - digits.length) =
      c * 10 ^ k := by
    rw [hvalue, Nat.add_sub_cancel_left, pow_add, mul_assoc]
  rw [hpoint]
  split_ifs
  · obtain ⟨decimal, hdecimal⟩ := exists_positional hdigits hne (Nat.le_add_right _ (count + k))
    exact ⟨decimal, hwritten ▸ hdecimal⟩
  · obtain ⟨decimal, hdecimal⟩ := exists_scientific hdigits hne (Nat.le_add_right _ (count + k))
    exact ⟨decimal, hwritten ▸ hdecimal⟩

theorem exists_natural (n : Nat) : ∃ decimal, IsUnsigned decimal (Nat.toDigits 10 n) n := by
  refine ⟨⟨[], Nat.toDigits 10 n, none, none, by decide, isDigit_of_mem_toDigits n, by simp,
    by simp⟩, rfl, ?_, ?_⟩
  · simp [Decimal.text, Decimal.pointText, Decimal.exponentText]
  · simp [Decimal.value, Decimal.negative, Decimal.digits, Decimal.scale, Number.withValue,
      digitsValue_toDigits]

/-- The text of the float nearest to a natural number is that of a natural number, which is the
same one exactly if it is the shortest of all that are rounded to this float. -/
theorem exists_writeFinite (hlimit : n < 10 ^ 18) {mantissa : Nat} {exponent : Int}
    (hvalue : (mantissa : ℚ) * 2 ^ exponent = magnitude (nearestBits n 1)) :
    ∃ (decimal : Decimal) (written : Nat),
      IsUnsigned decimal (writeFinite plainFormat mantissa exponent) written ∧
        (written = n ↔ IsShortest n) := by
  rcases Nat.eq_zero_or_pos n with rfl | hn
  · have hzero : nearestBits 0 1 = 0 := rfl
    rw [hzero, magnitude_zero, mul_eq_zero_iff_right (by positivity), Nat.cast_eq_zero] at hvalue
    obtain ⟨decimal, hdecimal⟩ := exists_positional (isDigit_zeros 1) (by decide) (le_refl 1)
    refine ⟨decimal, 0, ?_, by simp [isShortest_of_lt]⟩
    rw [hvalue]
    exact hdecimal
  · obtain ⟨x, hx⟩ := exists_whole n
    have hpos : 0 < x := by
      have hlt := magnitude_strictMono (nearestBits_strictMono (by decide) hn)
      rw [magnitude_nearestBits (Nat.zero_le _), hx] at hlt
      exact_mod_cast hlt
    have hle : x ≤ 10 ^ 18 := by
      have hle := magnitude_strictMono.monotone (nearestBits_mono hlimit.le)
      rw [magnitude_nearestBits_ten_pow (by decide), hx] at hle
      exact_mod_cast hle
    have hbits := nearestBits_lt_infinityBits hlimit
    have hmantissa : mantissa ≠ 0 := by
      rintro rfl
      rw [Nat.cast_zero, zero_mul, hx] at hvalue
      exact hpos.ne (by exact_mod_cast hvalue)
    obtain ⟨c, k, hshortest, hc, hiff⟩ :=
      exists_shortestDigits hx hpos hle hbits (hvalue.trans hx)
    obtain ⟨decimal, hdecimal⟩ := exists_form hc k
    rw [writeFinite, if_neg hmantissa, hshortest]
    exact ⟨decimal, c * 10 ^ k, hdecimal, hiff n rfl⟩

theorem withValue_natAbs (n : ℤ) : withValue (decide (n < 0)) n.natAbs = n := by
  rcases lt_or_ge n 0 with hneg | hpos
  · have habs : ((n.natAbs : ℤ) : ℚ) = -n := by
      rw [Int.natCast_natAbs, abs_of_neg hneg, Int.cast_neg]
    rw [decide_eq_true hneg, withValue, if_pos rfl, ← Int.cast_natCast, habs, neg_one_mul, neg_neg]
  · have habs : ((n.natAbs : ℤ) : ℚ) = n := by
      rw [Int.natCast_natAbs, abs_of_nonneg hpos]
    rw [decide_eq_false (not_lt.mpr hpos), withValue, if_neg Bool.false_ne_true, one_mul,
      ← Int.cast_natCast, habs]

theorem withValue_injective (negative : Bool) : Function.Injective (withValue negative) :=
  mul_right_injective₀ (by cases negative <;> decide)

/-- The text of an integer denotes it. -/
theorem denotes_integerText (n : ℤ) : Denotes (integerText n).toList n := by
  obtain ⟨decimal, h⟩ := exists_natural n.natAbs
  obtain ⟨htext, hvalue⟩ := h.withSign (decide (n < 0))
  refine ⟨decimal.withSign (decide (n < 0)), ?_, by rw [hvalue, withValue_natAbs]⟩
  rw [htext, integerText]
  split_ifs <;> simp_all [naturalText]

/-- The text of the float nearest to an integer denotes it exactly if its size is the shortest of
all numbers that are rounded to the same float. -/
theorem denotes_floatText_iff {n : ℤ} (h : n.natAbs < 10 ^ 18) :
    Denotes (floatText (nearestFloat n)).toList n ↔ IsShortest n.natAbs := by
  obtain ⟨mantissa, exponent, hfloat, hvalue, -⟩ :=
    ofFloat_floatOfBits (decide (n < 0)) (nearestBits_lt_infinityBits h)
  obtain ⟨decimal, written, hunsigned, hiff⟩ := exists_writeFinite h hvalue
  obtain ⟨htext, hsigned⟩ := hunsigned.withSign (decide (n < 0))
  have hfield : (floatText (nearestFloat n)).toList = (decimal.withSign (decide (n < 0))).text := by
    rw [htext, nearestFloat, nearestRatio, floatText, hfloat]
    dsimp only [Number.withSign]
    rw [String.toList_ofList]
  rw [hfield, Decimal.denotes_text_iff, hsigned, ← hiff, ← withValue_natAbs n,
    (withValue_injective _).eq_iff, Nat.cast_inj]

end TableTalk.Number
