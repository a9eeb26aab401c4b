import TableTalk.Proofs.Number.Rounding

/-! The correctly rounded float of a value, told without patterns: no finite float is nearer, of two
that are as near it is the one with the even mantissa, and a value that lies half a unit or more
beyond the largest float has none. There is at most one, and rounding finds it. -/
namespace TableTalk.Number

/-- The value with a sign. -/
def withValue (negative : Bool) (v : ℚ) : ℚ := (if negative then -1 else 1) * v

/-- A float rounded correctly from a value. Its sign is given, as zero has both signs. -/
structure IsCorrectlyRounded (negative : Bool) (v : ℚ) (x : Float) : Prop where
  within : |v| < floatLimit
  finite : ∃ mantissa exponent, Binary.ofFloat x = .finite negative mantissa exponent
  nearest : ∀ y, isFinite y = true → |v - floatValue x| ≤ |v - floatValue y|
  even : ∀ y, isFinite y = true → |v - floatValue x| = |v - floatValue y| →
    floatValue y ≠ floatValue x →
      ∃ mantissa exponent, Binary.ofFloat x = .finite negative mantissa exponent ∧ Even mantissa

variable {negative : Bool} {v : ℚ} {x : Float} {bits other : Nat}

/-- Two even patterns with the same distance to a value have one between them that is nearer. -/
theorem exists_nearer (hne : bits ≠ other) (hbits : Even bits) (hother : Even other)
    (heq : |v - magnitude bits| = |v - magnitude other|) :
    ∃ between, between < max bits other ∧ |v - magnitude between| < |v - magnitude bits| := by
  wlog hlt : bits < other generalizing bits other
  · obtain ⟨between, hbetween, hnearer⟩ :=
      this hne.symm hother hbits heq.symm (by omega)
    exact ⟨between, by omega, heq ▸ hnearer⟩
  · rw [Nat.even_iff] at hbits hother
    have hlower := magnitude_strictMono (Nat.lt_succ_self bits)
    have hupper := magnitude_strictMono (show bits + 1 < other by omega)
    have hhalf : v - magnitude bits = magnitude other - v := by
      rcases abs_eq_abs.mp heq with hsame | hopposite
      · linarith
      · linarith
    refine ⟨bits + 1, by omega, ?_⟩
    simp only [Nat.succ_eq_add_one] at hlower
    rw [abs_of_nonneg (show 0 ≤ v - magnitude bits by linarith)]
    exact abs_lt.mpr ⟨by linarith, by linarith⟩

theorem abs_withValue (hv : 0 ≤ v) : |withValue negative v| = v := by
  cases negative <;> simp [withValue, abs_of_nonneg hv]

theorem floatValue_eq_withValue (h : bits < infinityBits) :
    floatValue (floatOfBits negative bits) = withValue negative (magnitude bits) :=
  floatValue_floatOfBits negative h

theorem abs_withValue_sub (v w : ℚ) : |withValue negative v - withValue negative w| = |v - w| := by
  cases negative
  · simp [withValue]
  · rw [← abs_neg]
    congr 1
    simp [withValue]
    ring

/-- Floats of the other sign are no nearer than those of the same pattern and the right sign. -/
theorem abs_sub_magnitude_le (hv : 0 ≤ v) (sign : Bool) (bits : Nat) :
    |v - magnitude bits| ≤ |withValue negative v - withValue sign (magnitude bits)| := by
  have h := abs_abs_sub_abs_le (withValue negative v) (withValue sign (magnitude bits))
  rwa [abs_withValue hv, abs_withValue (magnitude_nonneg bits)] at h

/-- As far from a value as the float of its own sign is from it, the float of the other sign is the
same number or the value is zero. -/
theorem eq_zero_of_abs_eq {sign : Bool} (hv : 0 ≤ v)
    (heq : |v - magnitude bits| = |withValue negative v - withValue sign (magnitude bits)|)
    (hne : withValue sign (magnitude bits) ≠ withValue negative (magnitude bits)) : v = 0 := by
  have hopposite :
      |withValue negative v - withValue sign (magnitude bits)| = |v + magnitude bits| := by
    cases negative <;> cases sign
    · exact absurd rfl hne
    · simp [withValue]
    · rw [← abs_neg]
      congr 1
      simp only [withValue, if_true, Bool.false_eq_true, if_false]
      ring
    · exact absurd rfl hne
  rw [hopposite] at heq
  rcases abs_eq_abs.mp heq with hsame | hsum
  · have hzero : magnitude bits = 0 := by linarith
    simp [hzero, withValue] at hne
  · linarith

theorem RoundsTo.isCorrectlyRounded (hv : 0 ≤ v) (h : RoundsTo v bits)
    (hfinite : bits < infinityBits) :
    IsCorrectlyRounded negative (withValue negative v) (floatOfBits negative bits) := by
  obtain ⟨mantissa, exponent, hfloat, -, heven⟩ := ofFloat_floatOfBits negative hfinite
  have hdistance : |withValue negative v - floatValue (floatOfBits negative bits)| =
      |v - magnitude bits| := by rw [floatValue_eq_withValue hfinite, abs_withValue_sub]
  refine ⟨?_, ⟨mantissa, exponent, hfloat⟩, ?_, ?_⟩
  · rw [abs_withValue hv]
    exact not_le.mp (mt h.infinityBits_le_iff.mpr (Nat.not_le.mpr hfinite))
  · intro y hy
    obtain ⟨sign, other, hother, rfl⟩ := exists_floatOfBits hy
    rw [hdistance, floatValue_eq_withValue hother]
    exact (h.nearest other).1.trans (abs_sub_magnitude_le hv sign other)
  · intro y hy heq hne
    obtain ⟨sign, other, hother, rfl⟩ := exists_floatOfBits hy
    refine ⟨mantissa, exponent, hfloat, heven.mpr ?_⟩
    rw [hdistance, floatValue_eq_withValue hother] at heq
    rw [floatValue_eq_withValue hother, floatValue_eq_withValue hfinite] at hne
    by_cases hbits : other = bits
    · subst hbits
      have hzero := eq_zero_of_abs_eq hv heq hne
      rw [h.eq_zero (by simpa [hzero] using magnitude_strictMono zero_lt_one)]
      exact Even.zero
    · exact (h.nearest other).2
        (le_antisymm (h.nearest other).1 (heq ▸ abs_sub_magnitude_le hv sign other)) hbits

/-- There is one correctly rounded float, the one that rounding gives, unless that is infinite. -/
theorem RoundsTo.isCorrectlyRounded_iff (hv : 0 ≤ v) (h : RoundsTo v bits) :
    IsCorrectlyRounded negative (withValue negative v) x ↔
      bits < infinityBits ∧ x = floatOfBits negative bits := by
  constructor
  · intro hx
    have hfinite : bits < infinityBits := by
      have hwithin := hx.within
      rw [abs_withValue hv] at hwithin
      exact Nat.not_le.mp (mt h.infinityBits_le_iff.mp (not_le.mpr hwithin))
    refine ⟨hfinite, ?_⟩
    obtain ⟨mantissa, exponent, hfloat⟩ := hx.finite
    obtain ⟨sign, other, hother, rfl⟩ := exists_floatOfBits (x := x) (by simp [isFinite, hfloat])
    obtain ⟨mantissa', exponent', hfloat', -, heven⟩ := ofFloat_floatOfBits sign hother
    obtain ⟨rfl, rfl, rfl⟩ : sign = negative ∧ mantissa' = mantissa ∧ exponent' = exponent := by
      simpa [hfloat'] using hfloat
    have hdistance {bits : Nat} (hbits : bits < infinityBits) :
        |withValue sign v - floatValue (floatOfBits sign bits)| = |v - magnitude bits| := by
      rw [floatValue_eq_withValue hbits, abs_withValue_sub]
    by_contra hne
    have hbits : bits ≠ other := by
      rintro rfl
      exact hne rfl
    have heq : |v - magnitude bits| = |v - magnitude other| := by
      apply le_antisymm (h.nearest other).1
      rw [← hdistance hother, ← hdistance hfinite]
      exact hx.nearest _ (by simp [isFinite_floatOfBits, hfinite])
    have hsame := (h.nearest other).2 heq hbits.symm
    have hother_even : Even other := by
      obtain ⟨m, e, hm, hmeven⟩ := hx.even (floatOfBits sign bits)
        (by simp [isFinite_floatOfBits, hfinite])
        (by rw [hdistance hother, hdistance hfinite, heq]) (by
          rw [floatValue_eq_withValue hother, floatValue_eq_withValue hfinite]
          have hvalues := magnitude_strictMono.injective.ne hbits
          cases sign <;> simpa [withValue] using hvalues)
      rw [hfloat] at hm
      cases hm
      exact heven.mp hmeven
    obtain ⟨between, hbetween, hnearer⟩ := exists_nearer hbits hsame hother_even heq
    have hbetween : between < infinityBits := by omega
    have hle := hx.nearest (floatOfBits sign between) (by simp [isFinite_floatOfBits, hbetween])
    rw [hdistance hother, hdistance hbetween, ← heq] at hle
    exact absurd hnearer (not_lt.mpr hle)
  · rintro ⟨hfinite, rfl⟩
    exact h.isCorrectlyRounded hv hfinite

end TableTalk.Number
