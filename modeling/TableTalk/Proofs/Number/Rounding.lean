import TableTalk.Proofs.Number.Magnitude

/-! Rounding to the nearest float. A value rounds to a pattern when it lies between the halfway
points to the neighbours of the pattern; on a halfway point it goes to the even one. This tells the
pattern, keeps the order of values, and no other pattern is nearer. Values from half a unit above
the largest float on go to infinity, and so do the integers that no float can hold. -/
namespace TableTalk.Number

variable {v w : ℚ} {bits other p q digits : Nat} {exponent : Int}

/-- Where a value goes when it is rounded: between the halfway points around a pattern, and on one
of them only if the pattern is even. -/
structure RoundsTo (v : ℚ) (bits : Nat) : Prop where
  below_half : 2 * v ≤ magnitude bits + magnitude (bits + 1)
  above_half : ∀ {before}, before + 1 = bits → magnitude before + magnitude bits ≤ 2 * v
  even_of_below : 2 * v = magnitude bits + magnitude (bits + 1) → Even bits
  even_of_above : ∀ {before}, before + 1 = bits →
    magnitude before + magnitude bits = 2 * v → Even bits

theorem roundsTo_magnitude (bits : Nat) : RoundsTo (magnitude bits) bits where
  below_half := by
    have h := magnitude_strictMono (Nat.lt_succ_self bits)
    linarith
  above_half := by
    rintro before rfl
    have h := magnitude_strictMono (Nat.lt_succ_self before)
    linarith
  even_of_below heq := by
    have h := magnitude_strictMono (Nat.lt_succ_self bits)
    linarith
  even_of_above := by
    rintro before rfl heq
    have h := magnitude_strictMono (Nat.lt_succ_self before)
    linarith

/-- Rounding keeps the order: patterns out of order would both lie on one halfway point, but of two
neighbours only one is even. -/
theorem RoundsTo.mono (hv : RoundsTo v bits) (hw : RoundsTo w other) (h : v ≤ w) :
    bits ≤ other := by
  by_contra hlt
  obtain ⟨before, rfl⟩ := Nat.exists_eq_succ_of_ne_zero (show bits ≠ 0 by omega)
  have hlower := magnitude_strictMono.monotone (show other ≤ before by omega)
  have hupper := magnitude_strictMono.monotone (show other + 1 ≤ before + 1 by omega)
  have habove := hv.above_half rfl
  have hbelow := hw.below_half
  have hsame : magnitude other = magnitude before := by
    simp only [Nat.succ_eq_add_one] at habove
    linarith
  obtain rfl := magnitude_strictMono.injective hsame
  simp only [Nat.succ_eq_add_one] at habove
  have heven := hv.even_of_above rfl (by simp only [Nat.succ_eq_add_one]; linarith)
  exact Nat.not_even_iff_odd.mpr (hw.even_of_below (by linarith)).add_one heven

theorem RoundsTo.unique (h : RoundsTo v bits) (h' : RoundsTo v other) : bits = other :=
  le_antisymm (h.mono h' le_rfl) (h'.mono h le_rfl)

/-- No other pattern is nearer, and one that is as near leaves the even pattern. -/
theorem RoundsTo.nearest (h : RoundsTo v bits) (other : Nat) :
    |v - magnitude bits| ≤ |v - magnitude other| ∧
      (|v - magnitude bits| = |v - magnitude other| → other ≠ bits → Even bits) := by
  rcases lt_trichotomy other bits with hlt | rfl | hgt
  · obtain ⟨before, rfl⟩ := Nat.exists_eq_succ_of_ne_zero (show bits ≠ 0 by omega)
    have hother := magnitude_strictMono.monotone (show other ≤ before by omega)
    have hstep := magnitude_strictMono (Nat.lt_succ_self before)
    have habove := h.above_half rfl
    simp only [Nat.succ_eq_add_one] at *
    have hdistance : |v - magnitude other| = v - magnitude other := abs_of_nonneg (by linarith)
    rw [hdistance]
    refine ⟨abs_le.mpr ⟨by linarith, by linarith⟩, fun heq _ => ?_⟩
    rcases abs_cases (v - magnitude (before + 1)) with ⟨habs, -⟩ | ⟨habs, -⟩
    · linarith
    · exact h.even_of_above rfl (by linarith)
  · exact ⟨le_rfl, fun _ hne => absurd rfl hne⟩
  · have hother := magnitude_strictMono.monotone (show bits + 1 ≤ other by omega)
    have hstep := magnitude_strictMono (Nat.lt_succ_self bits)
    have hbelow := h.below_half
    have hdistance : |v - magnitude other| = magnitude other - v := by
      rw [abs_sub_comm]
      exact abs_of_nonneg (by linarith)
    rw [hdistance]
    refine ⟨abs_le.mpr ⟨by linarith, by linarith⟩, fun heq _ => ?_⟩
    rcases abs_cases (v - magnitude bits) with ⟨habs, -⟩ | ⟨habs, -⟩
    · exact h.even_of_below (by linarith)
    · linarith

/-- A quotient is rounded to the nearest natural number, and from a half to the even one. -/
theorem roundDiv_spec (hq : 0 < q) :
    2 * p ≤ (2 * roundDiv p q + 1) * q ∧ 2 * roundDiv p q * q ≤ 2 * p + q ∧
      ((2 * p = (2 * roundDiv p q + 1) * q ∨ 2 * roundDiv p q * q = 2 * p + q) →
        Even (roundDiv p q)) := by
  have hdiv := Nat.div_add_mod p q
  have hmod := Nat.mod_lt p hq
  have hdown : (2 * (p / q) + 1) * q = 2 * (q * (p / q)) + q := by ring
  have hdown' : 2 * (p / q) * q = 2 * (q * (p / q)) := by ring
  have hup : (2 * (p / q + 1) + 1) * q = 2 * (q * (p / q)) + 3 * q := by ring
  have hup' : 2 * (p / q + 1) * q = 2 * (q * (p / q)) + 2 * q := by ring
  unfold roundDiv
  split_ifs with hless hmore
  · rw [hdown, hdown']
    exact ⟨by omega, by omega, by omega⟩
  · rw [hup, hup']
    exact ⟨by omega, by omega, by omega⟩
  · rcases Nat.mod_two_eq_zero_or_one (p / q) with heven | hodd
    · simp only [heven, add_zero]
      rw [hdown, hdown']
      exact ⟨by omega, by omega, fun _ => Nat.even_iff.mpr heven⟩
    · rw [hodd, hup, hup']
      exact ⟨by omega, by omega, fun _ => Nat.even_iff.mpr (by omega)⟩

/-- The same on the grid of a power of two. -/
theorem roundDiv_scaled_spec (hq : 0 < q) (exponent : Int) :
    ∃ mantissa, (if 0 ≤ exponent then roundDiv p (q * 2 ^ exponent.toNat)
        else roundDiv (p * 2 ^ (-exponent).toNat) q) = mantissa ∧
      2 * (p / q : ℚ) ≤ (2 * mantissa + 1) * 2 ^ exponent ∧
      (2 * mantissa - 1) * 2 ^ exponent ≤ 2 * (p / q : ℚ) ∧
      ((2 * (p / q : ℚ) = (2 * mantissa + 1) * 2 ^ exponent ∨
        (2 * mantissa - 1) * 2 ^ exponent = 2 * (p / q : ℚ)) → Even mantissa) := by
  have hspec {p' q' : Nat} (hq' : 0 < q') (hratio : (p / q : ℚ) = p' / q' * 2 ^ exponent) :
      2 * (p / q : ℚ) ≤ (2 * roundDiv p' q' + 1) * 2 ^ exponent ∧
      (2 * roundDiv p' q' - 1) * 2 ^ exponent ≤ 2 * (p / q : ℚ) ∧
      ((2 * (p / q : ℚ) = (2 * roundDiv p' q' + 1) * 2 ^ exponent ∨
        (2 * roundDiv p' q' - 1) * 2 ^ exponent = 2 * (p / q : ℚ)) →
          Even (roundDiv p' q')) := by
    obtain ⟨hbelow, habove, heven⟩ := roundDiv_spec (p := p') hq'
    have hcast : (0 : ℚ) < q' := by exact_mod_cast hq'
    have hbelow : (2 * p' : ℚ) ≤ (2 * roundDiv p' q' + 1) * q' := by exact_mod_cast hbelow
    have habove : (2 * roundDiv p' q' * q' : ℚ) ≤ 2 * p' + q' := by exact_mod_cast habove
    have hpower : (0 : ℚ) < 2 ^ exponent := by positivity
    rw [hratio, ← mul_assoc, ← mul_div_assoc]
    refine ⟨?_, ?_, ?_⟩
    · gcongr
      rwa [div_le_iff₀ hcast]
    · gcongr
      rw [le_div_iff₀ hcast]
      linarith
    · intro htie
      apply heven
      rcases htie with htie | htie
      · rw [mul_left_inj' hpower.ne', div_eq_iff hcast.ne'] at htie
        exact .inl (by exact_mod_cast htie)
      · rw [mul_left_inj' hpower.ne', eq_div_iff hcast.ne'] at htie
        have htie : (2 * roundDiv p' q' * q' : ℚ) = 2 * p' + q' := by linarith
        exact .inr (by exact_mod_cast htie)
  have hcast : (q : ℚ) ≠ 0 := by exact_mod_cast hq.ne'
  refine ⟨_, rfl, ?_⟩
  obtain ⟨n, rfl | rfl⟩ := exponent.eq_nat_or_neg
  · rw [if_pos (Int.natCast_nonneg n), Int.toNat_natCast]
    apply hspec (by positivity)
    rw [zpow_natCast]
    push_cast
    field_simp
  · by_cases hn : n = 0
    · subst hn
      simpa using @hspec p q hq (by simp)
    · rw [if_neg (by omega), neg_neg, Int.toNat_natCast]
      apply hspec hq
      rw [zpow_neg, zpow_natCast]
      push_cast
      field_simp

section
variable {scale mantissa : Nat} (hfits : mantissa ≤ 2 ^ 53)
include hfits

/-- The next pattern is a step away at least, and more where a new binade begins. -/
theorem le_magnitude_succ (hfull : scale = 0 ∨ 2 ^ 52 ≤ mantissa) :
    (mantissa + 1) * 2 ^ ((scale : Int) - 1074) ≤
      magnitude (scale * 2 ^ 52 + mantissa + 1) := by
  rcases hfits.lt_or_eq with hlt | rfl
  · rw [Nat.add_assoc, magnitude_scaled hlt (by omega)]
    push_cast
    rfl
  · have hbinade : scale * 2 ^ 52 + 2 ^ 53 + 1 = (scale + 1) * 2 ^ 52 + (2 ^ 52 + 1) := by omega
    have hexponent : ((scale + 1 : Nat) : Int) - 1074 = 1 + ((scale : Int) - 1074) := by
      push_cast
      ring
    rw [hbinade, magnitude_scaled (by omega) (by omega), hexponent, zpow_add₀ two_ne_zero,
      zpow_one, ← mul_assoc]
    gcongr
    norm_num

/-- A mantissa rounded on its own scale is rounded among all patterns. At the start of a binade the
step below is smaller, but there the value is not below the mantissa. -/
theorem roundsTo_of_scaled
    (hfull : scale = 0 ∨ 2 ^ 52 ≤ mantissa ∧ 2 ^ 52 * 2 ^ ((scale : Int) - 1074) ≤ v)
    (hbelow : 2 * v ≤ (2 * mantissa + 1) * 2 ^ ((scale : Int) - 1074))
    (habove : (2 * mantissa - 1) * 2 ^ ((scale : Int) - 1074) ≤ 2 * v)
    (htie : 2 * v = (2 * mantissa + 1) * 2 ^ ((scale : Int) - 1074) ∨
      (2 * mantissa - 1) * 2 ^ ((scale : Int) - 1074) = 2 * v → Even mantissa) :
    RoundsTo v (scale * 2 ^ 52 + mantissa) := by
  have hvalue := magnitude_scaled hfits (hfull.imp_right And.left)
  have hnext := le_magnitude_succ hfits (hfull.imp_right And.left)
  have heven (h : Even mantissa) : Even (scale * 2 ^ 52 + mantissa) :=
    Even.add (Even.mul_left (by decide) scale) h
  have hbefore {before : Nat} (h : before + 1 = scale * 2 ^ 52 + mantissa) :
      magnitude before + magnitude (scale * 2 ^ 52 + mantissa) ≤ 2 * v ∧
        (magnitude before + magnitude (scale * 2 ^ 52 + mantissa) = 2 * v → Even mantissa) := by
    by_cases hinside : scale = 0 ∨ 2 ^ 52 < mantissa
    · obtain ⟨less, rfl⟩ := Nat.exists_eq_succ_of_ne_zero (show mantissa ≠ 0 by omega)
      obtain rfl : before = scale * 2 ^ 52 + less := by omega
      have hsum : magnitude (scale * 2 ^ 52 + less) + magnitude (scale * 2 ^ 52 + less.succ) =
          (2 * (less.succ : ℚ) - 1) * 2 ^ ((scale : Int) - 1074) := by
        rw [hvalue, magnitude_scaled (by omega) (by omega)]
        push_cast
        ring
      rw [hsum]
      exact ⟨habove, fun heq => htie (.inr heq)⟩
    · obtain ⟨hlarge, hstart⟩ := hfull.resolve_left fun h => hinside (.inl h)
      obtain rfl : mantissa = 2 ^ 52 := by omega
      have hless := magnitude_strictMono (show before < scale * 2 ^ 52 + 2 ^ 52 by omega)
      rw [hvalue] at hless ⊢
      push_cast at hless ⊢
      exact ⟨by linarith, fun heq => by linarith⟩
  refine ⟨?_, fun h => (hbefore h).1, ?_, fun h heq => heven ((hbefore h).2 heq)⟩
  · rw [hvalue]
    linarith
  · intro heq
    rw [hvalue] at heq
    exact heven (htie (.inl (le_antisymm hbelow (by linarith))))

end

/-- Rounding a quotient gives the pattern that it rounds to. -/
theorem roundsTo_nearestBits (p : Nat) (hq : 0 < q) : RoundsTo (p / q) (nearestBits p q) := by
  rcases Nat.eq_zero_or_pos p with rfl | hp
  · have hzero := roundsTo_magnitude 0
    rw [magnitude_zero] at hzero
    simpa [nearestBits] using hzero
  · obtain ⟨scale, hscale⟩ :
        ∃ scale : Nat, max (floorLog2 p q - 52) (-1074) = (scale : Int) - 1074 :=
      ⟨(max (floorLog2 p q - 52) (-1074) + 1074).toNat, by omega⟩
    obtain ⟨mantissa, hmantissa, hbelow, habove, htie⟩ :=
      roundDiv_scaled_spec (p := p) hq ((scale : Int) - 1074)
    have hbits : nearestBits p q = scale * 2 ^ 52 + mantissa := by
      rw [nearestBits, if_neg hp.ne', hscale]
      dsimp only
      rw [← hmantissa, sub_add_cancel, Int.toNat_natCast]
    have hcast : (0 : ℚ) < q := by exact_mod_cast hq
    have hlower : (2 : ℚ) ^ floorLog2 p q ≤ p / q := by
      rw [le_div_iff₀ hcast, mul_comm]
      exact mul_two_zpow_floorLog2_le hp
    have hupper : (p / q : ℚ) < 2 ^ (floorLog2 p q + 1) := by
      rw [div_lt_iff₀ hcast, mul_comm]
      exact lt_mul_two_zpow_floorLog2 hq
    have hpower : (0 : ℚ) < 2 ^ ((scale : Int) - 1074) := by positivity
    have hfits : mantissa ≤ 2 ^ 53 := by
      have hrange : (p / q : ℚ) < 2 ^ 53 * 2 ^ ((scale : Int) - 1074) := by
        refine hupper.trans_le ?_
        rw [← zpow_natCast (2 : ℚ) 53, ← zpow_add₀ two_ne_zero]
        exact zpow_le_zpow_right₀ one_le_two (by push_cast; omega)
      have hless : (2 * mantissa - 1 : ℚ) < 2 ^ 54 := by
        rw [← mul_lt_mul_iff_left₀ hpower]
        linarith
      have hless : 2 * mantissa < 2 ^ 54 + 1 := by
        have : (2 * mantissa : ℚ) < 2 ^ 54 + 1 := by linarith
        exact_mod_cast this
      omega
    rw [hbits]
    refine roundsTo_of_scaled hfits ?_ hbelow habove htie
    by_cases hzero : scale = 0
    · exact .inl hzero
    · have hstart : 2 ^ 52 * 2 ^ ((scale : Int) - 1074) ≤ (p / q : ℚ) := by
        refine le_trans ?_ hlower
        rw [← zpow_natCast (2 : ℚ) 52, ← zpow_add₀ two_ne_zero]
        exact zpow_le_zpow_right₀ one_le_two (by push_cast; omega)
      refine .inr ⟨?_, hstart⟩
      have hmore : (2 ^ 53 : ℚ) ≤ 2 * mantissa + 1 := by
        rw [← mul_le_mul_iff_left₀ hpower]
        linarith
      have hmore : 2 ^ 53 ≤ 2 * mantissa + 1 := by exact_mod_cast hmore
      omega

theorem magnitude_infinityBits : magnitude infinityBits = 2 ^ 1024 := by
  have h := @magnitude_scaled 2045 (2 ^ 53) le_rfl (.inr (by omega))
  have hbits : 2045 * 2 ^ 52 + 2 ^ 53 = infinityBits := by rfl
  have hexponent : ((2045 : Nat) : Int) - 1074 = (971 : Nat) := by rfl
  rw [hbits, hexponent, zpow_natCast] at h
  rw [h, Nat.cast_pow, Nat.cast_ofNat, ← pow_add]

/-- The halfway point to infinity is the limit of the floats. -/
theorem half_infinityBits :
    magnitude (infinityBits - 1) + magnitude infinityBits = 2 * floatLimit := by
  have h := @magnitude_scaled 2045 (2 ^ 53 - 1) (by omega) (.inr (by omega))
  have hbits : 2045 * 2 ^ 52 + (2 ^ 53 - 1) = infinityBits - 1 := by rfl
  have hexponent : ((2045 : Nat) : Int) - 1074 = (971 : Nat) := by rfl
  rw [hbits, hexponent, zpow_natCast] at h
  obtain ⟨unit, hunit⟩ : ∃ unit : ℚ, unit = 2 ^ 970 := ⟨_, rfl⟩
  have hlast : (2 : ℚ) ^ 971 = 2 * unit := by rw [hunit, ← pow_succ']
  have hfirst : (2 : ℚ) ^ 1024 = 2 ^ 54 * unit := by rw [hunit, ← pow_add]
  have hlimit : (floatLimit : ℚ) = (2 ^ 54 - 1) * unit := by
    rw [floatLimit, Nat.cast_mul, Nat.cast_pow, Nat.cast_ofNat, ← hunit]
    norm_num
  rw [h, magnitude_infinityBits, hlast, hfirst, hlimit]
  norm_num
  ring

/-- Values from the limit on are rounded out of the finite patterns. -/
theorem RoundsTo.infinityBits_le_iff (h : RoundsTo v bits) :
    infinityBits ≤ bits ↔ (floatLimit : ℚ) ≤ v := by
  have hhalf := half_infinityBits
  constructor
  · intro hle
    obtain ⟨before, rfl⟩ := Nat.exists_eq_succ_of_ne_zero (show bits ≠ 0 by
      rintro rfl
      exact absurd hle (by decide))
    have habove := h.above_half rfl
    have hlast := magnitude_strictMono.monotone (show infinityBits - 1 ≤ before by omega)
    have hfirst := magnitude_strictMono.monotone hle
    simp only [Nat.succ_eq_add_one] at *
    linarith
  · intro hle
    by_contra hless
    have hbelow := h.below_half
    have hlast := magnitude_strictMono.monotone (show bits ≤ infinityBits - 1 by omega)
    have hfirst := magnitude_strictMono.monotone (show bits + 1 ≤ infinityBits by omega)
    have hsame : magnitude bits = magnitude (infinityBits - 1) := by linarith
    obtain rfl := magnitude_strictMono.injective hsame
    exact absurd (h.even_of_below (by linarith)) (by decide)

/-- The nearest float is infinite exactly for quotients from the limit on. -/
theorem infinityBits_le_nearestBits_iff (hq : 0 < q) :
    infinityBits ≤ nearestBits p q ↔ floatLimit * q ≤ p := by
  have hcast : (0 : ℚ) < q := Nat.cast_pos.mpr hq
  rw [(roundsTo_nearestBits p hq).infinityBits_le_iff, le_div_iff₀ hcast, ← Nat.cast_mul,
    Nat.cast_le]

theorem exists_floatOfInteger_eq_ok_iff {n : Int} :
    (∃ x, floatOfInteger n = .ok x) ↔ n.natAbs < floatLimit := by
  have hbits : infinityBits ≤ nearestBits n.natAbs 1 ↔ floatLimit ≤ n.natAbs := by
    rw [infinityBits_le_nearestBits_iff Nat.one_pos, Nat.mul_one]
  rw [← Nat.not_le, ← hbits, floatOfInteger]
  split_ifs with hlarge <;> simp [hlarge]

theorem RoundsTo.eq_zero (h : RoundsTo v bits) (hsmall : 2 * v < magnitude 1) : bits = 0 := by
  by_contra hne
  obtain ⟨before, rfl⟩ := Nat.exists_eq_succ_of_ne_zero hne
  have habove := h.above_half rfl
  have hbefore := magnitude_nonneg before
  have hbits := magnitude_strictMono.monotone (show 1 ≤ before + 1 by omega)
  simp only [Nat.succ_eq_add_one] at habove
  linarith

theorem lt_ten_pow_length (n : Nat) : n < 10 ^ (Nat.toDigits 10 n).length :=
  (Nat.length_toDigits_le_iff (by decide) Nat.length_toDigits_pos).mp le_rfl

theorem ten_pow_length_le {n : Nat} (h : n ≠ 0) : 10 ^ (Nat.toDigits 10 n).length ≤ 10 * n := by
  obtain ⟨less, hless⟩ := Nat.exists_eq_succ_of_ne_zero
    (Nat.length_toDigits_pos (b := 10) (n := n)).ne'
  rw [hless, Nat.pow_succ, Nat.mul_comm]
  apply Nat.mul_le_mul_left
  rcases Nat.eq_zero_or_pos less with rfl | hpos
  · exact Nat.one_le_iff_ne_zero.mpr h
  · by_contra hlt
    have hle := (Nat.length_toDigits_le_iff (b := 10) (n := n) (by decide) hpos).mpr (by omega)
    omega

/-- A decimal value as a quotient of natural numbers. -/
theorem exists_ratio (digits : Nat) (exponent : Int) : ∃ p q : Nat, 0 < q ∧
    (digits * 10 ^ exponent : ℚ) = p / q ∧
    (if 0 ≤ exponent then nearestBits (digits * 10 ^ exponent.toNat) 1
      else nearestBits digits (10 ^ (-exponent).toNat)) = nearestBits p q := by
  obtain ⟨n, rfl | rfl⟩ := exponent.eq_nat_or_neg
  · refine ⟨digits * 10 ^ n, 1, one_pos, by simp, ?_⟩
    rw [if_pos (Int.natCast_nonneg n), Int.toNat_natCast]
  · by_cases hn : n = 0
    · exact ⟨digits, 1, one_pos, by simp [hn], by simp [hn]⟩
    · refine ⟨digits, 10 ^ n, by positivity, by simp [div_eq_mul_inv], ?_⟩
      rw [if_neg (by omega), neg_neg, Int.toNat_natCast]

theorem double_lt_of_tiny (h : exponent + (Nat.toDigits 10 digits).length < -400) :
    2 * (digits * 10 ^ exponent : ℚ) < magnitude 1 := by
  have hfirst : magnitude 1 = 2 ^ (-1074 : Int) := by simp [magnitude]
  have hdigits : (digits : ℚ) ≤ 10 ^ ((Nat.toDigits 10 digits).length : Int) := by
    rw [zpow_natCast]
    exact_mod_cast (lt_ten_pow_length digits).le
  have hsmall : (2 * 10 ^ (-401 : Int) : ℚ) < 2 ^ (-1074 : Int) := by
    have hpowers : 2 * 2 ^ 1074 < 10 ^ 401 := by decide +kernel
    have hpowers : ((2 * 2 ^ 1074 : Nat) : ℚ) < (10 ^ 401 : Nat) := Nat.cast_lt.mpr hpowers
    rw [Nat.cast_mul, Nat.cast_pow, Nat.cast_pow, Nat.cast_ofNat, Nat.cast_ofNat] at hpowers
    rw [zpow_neg, zpow_neg, zpow_ofNat, zpow_ofNat, ← div_eq_mul_inv, inv_eq_one_div,
      div_lt_div_iff₀ (by positivity) (by positivity), one_mul]
    exact hpowers
  calc 2 * (digits * 10 ^ exponent : ℚ)
      ≤ 2 * (10 ^ ((Nat.toDigits 10 digits).length : Int) * 10 ^ exponent) := by gcongr
    _ = 2 * 10 ^ (exponent + (Nat.toDigits 10 digits).length) := by
        rw [← zpow_add₀ (by norm_num), add_comm]
    _ ≤ 2 * 10 ^ (-401 : Int) := by
        gcongr
        · norm_num
        · omega
    _ < magnitude 1 := by rwa [hfirst]

theorem ten_pow_le_of_huge (hne : digits ≠ 0)
    (h : 400 < exponent + (Nat.toDigits 10 digits).length) :
    (10 : ℚ) ^ (400 : Int) ≤ digits * 10 ^ exponent := by
  have hdigits : (10 : ℚ) ^ ((Nat.toDigits 10 digits).length : Int) ≤ 10 * digits := by
    rw [zpow_natCast]
    exact_mod_cast ten_pow_length_le hne
  have hscaled : 10 * (10 : ℚ) ^ (400 : Int) ≤ 10 * (digits * 10 ^ exponent) := by
    calc 10 * (10 : ℚ) ^ (400 : Int) = 10 ^ (1 + 400 : Int) :=
          (zpow_one_add₀ (by norm_num) _).symm
      _ ≤ 10 ^ (((Nat.toDigits 10 digits).length : Int) + exponent) :=
          zpow_le_zpow_right₀ (by norm_num) (by omega)
      _ = 10 ^ ((Nat.toDigits 10 digits).length : Int) * 10 ^ exponent :=
          zpow_add₀ (by norm_num) _ _
      _ ≤ 10 * digits * 10 ^ exponent := by gcongr
      _ = 10 * (digits * 10 ^ exponent) := mul_assoc _ _ _
  exact le_of_mul_le_mul_left hscaled (by norm_num)

theorem floatLimit_le_ten_pow : (floatLimit : ℚ) ≤ 10 ^ (400 : Int) := by
  have hpowers : floatLimit ≤ 10 ^ 400 := by decide +kernel
  have hpowers : (floatLimit : ℚ) ≤ (10 ^ 400 : Nat) := Nat.cast_le.mpr hpowers
  rwa [Nat.cast_pow, Nat.cast_ofNat] at hpowers

/-- A decimal value is rounded like a quotient. Values far out of the range of the floats are not
worked out, but infinity is as good there as any pattern beyond it. -/
theorem roundsTo_nearestDecimalBits (digits : Nat) (exponent : Int) :
    ∃ bits, RoundsTo (digits * 10 ^ exponent) bits ∧
      min (nearestDecimalBits digits exponent) infinityBits = min bits infinityBits := by
  obtain ⟨p, q, hq, hvalue, hbits⟩ := exists_ratio digits exponent
  have hround : RoundsTo (digits * 10 ^ exponent) (nearestBits p q) :=
    hvalue ▸ roundsTo_nearestBits p hq
  refine ⟨nearestBits p q, hround, ?_⟩
  rw [← hbits] at hround ⊢
  unfold nearestDecimalBits
  dsimp only
  by_cases hsmall : digits = 0 ∨ exponent + (Nat.toDigits 10 digits).length < -400
  · have htiny : 2 * (digits * 10 ^ exponent : ℚ) < magnitude 1 := by
      rcases hsmall with rfl | hsmall
      · have hpos := magnitude_strictMono zero_lt_one
        simpa using hpos
      · exact double_lt_of_tiny hsmall
    rw [if_pos hsmall, hround.eq_zero htiny]
  · rw [if_neg hsmall]
    rw [not_or] at hsmall
    by_cases hlarge : 400 < exponent + (Nat.toDigits 10 digits).length
    · have hbeyond := hround.infinityBits_le_iff.mpr
        (floatLimit_le_ten_pow.trans (ten_pow_le_of_huge hsmall.1 hlarge))
      rw [if_pos hlarge, min_self, min_eq_right hbeyond]
    · rw [if_neg hlarge]

end TableTalk.Number
