import TableTalk.Number.Shortest
import TableTalk.Proofs.Number.Rounding

/-! The shortest decimal of a float that is a whole number. Grids of multiples of powers of ten are
searched from coarse to fine for a number that is rounded to the float, and on each grid it is
enough to look at the two neighbours, as rounding keeps the order. So the number that is found lies
on the coarsest grid that has one, and no other one there is as close. -/
namespace TableTalk.Number

variable {bits x m n unit finer : Nat}

theorem roundsTo_natCast (n : Nat) : RoundsTo n (nearestBits n 1) := by
  simpa using roundsTo_nearestBits n one_pos

theorem nearestBits_mono (h : m ≤ n) : nearestBits m 1 ≤ nearestBits n 1 :=
  (roundsTo_natCast m).mono (roundsTo_natCast n) (by exact_mod_cast h)

theorem nearestBits_of_magnitude (h : magnitude bits = x) : nearestBits x 1 = bits :=
  (roundsTo_natCast x).unique (h ▸ roundsTo_magnitude bits)

/-- A decimal without a fraction is read like the integer that it is. -/
theorem nearestDecimalBits_eq_iff (hbits : bits < infinityBits) (m power : Nat) :
    nearestDecimalBits m power = bits ↔ nearestBits (m * 10 ^ power) 1 = bits := by
  obtain ⟨other, hround, hmin⟩ := roundsTo_nearestDecimalBits m power
  have hother : other = nearestBits (m * 10 ^ power) 1 := by
    refine hround.unique ?_
    simpa using roundsTo_natCast (m * 10 ^ power)
  rw [← hother]
  omega

/-- Of all numbers that are rounded to one float, this one is on the coarsest grid of multiples of a
power of ten, and on that grid it is the closest to the float. -/
structure IsShortest (n : Nat) : Prop where
  coarsest : ∀ m k, nearestBits m 1 = nearestBits n 1 → 10 ^ k ∣ m → 10 ^ k ∣ n
  closest : ∀ m, nearestBits m 1 = nearestBits n 1 → (∀ k, 10 ^ k ∣ n → 10 ^ k ∣ m) → m ≠ n →
    |magnitude (nearestBits n 1) - n| < |magnitude (nearestBits n 1) - m|

/-- A multiple of a unit that is rounded to a float, next to the float, and no other is closer. -/
structure IsNearestOn (x bits unit c : Nat) : Prop where
  reads : nearestBits (c * unit) 1 = bits
  beside : c = x / unit ∨ c = x / unit + 1
  closest : ∀ m, nearestBits (m * unit) 1 = bits →
    |(x : ℤ) - (c * unit : Nat)| ≤ |(x : ℤ) - (m * unit : Nat)|

section Grid

theorem abs_sub_lower (x unit : Nat) :
    |(x : ℤ) - (x / unit * unit : Nat)| = (x % unit : Nat) := by
  have h := Nat.div_add_mod' x unit
  rw [abs_of_nonneg] <;> omega

theorem abs_sub_upper (hunit : 0 < unit) :
    |(x : ℤ) - ((x / unit + 1) * unit : Nat)| = unit - (x % unit : Nat) := by
  have h := Nat.div_add_mod' x unit
  have hmod := Nat.mod_lt x hunit
  rw [Nat.add_mul, Nat.one_mul, abs_of_nonpos] <;> omega

theorem le_abs_sub_of_le (h : m ≤ x / unit) :
    ((x % unit : Nat) : ℤ) ≤ |(x : ℤ) - (m * unit : Nat)| := by
  have hle := Nat.mul_le_mul_right unit h
  have hdiv := Nat.div_add_mod' x unit
  exact le_trans (by omega) (le_abs_self _)

theorem le_abs_sub_of_lt (h : x / unit < m) :
    (unit : ℤ) - (x % unit : Nat) ≤ |(x : ℤ) - (m * unit : Nat)| := by
  have hle := Nat.mul_le_mul_right unit (Nat.succ_le_of_lt h)
  have hdiv := Nat.div_add_mod' x unit
  rw [Nat.succ_eq_add_one, Nat.add_mul, Nat.one_mul] at hle
  exact le_trans (by omega) (neg_le_abs _)

variable (hx : magnitude bits = x)
include hx

/-- A multiple below the float that is read as it leaves the lower neighbour no other choice. -/
theorem reads_lower (hm : nearestBits (m * unit) 1 = bits) (h : m ≤ x / unit) :
    nearestBits (x / unit * unit) 1 = bits := by
  have hlower := nearestBits_mono (Nat.mul_le_mul_right unit h)
  have hupper := nearestBits_mono (Nat.div_mul_le_self x unit)
  rw [nearestBits_of_magnitude hx] at hupper
  omega

theorem reads_upper (hunit : 0 < unit) (hm : nearestBits (m * unit) 1 = bits)
    (h : x / unit < m) : nearestBits ((x / unit + 1) * unit) 1 = bits := by
  have hlower := nearestBits_mono (show x ≤ (x / unit + 1) * unit by
    have hdiv := Nat.div_add_mod' x unit
    have hmod := Nat.mod_lt x hunit
    rw [Nat.add_mul, Nat.one_mul]
    omega)
  have hupper := nearestBits_mono (Nat.mul_le_mul_right unit (Nat.succ_le_of_lt h))
  rw [nearestBits_of_magnitude hx] at hlower
  rw [Nat.succ_eq_add_one] at hupper
  omega

theorem isNearestOn_lower (hreads : nearestBits (x / unit * unit) 1 = bits)
    (h : nearestBits ((x / unit + 1) * unit) 1 = bits → 2 * (x % unit) ≤ unit)
    (hunit : 0 < unit) : IsNearestOn x bits unit (x / unit) := by
  refine ⟨hreads, .inl rfl, fun m hm => ?_⟩
  rw [abs_sub_lower]
  rcases Nat.lt_or_ge (x / unit) m with hlt | hle
  · have hhalf := h (reads_upper hx hunit hm hlt)
    exact le_trans (by omega) (le_abs_sub_of_lt hlt)
  · exact le_abs_sub_of_le hle

theorem isNearestOn_upper (hreads : nearestBits ((x / unit + 1) * unit) 1 = bits)
    (h : nearestBits (x / unit * unit) 1 = bits → unit ≤ 2 * (x % unit))
    (hunit : 0 < unit) : IsNearestOn x bits unit (x / unit + 1) := by
  refine ⟨hreads, .inr rfl, fun m hm => ?_⟩
  rw [abs_sub_upper hunit]
  rcases Nat.lt_or_ge (x / unit) m with hlt | hle
  · exact le_abs_sub_of_lt hlt
  · have hhalf := h (reads_lower hx hm hle)
    exact le_trans (by omega) (le_abs_sub_of_le hle)

theorem isNearestOn_of_dvd (hunit : 0 < unit) (h : unit ∣ x) :
    IsNearestOn x bits unit (x / unit) := by
  refine isNearestOn_lower hx ?_ ?_ hunit
  · rw [Nat.div_mul_cancel h]
    exact nearestBits_of_magnitude hx
  · rw [Nat.mod_eq_zero_of_dvd h]
    omega

end Grid

/-- Scaling both terms of the quotient changes neither neighbour. -/
theorem gridBelow_eq (x : Nat) {q : Nat} (hq : 0 < q) (power : Nat) :
    gridBelow (x * q) q (-(power : Int)) = (x / 10 ^ power,
      decide (10 ^ power < 2 * (x % 10 ^ power)) ||
        (decide (10 ^ power = 2 * (x % 10 ^ power)) && x / 10 ^ power % 2 == 1)) := by
  by_cases hzero : power = 0
  · subst hzero
    simp [gridBelow, Nat.mod_one, hq.ne']
  · have hneg : ¬ 0 ≤ -(power : Int) := by omega
    have hdiv : x * q / (q * 10 ^ power) = x / 10 ^ power := by
      rw [Nat.mul_comm x q, Nat.mul_div_mul_left _ _ hq]
    have hmod : 2 * (x * q % (q * 10 ^ power)) = q * (2 * (x % 10 ^ power)) := by
      rw [Nat.mul_comm x q, Nat.mul_mod_mul_left]
      ring
    have hlt : q * 10 ^ power < q * (2 * (x % 10 ^ power)) ↔ 10 ^ power < 2 * (x % 10 ^ power) :=
      Nat.mul_lt_mul_left hq
    have heq : q * 10 ^ power = q * (2 * (x % 10 ^ power)) ↔ 10 ^ power = 2 * (x % 10 ^ power) :=
      Nat.mul_right_inj hq.ne'
    simp only [gridBelow, if_neg hneg, neg_neg, Int.toNat_natCast]
    change (x * q / (q * 10 ^ power), decide (q * 10 ^ power < 2 * (x * q % (q * 10 ^ power))) ||
      (decide (q * 10 ^ power = 2 * (x * q % (q * 10 ^ power))) &&
        x * q / (q * 10 ^ power) % 2 == 1)) = _
    rw [hdiv, hmod, decide_eq_decide.mpr hlt, decide_eq_decide.mpr heq]

section Search
variable (hx : magnitude bits = x) (hbits : bits < infinityBits) {q : Nat} (hq : 0 < q)
include hx hbits hq

/-- On one grid the search stops with a neighbour that is read as the float. If there is none,
nothing on this grid is read as it, and the search goes on with the next finer grid. -/
theorem shortestFrom_succ (power finer : Nat) :
    (∃ c, shortestFrom bits (x * q) q (-(power : Int)) (finer + 1) = (c, -(power : Int)) ∧
        IsNearestOn x bits (10 ^ power) c) ∨
      (∀ m, nearestBits (m * 10 ^ power) 1 ≠ bits) ∧
        shortestFrom bits (x * q) q (-(power : Int)) (finer + 1) =
          shortestFrom bits (x * q) q (-(power : Int) + 1) finer := by
  have hunit : 0 < 10 ^ power := by positivity
  have hread (m : Nat) : (nearestDecimalBits m (- -(power : Int)) == bits) =
      decide (nearestBits (m * 10 ^ power) 1 = bits) := by
    rw [neg_neg, Bool.eq_iff_iff]
    simpa using nearestDecimalBits_eq_iff hbits m power
  rw [shortestFrom, gridBelow_eq x hq]
  simp only [hread]
  by_cases hlow : nearestBits (x / 10 ^ power * 10 ^ power) 1 = bits
  · by_cases hhigh : nearestBits ((x / 10 ^ power + 1) * 10 ^ power) 1 = bits
    · simp only [hlow, hhigh, decide_true, Bool.and_self, if_true]
      split_ifs with hupper
      · refine .inl ⟨_, rfl, isNearestOn_upper hx hhigh (fun _ => ?_) hunit⟩
        simp only [Bool.or_eq_true, Bool.and_eq_true, decide_eq_true_eq] at hupper
        omega
      · refine .inl ⟨_, rfl, isNearestOn_lower hx hlow (fun _ => ?_) hunit⟩
        simp only [Bool.or_eq_true, Bool.and_eq_true, decide_eq_true_eq, not_or] at hupper
        omega
    · simp only [hlow, hhigh, decide_true, decide_false, Bool.and_false, Bool.false_eq_true,
        if_false, if_true]
      exact .inl ⟨_, rfl, isNearestOn_lower hx hlow (absurd · hhigh) hunit⟩
  · by_cases hhigh : nearestBits ((x / 10 ^ power + 1) * 10 ^ power) 1 = bits
    · simp only [hlow, hhigh, decide_true, decide_false, Bool.false_and, Bool.false_eq_true,
        if_false, if_true]
      exact .inl ⟨_, rfl, isNearestOn_upper hx hhigh (absurd · hlow) hunit⟩
    · simp only [hlow, hhigh, decide_false, Bool.false_and, Bool.false_eq_true, if_false]
      refine .inr ⟨fun m hm => ?_, trivial⟩
      rcases Nat.lt_or_ge (x / 10 ^ power) m with hlt | hle
      · exact hhigh (reads_upper hx hunit hm hlt)
      · exact hlow (reads_lower hx hm hle)

/-- The search stops on the first grid with a number that is read as the float. It gets that far if
it has as many steps left as the grid has zeros, and at once if the float is on the grid itself. -/
theorem shortestFrom_spec {power : Nat} (hsteps : power ≤ finer ∨ 10 ^ power ∣ x) :
    ∃ c k : Nat, shortestFrom bits (x * q) q (-(power : Int)) finer = (c, -(k : Int)) ∧ k ≤ power ∧
      IsNearestOn x bits (10 ^ k) c ∧
      ∀ i, k < i → i ≤ power → ∀ m, nearestBits (m * 10 ^ i) 1 ≠ bits := by
  induction finer generalizing power with
  | zero =>
    have hdvd : 10 ^ power ∣ x := by
      rcases hsteps with hle | hdvd
      · obtain rfl : power = 0 := by omega
        exact one_dvd x
      · exact hdvd
    refine ⟨x / 10 ^ power, power, ?_, le_rfl, isNearestOn_of_dvd hx (by positivity) hdvd, by omega⟩
    rw [shortestFrom, gridBelow_eq x hq]
  | succ finer ih =>
    rcases shortestFrom_succ hx hbits hq power finer with ⟨c, hfound, hnearest⟩ | ⟨hnone, hnext⟩
    · exact ⟨c, power, hfound, le_rfl, hnearest, by omega⟩
    · have hdvd : ¬ 10 ^ power ∣ x := fun h =>
        hnone _ (isNearestOn_of_dvd hx (by positivity) h).reads
      obtain ⟨less, rfl⟩ := Nat.exists_eq_succ_of_ne_zero (show power ≠ 0 by
        rintro rfl
        exact hdvd (one_dvd x))
      have hscale : -((less.succ : Nat) : Int) + 1 = -(less : Int) := by omega
      have hless : less ≤ finer := Nat.succ_le_succ_iff.mp (hsteps.resolve_right hdvd)
      obtain ⟨c, k, hfound, hk, hnearest, hcoarse⟩ := ih (.inl hless)
      rw [hnext, hscale]
      refine ⟨c, k, hfound, by omega, hnearest, fun i hi hle m => ?_⟩
      rcases Nat.lt_or_ge less i with hlt | hge
      · obtain rfl : i = less.succ := by omega
        exact hnone m
      · exact hcoarse i hi hge m

end Search

/-- Steps wider than one are whole. -/
theorem exists_power {exponent : Int} (h : (1 : ℚ) < 2 ^ exponent) :
    ∃ power : Nat, exponent = power :=
  Int.eq_ofNat_of_zero_le ((one_lt_zpow_iff_right₀ one_lt_two).mp h).le

/-- A number above the float that is rounded to it is at most half a step away. -/
theorem exists_step (hx : magnitude bits = x) (hreads : nearestBits n 1 = bits) (hlt : x < n) :
    ∃ mantissa power, x = mantissa * 2 ^ power ∧ 2 * n ≤ 2 * x + 2 ^ power := by
  obtain ⟨scale, mantissa, rfl, hfits, hfull⟩ := exists_scale bits
  have hbelow := (hreads ▸ roundsTo_natCast n).below_half
  rw [hx, Nat.add_assoc, magnitude_scaled hfits (by omega)] at hbelow
  rw [magnitude_scaled hfits.le hfull] at hx
  have hstep : 2 * (n : ℚ) ≤ 2 * x + 2 ^ ((scale : Int) - 1074) := by
    rw [← hx] at hbelow ⊢
    push_cast at hbelow
    linarith
  have hwhole : (1 : ℚ) < 2 ^ ((scale : Int) - 1074) := by
    have hlt : (x : ℚ) + 1 ≤ n := by exact_mod_cast hlt
    linarith
  obtain ⟨power, hpower⟩ := exists_power hwhole
  rw [hpower, zpow_natCast] at hx hstep
  exact ⟨mantissa, power, by exact_mod_cast hx.symm, by exact_mod_cast hstep⟩

/-- Of two multiples of a unit the greater one is half a unit or more above their middle. -/
theorem unit_add_le_max (hne : n ≠ m) (hsum : n * unit + m * unit = 2 * x) :
    unit + 2 * x ≤ 2 * max (n * unit) (m * unit) := by
  wlog hlt : n < m generalizing n m
  · rw [max_comm]
    exact this hne.symm (by omega) (by omega)
  · have hnext := Nat.mul_le_mul_right unit (Nat.succ_le_of_lt hlt)
    rw [Nat.succ_eq_add_one, Nat.add_mul, Nat.one_mul] at hnext
    omega

/-- There are no ties. The float would be halfway between neighbours on the grid, and so a multiple
of a smaller power of two than its step, which is as wide as the grid. -/
theorem IsNearestOn.not_tie {c k : Nat} (h : IsNearestOn x bits (10 ^ k) c)
    (hx : magnitude bits = x) (hm : nearestBits (m * 10 ^ k) 1 = bits) (hne : m ≠ c) :
    |(x : ℤ) - (c * 10 ^ k : Nat)| ≠ |(x : ℤ) - (m * 10 ^ k : Nat)| := by
  intro htie
  have hunit : 0 < 10 ^ k := by positivity
  have hdistinct : m * 10 ^ k ≠ c * 10 ^ k := fun heq => hne (Nat.eq_of_mul_eq_mul_right hunit heq)
  have hsum : (c + m) * 10 ^ k = 2 * x := by
    rw [Nat.add_mul]
    rcases abs_eq_abs.mp htie with hsame | hopposite <;> omega
  have hodd : ¬ 2 ∣ c + m := by
    rintro ⟨half, hhalf⟩
    have hmiddle : half * 10 ^ k = x := by
      rw [hhalf, Nat.mul_assoc] at hsum
      omega
    have hclosest := h.closest half (hmiddle ▸ nearestBits_of_magnitude hx)
    rw [hmiddle, sub_self, abs_zero, abs_nonpos_iff] at hclosest
    rw [Nat.add_mul] at hsum
    omega
  have hwide : 10 ^ k + 2 * x ≤ 2 * max (c * 10 ^ k) (m * 10 ^ k) :=
    unit_add_le_max hne.symm (by rwa [← Nat.add_mul])
  obtain ⟨mantissa, power, hmantissa, hstep⟩ : ∃ mantissa power, x = mantissa * 2 ^ power ∧
      2 * max (c * 10 ^ k) (m * 10 ^ k) ≤ 2 * x + 2 ^ power := by
    apply exists_step hx
    · rcases max_choice (c * 10 ^ k) (m * 10 ^ k) with hmax | hmax <;> rw [hmax]
      · exact h.reads
      · exact hm
    · omega
  have hdvd : 2 ^ (power + 1) ∣ 2 ^ k := by
    have hcoprime : Nat.Coprime (2 ^ (power + 1)) ((c + m) * 5 ^ k) := by
      apply Nat.Coprime.pow_left
      rw [Nat.coprime_two_left]
      exact (Nat.not_even_iff_odd.mp fun heven => hodd heven.two_dvd).mul (Odd.pow (by decide))
    refine hcoprime.dvd_of_dvd_mul_left ⟨mantissa, ?_⟩
    calc (c + m) * 5 ^ k * 2 ^ k = (c + m) * 10 ^ k := by
          rw [Nat.mul_assoc, ← Nat.mul_pow]
      _ = 2 ^ (power + 1) * mantissa := by rw [hsum, hmantissa]; ring
  have hlarge : 2 ^ (power + 1) ≤ 10 ^ k :=
    (Nat.le_of_dvd (by positivity) hdvd).trans (Nat.pow_le_pow_left (by decide) k)
  rw [pow_succ] at hlarge
  have hpos : 0 < 2 ^ power := by positivity
  omega

theorem magnitude_nearestBits_ten_pow {count : Nat} (h : count ≤ 22) :
    magnitude (nearestBits (10 ^ count) 1) = (10 ^ count : Nat) := by
  obtain ⟨bits, hbits⟩ := exists_magnitude_eq
    (show 5 ^ count ≤ 2 ^ 53 from (Nat.pow_le_pow_right (by decide) h).trans (by decide)) count
  have hpower : magnitude bits = (10 ^ count : Nat) := by
    rw [hbits]
    push_cast
    rw [← mul_pow]
    norm_num
  rw [nearestBits_of_magnitude hpower, hpower]

theorem nearestBits_zero_ne (hx : magnitude bits = x) (hpos : 0 < x) : nearestBits 0 1 ≠ bits := by
  rintro rfl
  have hzero : nearestBits 0 1 = 0 := rfl
  rw [hzero, magnitude_zero] at hx
  exact hpos.ne (by exact_mod_cast hx)

/-- No multiple of a power of ten beyond the float is rounded to it, as long as these powers are
floats themselves. -/
theorem not_reads_of_lt (hx : magnitude bits = x) (hpos : 0 < x) {count : Nat}
    (hcount : count ≤ 22) (hlt : x < 10 ^ count) {i : Nat} (hi : count ≤ i) (m : Nat) :
    nearestBits (m * 10 ^ i) 1 ≠ bits := by
  intro hm
  rcases Nat.eq_zero_or_pos m with rfl | hmpos
  · rw [Nat.zero_mul] at hm
    exact nearestBits_zero_ne hx hpos hm
  · have hle : 10 ^ count ≤ m * 10 ^ i :=
      (Nat.pow_le_pow_right (by decide) hi).trans (Nat.le_mul_of_pos_left _ hmpos)
    have hvalues := magnitude_strictMono.monotone (nearestBits_mono hle)
    rw [magnitude_nearestBits_ten_pow hcount, hm, hx] at hvalues
    exact absurd (by exact_mod_cast hvalues) (Nat.not_le.mpr hlt)

/-- What the search finds is the shortest of the numbers that are rounded to the float. -/
theorem IsNearestOn.eq_iff_isShortest {c k : Nat} (h : IsNearestOn x bits (10 ^ k) c)
    (hx : magnitude bits = x) (hcoarse : ∀ i, k < i → ∀ m, nearestBits (m * 10 ^ i) 1 ≠ bits)
    (hn : nearestBits n 1 = bits) : c * 10 ^ k = n ↔ IsShortest n := by
  have hgrid {m i : Nat} (hm : nearestBits m 1 = bits) (hdvd : 10 ^ i ∣ m) : i ≤ k := by
    by_contra hlt
    refine hcoarse i (Nat.not_le.mp hlt) (m / 10 ^ i) ?_
    rwa [Nat.div_mul_cancel hdvd]
  constructor
  · rintro rfl
    refine ⟨fun m i hm hdvd => ?_, fun m hm hdvd hne => ?_⟩
    · rw [hn] at hm
      exact (Nat.pow_dvd_pow 10 (hgrid hm hdvd)).mul_left c
    · rw [hn] at hm ⊢
      obtain ⟨other, rfl⟩ := hdvd k (Nat.dvd_mul_left _ c)
      rw [Nat.mul_comm (10 ^ k) other] at hm hne ⊢
      have hother : other ≠ c := fun heq => hne (heq ▸ rfl)
      have hle := h.closest other hm
      have hlt := hle.lt_of_ne (h.not_tie hx hm hother)
      rw [hx]
      exact_mod_cast hlt
  · intro hshortest
    by_contra hne
    have hdvd : 10 ^ k ∣ n := hshortest.coarsest (c * 10 ^ k) k (h.reads.trans hn.symm)
      (Nat.dvd_mul_left _ c)
    have hcloser := hshortest.closest (c * 10 ^ k) (h.reads.trans hn.symm)
      (fun i hi => (Nat.pow_dvd_pow 10 (hgrid hn hi)).mul_left c) hne
    have hclosest := h.closest (n / 10 ^ k) (by rwa [Nat.div_mul_cancel hdvd])
    rw [Nat.div_mul_cancel hdvd] at hclosest
    rw [hn, hx] at hcloser
    exact absurd (by exact_mod_cast hcloser) (not_lt.mpr hclosest)

theorem magnitude_nearestBits (h : n ≤ 2 ^ 53) : magnitude (nearestBits n 1) = n := by
  obtain ⟨bits, hbits⟩ := exists_magnitude_eq h 0
  rw [pow_zero, mul_one] at hbits
  rw [nearestBits_of_magnitude hbits, hbits]

theorem nearestBits_strictMono (hm : m < 2 ^ 53) (h : m < n) :
    nearestBits m 1 < nearestBits n 1 := by
  have hnext : nearestBits m 1 < nearestBits (m + 1) 1 := by
    rw [← magnitude_strictMono.lt_iff_lt, magnitude_nearestBits hm.le, magnitude_nearestBits hm]
    exact_mod_cast Nat.lt_succ_self m
  exact hnext.trans_le (nearestBits_mono h)

/-- The float that is nearest to a natural number is a natural number itself. -/
theorem exists_whole (n : Nat) : ∃ x : Nat, magnitude (nearestBits n 1) = x := by
  rcases Nat.le_total n (2 ^ 53) with hle | hle
  · exact ⟨n, magnitude_nearestBits hle⟩
  · have hlarge := magnitude_strictMono.monotone (nearestBits_mono hle)
    obtain ⟨scale, mantissa, hbits, hfits, hfull⟩ := exists_scale (nearestBits n 1)
    rw [magnitude_nearestBits le_rfl, hbits, magnitude_scaled hfits.le hfull] at hlarge
    have hwhole : (1 : ℚ) < 2 ^ ((scale : Int) - 1074) := by
      have hlt : (mantissa : ℚ) < (2 ^ 53 : Nat) := Nat.cast_lt.mpr hfits
      by_contra hsmall
      have hshrunk := mul_le_mul_of_nonneg_left (not_lt.mp hsmall) (Nat.cast_nonneg mantissa)
      linarith
    obtain ⟨power, hpower⟩ := exists_power hwhole
    refine ⟨mantissa * 2 ^ power, ?_⟩
    rw [hbits, magnitude_scaled hfits.le hfull, hpower, zpow_natCast]
    push_cast
    rfl

/-- Numbers below the limit of the mantissa are the only ones that are rounded to their floats. -/
theorem isShortest_of_lt (h : n < 2 ^ 53) : IsShortest n := by
  have honly {m : Nat} (hm : nearestBits m 1 = nearestBits n 1) : m = n := by
    by_contra hne
    rcases Nat.lt_or_gt_of_ne hne with hlt | hgt
    · exact (nearestBits_strictMono (hlt.trans h) hlt).ne hm
    · exact (nearestBits_strictMono h hgt).ne' hm
  exact ⟨fun m k hm hdvd => honly hm ▸ hdvd, fun m hm _ hne => absurd (honly hm) hne⟩

theorem nearestBits_lt_infinityBits (h : n < 10 ^ 18) : nearestBits n 1 < infinityBits := by
  rw [← Nat.not_le, infinityBits_le_nearestBits_iff one_pos, Nat.mul_one, Nat.not_le]
  exact h.trans (by decide +kernel)

/-- A whole float as a quotient. -/
theorem exists_quotient {mantissa : Nat} {exponent : Int}
    (hvalue : (mantissa : ℚ) * 2 ^ exponent = x) :
    ∃ q, 0 < q ∧ (if 0 ≤ exponent then 1 else 2 ^ (-exponent).toNat) = q ∧
      (if 0 ≤ exponent then mantissa * 2 ^ exponent.toNat else mantissa) = x * q := by
  obtain ⟨power, rfl | rfl⟩ := exponent.eq_nat_or_neg
  · refine ⟨1, one_pos, if_pos (Int.natCast_nonneg power), ?_⟩
    rw [if_pos (Int.natCast_nonneg power), Int.toNat_natCast, Nat.mul_one]
    rw [zpow_natCast] at hvalue
    exact_mod_cast hvalue
  · by_cases hzero : power = 0
    · subst hzero
      exact ⟨1, one_pos, rfl, by simpa using hvalue⟩
    · have hneg : ¬ 0 ≤ -(power : Int) := by omega
      refine ⟨2 ^ power, by positivity, by rw [if_neg hneg, neg_neg, Int.toNat_natCast], ?_⟩
      rw [if_neg hneg]
      rw [zpow_neg, zpow_natCast, ← div_eq_mul_inv, div_eq_iff (by positivity)] at hvalue
      exact_mod_cast hvalue

/-- The digits of a whole float within the range of 18 digits, and the place of their point: those
of the shortest number, without the zeros at its end. -/
theorem exists_shortestDigits (hx : magnitude bits = x) (hpos : 0 < x) (hlimit : x ≤ 10 ^ 18)
    (hbits : bits < infinityBits) {mantissa : Nat} {exponent : Int}
    (hvalue : (mantissa : ℚ) * 2 ^ exponent = x) :
    ∃ c k : Nat, shortestDigits mantissa exponent =
        (((Nat.toDigits 10 c).reverse.dropWhile (· == '0')).reverse,
          ((Nat.toDigits 10 c).length + k : Int)) ∧
      0 < c ∧ ∀ n, nearestBits n 1 = bits → (c * 10 ^ k = n ↔ IsShortest n) := by
  obtain ⟨q, hq, hdenominator, hnumerator⟩ := exists_quotient hvalue
  have hround : nearestBits (x * q) q = bits := by
    have hcast : (q : ℚ) ≠ 0 := by exact_mod_cast hq.ne'
    have hratio := roundsTo_nearestBits (x * q) hq
    rw [Nat.cast_mul, mul_div_cancel_right₀ _ hcast, ← hx] at hratio
    exact hratio.unique (roundsTo_magnitude bits)
  have hcount : 0 < digitCount x := Nat.length_toDigits_pos
  have hpoint : 1 - decimalPoint (x * q) q = -((digitCount x - 1 : Nat) : Int) := by
    rw [decimalPoint, if_pos (Nat.le_mul_of_pos_left q hpos), Nat.mul_div_cancel x hq]
    omega
  have hupper : x < 10 ^ digitCount x := lt_ten_pow_length x
  have hlower : 10 ^ digitCount x ≤ 10 * x := ten_pow_length_le hpos.ne'
  have hrange : digitCount x ≤ 19 := by
    rw [← Nat.pow_le_pow_iff_right (show 1 < 10 by decide)]
    exact hlower.trans (by omega)
  have hsteps : digitCount x - 1 ≤ 17 ∨ 10 ^ (digitCount x - 1) ∣ x := by
    rcases hrange.lt_or_eq with hlt | heq
    · exact .inl (by omega)
    · rw [heq] at hlower ⊢
      obtain rfl : x = 10 ^ 18 := by omega
      exact .inr dvd_rfl
  obtain ⟨c, k, hfound, hk, hnearest, hcoarse⟩ := shortestFrom_spec hx hbits hq hsteps
  have hcoarse : ∀ i, k < i → ∀ m, nearestBits (m * 10 ^ i) 1 ≠ bits := by
    intro i hi m
    rcases Nat.lt_or_ge i (digitCount x) with hlt | hge
    · exact hcoarse i hi (by omega) m
    · exact not_reads_of_lt hx hpos (hrange.trans (by decide)) hupper hge m
  refine ⟨c, k, ?_, ?_, fun n hn => hnearest.eq_iff_isShortest hx hcoarse hn⟩
  · have hsearch : shortestFrom (nearestBits (x * q) q) (x * q) q (1 - decimalPoint (x * q) q) 17 =
        (c, -(k : Int)) := by rw [hround, hpoint, hfound]
    rw [← hnumerator, ← hdenominator] at hsearch
    unfold shortestDigits
    dsimp only
    rw [hsearch]
    simp
  · by_contra hzero
    obtain rfl : c = 0 := by omega
    exact nearestBits_zero_ne hx hpos (by simpa using hnearest.reads)

end TableTalk.Number
