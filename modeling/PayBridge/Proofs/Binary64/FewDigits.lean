import PayBridge.Proofs.Binary64.Shortest

/-! Few digits survive. A decimal of so few digits that no other one of its grid is near the double that it reads as is
found again by the search for the shortest one. -/
namespace PayBridge.Binary64

variable {x : Binary64} {digits other : Nat} {exponent : Int} {tie : Tie} {start : Int} {s : Shortest}

/-- The interval of a double reaches no farther than its gap to both sides. -/
theorem interval_width (some : x.isZero = false) : x.interval.high ≤ x.interval.low + 4 * 2 ^ x.shift := by
  have least := gap_le_units some
  simp only [interval]
  split <;> omega

/-- The gap to the next double is less than a step of the grid that holds a decimal of at most 52 binary places. -/
theorem gap_lt_step (few : digits < 2 ^ 52) (holds : x.interval.Holds (digits * 10 ^ exponent))
    (fine : 1 < (10 : ℚ) ^ exponent * one) : (2 : ℚ) ^ x.shift < 10 ^ exponent * one := by
  by_cases unshifted : x.shift = 0
  · rw [unshifted, pow_zero]
    exact fine
  · have full := le_significand unshifted
    have low : 4 * 2 ^ 52 * 2 ^ x.shift ≤ x.interval.low + 2 * 2 ^ x.shift := by
      have scaled : 2 ^ 52 * 2 ^ x.shift ≤ x.units := Nat.mul_le_mul_right _ full
      simp only [interval]
      split <;> omega
    have low' : (4 : ℚ) * 2 ^ 52 * 2 ^ x.shift ≤ x.interval.low + 2 * 2 ^ x.shift := by exact_mod_cast low
    have few' : (digits : ℚ) ≤ 2 ^ 52 - 1 := by
      have : (digits : ℚ) + 1 ≤ 2 ^ 52 := by exact_mod_cast few
      linarith
    have step : (0 : ℚ) < 10 ^ exponent * one := lt_trans zero_lt_one fine
    have gap : (0 : ℚ) < 2 ^ x.shift := by positivity
    have inside := holds.weak.1
    have most := mul_le_mul_of_nonneg_right few' step.le
    linarith

theorem digits_unique (some : x.isZero = false) (few : digits < 2 ^ 52)
    (holds : x.interval.Holds (digits * 10 ^ exponent)) (fine : 1 < (10 : ℚ) ^ exponent * one)
    (holds' : x.interval.Holds (other * 10 ^ exponent)) : other = digits := by
  have width : (x.interval.high : ℚ) ≤ x.interval.low + 4 * 2 ^ x.shift := by exact_mod_cast interval_width some
  have gap := gap_lt_step few holds fine
  have step : (0 : ℚ) < 10 ^ exponent * one := lt_trans zero_lt_one fine
  obtain ⟨low, high⟩ := holds.weak
  obtain ⟨low', high'⟩ := holds'.weak
  -- two whole numbers whose multiples of the step are less than a step apart
  have below : (other : ℚ) < digits + 1 := by
    apply lt_of_mul_lt_mul_right _ step.le
    linarith
  have above : (digits : ℚ) < other + 1 := by
    apply lt_of_mul_lt_mul_right _ step.le
    linarith
  have below' : other < digits + 1 := by exact_mod_cast below
  have above' : digits < other + 1 := by exact_mod_cast above
  omega

namespace IsFirst

/-- No decimal in the interval stands on a coarser grid than the one that is found. -/
theorem coarsest (first : IsFirst tie x.interval start s) (small : x.interval.middle < 10 ^ start)
    (nonzero : x.isZero = false) (some : 0 < digits) (holds : x.interval.Holds (digits * 10 ^ exponent)) :
    exponent ≤ s.exponent := by
  have proper := interval_isProper nonzero
  rcases first.before with coarse | none
  · -- the first grid is coarser than the double, and an interval reaches no farther than twice its value
    by_contra coarser
    have high : x.interval.high ≤ 2 * x.interval.value := by
      have least := gap_le_units nonzero
      simp only [interval]
      omega
    have most : (digits : ℚ) * 10 ^ exponent ≤ 2 * x.interval.middle := by
      have high' : (x.interval.high : ℚ) ≤ 2 * x.interval.value := by exact_mod_cast high
      apply le_of_mul_le_mul_right _ Interval.quarters_pos
      rw [mul_assoc 2, Interval.middle_mul]
      exact holds.weak.2.trans high'
    have least : (10 : ℚ) ^ (start + 1) ≤ digits * 10 ^ exponent := by
      have one : (1 : ℚ) ≤ digits := by exact_mod_cast some
      have power : (10 : ℚ) ^ (start + 1) ≤ 10 ^ exponent := zpow_le_zpow_right₀ (by norm_num) (by omega)
      exact power.trans (le_mul_of_one_le_left (by positivity) one)
    have unit : (0 : ℚ) < 10 ^ start := by positivity
    rw [zpow_add_one₀ (by decide)] at least
    linarith
  · by_contra coarser
    exact not_holds_coarser proper none some (Int.lt_of_not_ge coarser) holds

end IsFirst

/-- Of few digits, the shortest decimal of the double that they read as has the same number. -/
theorem shortest_of_few (tie : Tie) (nonzero : x.isZero = false) (some : 0 < digits) (few : digits < 2 ^ 52)
    (holds : x.interval.Holds (digits * 10 ^ exponent)) (fine : 1 < (10 : ℚ) ^ exponent * one) :
    (x.shortest tie).value = digits * 10 ^ exponent ∧ (x.shortest tie).digits % 10 ≠ 0 := by
  have proper := interval_isProper nonzero
  obtain ⟨start, small, first⟩ := shortest_isFirst tie nonzero
  generalize x.shortest tie = s at first ⊢
  obtain ⟨more, grid⟩ := Int.le.dest (first.coarsest small nonzero some holds)
  have point : s.value = (s.digits * 10 ^ more : Nat) * 10 ^ exponent := by
    rw [Shortest.value, ← grid, zpow_add₀ (by decide), zpow_natCast, Nat.cast_mul, Nat.cast_pow, Nat.cast_ofNat]
    ring
  have inside : x.interval.Holds s.value := (isGridPoint_of_gridPoint? proper first.found).holds
  rw [point] at inside ⊢
  rw [digits_unique nonzero few holds fine inside]
  exact ⟨rfl, first.last_digit proper small⟩

end PayBridge.Binary64
