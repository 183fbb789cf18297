import PayBridge.Binary64.Reader
import PayBridge.Proofs.Binary64.Grid
import PayBridge.Proofs.Binary64.Rounding

/-! Which decimals read as a double: those whose number lies between the midpoints to its two neighbours. The powers
that are not computed lie beyond all doubles. -/
namespace PayBridge.Binary64

open PayBridge.Text

def value (x : Binary64) : ℚ := (if x.negative then -1 else 1) * (x.units / one)

variable {x : Binary64} {digits : Nat} {exponent : Int}

section Bounds

theorem units_pos_iff : 0 < x.units ↔ x.isZero = false := by
  have gap : 0 < 2 ^ x.shift := Nat.pow_pos (by decide)
  rw [units, Nat.mul_pos_iff_of_pos_right gap, isZero, beq_eq_false_iff_ne, significand]
  split <;> omega

/-- A double is as far from zero as from its neighbour, at least. -/
theorem gap_le_units (some : x.isZero = false) : 2 ^ x.shift ≤ x.units := by
  apply Nat.le_mul_of_pos_left
  exact Nat.pos_of_mul_pos_right (units_pos_iff.mpr some)

theorem middle_interval (x : Binary64) : x.interval.middle = x.units / one := by
  have four : ((4 * x.units : Nat) : ℚ) = 4 * x.units := by push_cast; rfl
  rw [Interval.middle, interval, four, mul_div_mul_left _ _ four_ne_zero]

theorem value_abs (x : Binary64) : x.abs.value = x.interval.middle := by
  rw [middle_interval]
  exact one_mul _

theorem value_neg_iff : x.value < 0 ↔ (x.negative && !x.isZero) = true := by
  have unit : (0 : ℚ) < one := Nat.cast_pos.mpr one_pos
  unfold value
  cases x.negative with
  | false =>
    have least : (0 : ℚ) ≤ x.units / one := div_nonneg (Nat.cast_nonneg _) unit.le
    rw [if_neg Bool.false_ne_true, one_mul, Bool.false_and]
    constructor
    · intro below
      exact absurd below (not_lt.mpr least)
    · nofun
  | true =>
    simp only [↓reduceIte, neg_mul, one_mul, Left.neg_neg_iff, Bool.true_and, Bool.not_eq_true']
    rw [div_pos_iff_of_pos_right unit, Nat.cast_pos]
    exact units_pos_iff

/-- The interval is wide enough for both midpoints, and ends above zero. -/
theorem interval_bounds (some : x.isZero = false) :
    2 ≤ x.interval.low ∧ x.interval.low < x.interval.value ∧ x.interval.value + 2 ≤ x.interval.high := by
  have least := gap_le_units some
  have gap : 0 < 2 ^ x.shift := Nat.pow_pos (by decide)
  simp only [interval]
  split <;> omega

theorem Interval.Holds.lt_pow {i : Interval} {number : ℚ} (holds : i.Holds number) (tens : Nat)
    (high : i.high < 4 * (one * 10 ^ tens)) : number < 10 ^ tens := by
  have above : (i.high : ℚ) < 4 * (one * 10 ^ tens) := by exact_mod_cast high
  have below := holds.weak.2.trans_lt above
  apply lt_of_mul_lt_mul_right _ Interval.quarters_pos.le
  linarith

theorem Interval.Holds.one_le_mul_pow {i : Interval} {number : ℚ} (holds : i.Holds number) (tens : Nat)
    (low : 2 ≤ i.low) (fine : one * 2 ≤ 10 ^ tens) : 1 ≤ number * 10 ^ tens := by
  have two : (2 : ℚ) ≤ i.low := by exact_mod_cast low
  have step : ((one * 2 : Nat) : ℚ) ≤ (10 ^ tens : Nat) := Nat.cast_le.mpr fine
  rw [Nat.cast_mul, Nat.cast_pow, Nat.cast_ofNat, Nat.cast_ofNat] at step
  have least := two.trans holds.weak.1
  have positive : 0 ≤ number := by
    apply le_of_mul_le_mul_right _ Interval.quarters_pos
    linarith
  have scaled := mul_le_mul_of_nonneg_left step positive
  linarith

theorem interval_isProper (some : x.isZero = false) : x.interval.IsProper := by
  obtain ⟨_, low, high⟩ := interval_bounds some
  constructor
  · exact low
  · omega

/-- Powers of ten that stay above powers of two: 28 tens for 93 twos, and the rest. -/
theorem two_pow_le_ten_pow (places n two ten : Nat) (split : places ≤ 93 * n + two) (rest : 2 ^ two ≤ 10 ^ ten) :
    2 ^ places ≤ 10 ^ (28 * n + ten) := by
  have tens : (2 ^ 93) ^ n ≤ (10 ^ 28) ^ n := Nat.pow_le_pow_left (by decide) n
  apply Nat.le_trans (Nat.pow_le_pow_right (by decide) split)
  rw [Nat.pow_add, Nat.pow_add, Nat.pow_mul, Nat.pow_mul]
  exact Nat.mul_le_mul tens rest

theorem one_mul_two_pow (n : Nat) : one * 2 ^ n = 2 ^ (1074 + n) := by
  simp only [one, Nat.pow_add]

theorem two_pow_le_one_mul (places n : Nat) (few : places ≤ 1074 + n) : 2 ^ places ≤ one * 2 ^ n := by
  rw [one_mul_two_pow]
  exact Nat.pow_le_pow_right (by decide) few

/-- The grid that is tried last is finer than half a unit. -/
theorem one_mul_two_le : one * 2 ≤ 10 ^ (28 * 11 + 16) := by
  have tens := two_pow_le_ten_pow (1074 + 1) 11 52 16 (by decide) (by decide)
  rewrite [← one_mul_two_pow 1, Nat.pow_one] at tens
  exact tens

theorem shift_le (finite : x.isFinite = true) : x.shift ≤ 2045 := by
  have below : x.code.val < infinityCode := of_decide_eq_true finite
  simp only [infinityCode] at below
  simp only [shift]
  omega

/-- No double reaches the powers of ten that are not tried. -/
theorem high_lt (finite : x.isFinite = true) : x.interval.high < 4 * (one * 10 ^ (28 * 11 + 1)) := by
  have gap : 0 < 2 ^ x.shift := Nat.pow_pos (by decide)
  have most : x.units + 2 ^ x.shift ≤ 2 ^ 53 * 2 ^ x.shift := by
    rw [units, ← Nat.succ_mul]
    exact Nat.mul_le_mul_right _ x.significand_lt
  have exponents : 53 + x.shift ≤ 1074 + (93 * 11 + 1) := by
    have places := shift_le finite
    omega
  have powers := two_pow_le_one_mul (53 + x.shift) (93 * 11 + 1) exponents
  have tens := two_pow_le_ten_pow (93 * 11 + 1) 11 1 1 (by decide) (by decide)
  have scaled := Nat.le_trans powers (Nat.mul_le_mul_left one tens)
  rw [Nat.pow_add 2 53] at scaled
  simp only [interval]
  omega

end Bounds

section Digits

theorem digits_lt_pow (digits : Nat) : (digits : ℚ) < 10 ^ (decimal digits).length := by
  have below : digits < 10 ^ (decimal digits).length :=
    (Nat.length_toDigits_le_iff (by decide) Nat.length_toDigits_pos).mp (Nat.le_refl _)
  exact_mod_cast below

theorem pow_le_digits (some : 0 < digits) : (10 : ℚ) ^ ((decimal digits).length - 1) ≤ digits := by
  have above : 10 ^ ((decimal digits).length - 1) ≤ digits := by
    by_cases single : (decimal digits).length - 1 = 0
    · rw [single]
      exact some
    · apply Nat.le_of_not_lt
      intro below
      have shorter : (decimal digits).length ≤ (decimal digits).length - 1 :=
        (Nat.length_toDigits_le_iff (by decide) (Nat.pos_of_ne_zero single)).mpr below
      omega
  exact_mod_cast above

variable {power : Int}

theorem number_lt_pow (places : (decimal digits).length + exponent ≤ power) :
    (digits : ℚ) * 10 ^ exponent < 10 ^ power := by
  have unit : (0 : ℚ) < 10 ^ exponent := by positivity
  calc (digits : ℚ) * 10 ^ exponent < 10 ^ (decimal digits).length * 10 ^ exponent :=
        mul_lt_mul_of_pos_right (digits_lt_pow digits) unit
    _ = 10 ^ ((decimal digits).length + exponent) := by rw [zpow_add₀ (by decide), zpow_natCast]
    _ ≤ 10 ^ power := zpow_le_zpow_right₀ (by decide) places

theorem number_mul_pow_lt_one (tens : Nat) (places : (decimal digits).length + exponent ≤ -tens) :
    (digits : ℚ) * 10 ^ exponent * 10 ^ tens < 1 := by
  have unit : (0 : ℚ) < 10 ^ tens := by positivity
  calc (digits : ℚ) * 10 ^ exponent * 10 ^ tens < 10 ^ (-tens : Int) * 10 ^ tens :=
        mul_lt_mul_of_pos_right (number_lt_pow places) unit
    _ = 1 := by rw [zpow_neg, zpow_natCast, inv_mul_cancel₀ unit.ne']

theorem pow_le_number (some : 0 < digits) (places : power < (decimal digits).length + exponent) :
    10 ^ power ≤ (digits : ℚ) * 10 ^ exponent := by
  have unit : (0 : ℚ) < 10 ^ exponent := by positivity
  have full : 0 < (decimal digits).length := Nat.length_toDigits_pos
  calc (10 : ℚ) ^ power ≤ 10 ^ (((decimal digits).length - 1 : Nat) + exponent) :=
        zpow_le_zpow_right₀ (by decide) (by omega)
    _ = 10 ^ ((decimal digits).length - 1) * 10 ^ exponent := by rw [zpow_add₀ (by decide), zpow_natCast]
    _ ≤ digits * 10 ^ exponent := mul_le_mul_of_nonneg_right (pow_le_digits some) unit.le

end Digits

theorem ofDecimal_zero (exponent : Int) : ofDecimal 0 exponent = zero := by
  rw [ofDecimal, if_pos rfl]

theorem abs_of_isZero (none : x.isZero = true) : x.abs = zero := by
  have code : x.code = 0 := Fin.ext (beq_iff_eq.mp none)
  exact congrArg (Binary64.mk false) code

theorem zero_ne_abs (nonzero : x.isZero = false) : zero ≠ x.abs := by
  intro same
  have zeros : true = x.isZero := congrArg isZero same
  rw [nonzero] at zeros
  cases zeros

theorem infinity_ne_abs (finite : x.isFinite = true) : infinity ≠ x.abs := by
  intro same
  have finites : false = x.isFinite := congrArg isFinite same
  rw [finite] at finites
  cases finites

theorem ofUnits_eq_abs_iff {num den : Nat} : ofUnits num den = x.abs ↔ nearestCode num den = x.code.val := by
  constructor
  · intro same
    exact congrArg (fun y => y.code.val) same
  · intro code
    exact congrArg (Binary64.mk false) (Fin.ext code)

/-- A decimal reads as a double just if its number is in the interval of the double. -/
theorem ofDecimal_eq_abs_iff (finite : x.isFinite = true) (nonzero : x.isZero = false) :
    ofDecimal digits exponent = x.abs ↔ 0 < digits ∧ x.interval.Holds (digits * 10 ^ exponent) := by
  unfold ofDecimal
  by_cases none : digits = 0
  · rw [if_pos none, none]
    constructor
    · intro zeros
      exact absurd zeros (zero_ne_abs nonzero)
    · rintro ⟨some, _⟩
      exact absurd some (Nat.lt_irrefl 0)
  have some := Nat.pos_of_ne_zero none
  rw [if_neg none, and_iff_right some]
  by_cases large : 310 < (decimal digits).length + exponent
  · rw [if_pos large]
    constructor
    · intro infinite
      exact absurd infinite (infinity_ne_abs finite)
    · intro holds
      have number : (10 : ℚ) ^ ((28 * 11 + 1 : Nat) : Int) ≤ digits * 10 ^ exponent := pow_le_number some (by omega)
      rw [zpow_natCast] at number
      exact absurd (holds.lt_pow _ (high_lt finite)) (not_lt.mpr number)
  rw [if_neg large]
  by_cases small : (decimal digits).length + exponent < -330
  · rw [if_pos small]
    constructor
    · intro zeros
      exact absurd zeros (zero_ne_abs nonzero)
    · intro holds
      have places : (decimal digits).length + exponent ≤ -(28 * 11 + 16 : Nat) := by omega
      have number := number_mul_pow_lt_one (28 * 11 + 16) places
      exact absurd (holds.one_le_mul_pow _ (interval_bounds nonzero).1 one_mul_two_le) (not_le.mpr number)
  · rw [if_neg small, ofRatio, ofUnits_eq_abs_iff, nearestCode_eq_iff finite (Nat.pow_pos (by decide)),
      ← contains_grid_iff]
    have quarters : 4 * (digits * 10 ^ exponent.toNat * one) = digits * gridStep exponent := by
      unfold gridStep
      generalize one = unit
      ac_rfl
    rw [quarters, gridScale]

theorem ofDecimal_congr {other : Nat} {power : Int} (finite : x.isFinite = true) (nonzero : x.isZero = false)
    (same : (digits : ℚ) * 10 ^ exponent = other * 10 ^ power) (reads : ofDecimal other power = x.abs) :
    ofDecimal digits exponent = x.abs := by
  obtain ⟨some, holds⟩ := (ofDecimal_eq_abs_iff finite nonzero).mp reads
  rw [← same] at holds
  refine (ofDecimal_eq_abs_iff finite nonzero).mpr ⟨?_, holds⟩
  apply Nat.pos_of_ne_zero
  rintro rfl
  have positive : (0 : ℚ) < other * 10 ^ power := by positivity
  rw [← same, Nat.cast_zero, zero_mul] at positive
  exact lt_irrefl 0 positive

end PayBridge.Binary64
