import Mathlib.Algebra.Order.Floor.Semifield
import Mathlib.Data.Rat.Floor
import PayBridge.Decimal.Basic

/-! The number that a decimal stands for. Normalizing keeps the number and leaves no zero at the end of the
fraction, so a normal decimal shows how fine its number is. -/
namespace PayBridge.Decimal

def value (d : Decimal) : ℚ := (if d.negative then -1 else 1) * (d.mantissa / 10 ^ d.scale)

theorem strippedParts_ratio (mantissa scale : Nat) :
    (strippedParts mantissa scale).1 * 10 ^ scale = mantissa * 10 ^ (strippedParts mantissa scale).2 := by
  induction scale generalizing mantissa with
  | zero => rfl
  | succ scale ih =>
    rw [strippedParts]
    split
    · rename_i ends
      have tens : mantissa / 10 * 10 = mantissa := Nat.div_mul_cancel (Nat.dvd_of_mod_eq_zero ends)
      calc (strippedParts (mantissa / 10) scale).1 * 10 ^ (scale + 1)
          = (strippedParts (mantissa / 10) scale).1 * 10 ^ scale * 10 := by rw [Nat.pow_succ, Nat.mul_assoc]
        _ = mantissa / 10 * 10 ^ (strippedParts (mantissa / 10) scale).2 * 10 := by rw [ih]
        _ = mantissa / 10 * 10 * 10 ^ (strippedParts (mantissa / 10) scale).2 := Nat.mul_right_comm ..
        _ = mantissa * 10 ^ (strippedParts (mantissa / 10) scale).2 := by rw [tens]
    · rfl

theorem strippedParts_tight (mantissa scale : Nat) :
    (strippedParts mantissa scale).2 = 0 ∨ (strippedParts mantissa scale).1 % 10 ≠ 0 := by
  induction scale generalizing mantissa with
  | zero => exact .inl rfl
  | succ scale ih =>
    rw [strippedParts]
    split
    · exact ih (mantissa / 10)
    · rename_i ends
      exact .inr ends

variable {d : Decimal}

theorem normalize_tight (d : Decimal) : d.normalize.scale = 0 ∨ d.normalize.mantissa % 10 ≠ 0 :=
  strippedParts_tight d.mantissa d.scale

theorem normalize_value (d : Decimal) : d.normalize.value = d.value := by
  have ratio : (d.normalize.mantissa : ℚ) * 10 ^ d.scale = d.mantissa * 10 ^ d.normalize.scale := by
    exact_mod_cast strippedParts_ratio d.mantissa d.scale
  have magnitude : (d.normalize.mantissa : ℚ) / 10 ^ d.normalize.scale = d.mantissa / 10 ^ d.scale := by
    rw [div_eq_div_iff (by positivity) (by positivity), ratio]
  unfold value
  rw [magnitude]
  by_cases zero : d.mantissa = 0
  · simp only [zero, Nat.cast_zero, zero_div, mul_zero]
  · have sign : d.normalize.negative = d.negative := by
      simp only [normalize, isNegative, bne_iff_ne, ne_eq, zero, not_false_eq_true, Bool.and_eq_left_iff_imp,
        implies_true]
    rw [sign]

theorem isNegative_iff (d : Decimal) : d.isNegative = true ↔ d.value < 0 := by
  have power : (0 : ℚ) < 10 ^ d.scale := by positivity
  unfold isNegative value
  cases d.negative with
  | false =>
    have least : (0 : ℚ) ≤ d.mantissa / 10 ^ d.scale := by positivity
    simpa using least
  | true =>
    simp only [Bool.true_and, bne_iff_ne, ne_eq, ↓reduceIte, neg_mul, one_mul, Left.neg_neg_iff]
    rw [div_pos_iff_of_pos_right power, Nat.cast_pos, Nat.pos_iff_ne_zero]

theorem value_of_positive (positive : d.negative = false) : d.value = d.mantissa / 10 ^ d.scale := by
  simp only [value, positive, Bool.false_eq_true, ↓reduceIte, one_mul]

theorem floor_value (positive : d.negative = false) (places : Nat) :
    ⌊d.value * 10 ^ places⌋₊ = d.mantissa * 10 ^ places / 10 ^ d.scale := by
  rw [value_of_positive positive, div_mul_eq_mul_div]
  exact_mod_cast Nat.floor_div_eq_div (K := ℚ) (d.mantissa * 10 ^ places) (10 ^ d.scale)

/-- A number is a whole number of units if the units divide it evenly. -/
theorem value_whole_iff_dvd (positive : d.negative = false) (places : Nat) :
    d.value * 10 ^ places = (⌊d.value * 10 ^ places⌋₊ : ℚ) ↔ 10 ^ d.scale ∣ d.mantissa * 10 ^ places := by
  have power : (10 ^ d.scale : ℚ) ≠ 0 := by positivity
  rw [floor_value positive, value_of_positive positive, div_mul_eq_mul_div, div_eq_iff power]
  constructor
  · intro even
    have whole : d.mantissa * 10 ^ places = d.mantissa * 10 ^ places / 10 ^ d.scale * 10 ^ d.scale := by
      exact_mod_cast even
    exact Dvd.intro_left _ whole.symm
  · intro divides
    exact_mod_cast (Nat.div_mul_cancel divides).symm

/-- A normal decimal is a whole number of units if it shows no finer places than they are, and only then. -/
theorem value_whole_iff (positive : d.negative = false) (tight : d.scale = 0 ∨ d.mantissa % 10 ≠ 0) (places : Nat) :
    d.value * 10 ^ places = (⌊d.value * 10 ^ places⌋₊ : ℚ) ↔ d.scale ≤ places := by
  rw [value_whole_iff_dvd positive]
  constructor
  · intro divides
    by_contra finer
    obtain ⟨more, scale⟩ := Nat.exists_eq_add_of_lt (Nat.lt_of_not_le finer)
    -- one place too many is left, and it would have to be a zero
    have fewer : 10 ^ (more + 1) ∣ d.mantissa := by
      refine Nat.dvd_of_mul_dvd_mul_right (Nat.pow_pos (show 0 < 10 by decide) : 0 < 10 ^ places) ?_
      rwa [← Nat.pow_add, Nat.add_comm, ← Nat.add_assoc, ← scale]
    have last : d.mantissa % 10 = 0 :=
      Nat.mod_eq_zero_of_dvd (Nat.dvd_trans (Dvd.intro_left _ (Nat.pow_succ ..).symm) fewer)
    rcases tight with unscaled | digit
    · omega
    · exact digit last
  · intro coarse
    exact Nat.dvd_mul_left_of_dvd (Nat.pow_dvd_pow 10 coarse) d.mantissa

end PayBridge.Decimal
