import Mathlib.Algebra.Order.Field.Power
import Mathlib.Algebra.Order.Ring.Rat
import Mathlib.Data.Rat.Cast.Order
import Mathlib.Tactic.FieldSimp
import Mathlib.Tactic.Linarith
import Mathlib.Tactic.Positivity
import Mathlib.Tactic.Ring
import PayBridge.Binary64.Shortest

/-! The points of a decimal grid in an interval. There is one just if one of the two neighbours of the value is in it,
and of several the one that is found is nearest to the value. -/
namespace PayBridge.Binary64

theorem one_pos : 0 < one := by
  simp only [one, Nat.two_pow_pos]

variable {i : Interval} {a b c : ℚ} {digits : Nat} {exponent : Int} {tie : Tie}

namespace Interval

/-- The number is in the interval, which counts in quarters of a unit. -/
def Holds (i : Interval) (number : ℚ) : Prop :=
  if i.closed then i.low ≤ number * (4 * one) ∧ number * (4 * one) ≤ i.high
  else i.low < number * (4 * one) ∧ number * (4 * one) < i.high

def middle (i : Interval) : ℚ := i.value / (4 * one)

structure IsProper (i : Interval) : Prop where
  low : i.low < i.value
  high : i.value < i.high

theorem quarters_pos : (0 : ℚ) < 4 * one := mul_pos four_pos (Nat.cast_pos.mpr one_pos)

theorem middle_mul (i : Interval) : i.middle * (4 * one) = i.value := div_mul_cancel₀ _ quarters_pos.ne'

theorem Holds.weak (holds : i.Holds a) : i.low ≤ a * (4 * one) ∧ a * (4 * one) ≤ i.high := by
  unfold Holds at holds
  split at holds
  · exact holds
  · exact ⟨holds.1.le, holds.2.le⟩

theorem Holds.between (low : i.Holds a) (high : i.Holds c) (above : a ≤ b) (below : b ≤ c) : i.Holds b := by
  have above := mul_le_mul_of_nonneg_right above quarters_pos.le
  have below := mul_le_mul_of_nonneg_right below quarters_pos.le
  unfold Holds at low high ⊢
  split
  · rw [if_pos ‹_›] at low high
    exact ⟨low.1.trans above, below.trans high.2⟩
  · rw [if_neg ‹_›] at low high
    exact ⟨low.1.trans_le above, below.trans_lt high.2⟩

theorem IsProper.holds_of_lt (proper : i.IsProper) (above : i.middle ≤ a) (below : a * (4 * one) < i.high) :
    i.Holds a := by
  have low : (i.low : ℚ) < i.value := Nat.cast_lt.mpr proper.low
  have scaled := mul_le_mul_of_nonneg_right above quarters_pos.le
  rw [middle_mul] at scaled
  unfold Holds
  split
  · exact ⟨low.le.trans scaled, below.le⟩
  · exact ⟨low.trans_le scaled, below⟩

theorem IsProper.holds_middle (proper : i.IsProper) : i.Holds i.middle := by
  apply proper.holds_of_lt le_rfl
  rw [middle_mul]
  exact Nat.cast_lt.mpr proper.high

end Interval

/-- The steps of a grid, and what they are counted in: both are whole numbers of quarters. -/
def gridStep (exponent : Int) : Nat := 4 * one * 10 ^ exponent.toNat

def gridScale (exponent : Int) : Nat := 10 ^ (-exponent).toNat

theorem gridStep_pos (exponent : Int) : 0 < gridStep exponent :=
  Nat.mul_pos (Nat.mul_pos (by decide) one_pos) (Nat.pow_pos (by decide))

theorem gridScale_pos (exponent : Int) : 0 < gridScale exponent := Nat.pow_pos (by decide)

theorem quarters_eq (digits : Nat) (exponent : Int) :
    (digits : ℚ) * 10 ^ exponent * (4 * one) = (digits * gridStep exponent : Nat) / (gridScale exponent : Nat) := by
  have tens : (10 : ℚ) ^ exponent = 10 ^ exponent.toNat / 10 ^ (-exponent).toNat := by
    rcases Int.le_total 0 exponent with positive | negative
    · obtain ⟨n, rfl⟩ := Int.eq_ofNat_of_zero_le positive
      simp
    · obtain ⟨n, natural⟩ := Int.eq_ofNat_of_zero_le (Int.neg_nonneg_of_nonpos negative)
      obtain rfl : exponent = -(n : Int) := by omega
      simp
  rw [tens, gridStep, gridScale]
  push_cast
  ring

theorem contains_grid_iff :
    i.contains (digits * gridStep exponent) (gridScale exponent) = true ↔ i.Holds (digits * 10 ^ exponent) := by
  have scale : (0 : ℚ) < (gridScale exponent : Nat) := Nat.cast_pos.mpr (gridScale_pos exponent)
  unfold Interval.contains Interval.Holds
  rw [quarters_eq, le_div_iff₀ scale, div_le_iff₀ scale, lt_div_iff₀ scale, div_lt_iff₀ scale]
  split
  · rw [Bool.and_eq_true, decide_eq_true_eq, decide_eq_true_eq]
    exact_mod_cast Iff.rfl
  · rw [Bool.and_eq_true, decide_eq_true_eq, decide_eq_true_eq]
    exact_mod_cast Iff.rfl

/-- The number of steps to the grid point below the value, or at it. -/
def pointBelow (i : Interval) (exponent : Int) : Nat := i.value * gridScale exponent / gridStep exponent

theorem le_pointBelow_iff : digits ≤ pointBelow i exponent ↔ (digits : ℚ) * 10 ^ exponent ≤ i.middle := by
  have scale : (0 : ℚ) < (gridScale exponent : Nat) := Nat.cast_pos.mpr (gridScale_pos exponent)
  rw [pointBelow, Nat.le_div_iff_mul_le (gridStep_pos exponent), Interval.middle, le_div_iff₀ Interval.quarters_pos,
    quarters_eq, div_le_iff₀ scale]
  exact_mod_cast Iff.rfl

theorem pointBelow_lt_iff : pointBelow i exponent < digits ↔ i.middle < (digits : ℚ) * 10 ^ exponent := by
  rw [← not_le, le_pointBelow_iff, not_le]

theorem pointBelow_le (i : Interval) (exponent : Int) : (pointBelow i exponent : ℚ) * 10 ^ exponent ≤ i.middle :=
  le_pointBelow_iff.mp (Nat.le_refl _)

theorem lt_pointAbove (i : Interval) (exponent : Int) :
    i.middle < (pointBelow i exponent + 1 : Nat) * (10 : ℚ) ^ exponent :=
  pointBelow_lt_iff.mp (Nat.lt_succ_self _)

def toBelow (i : Interval) (exponent : Int) : Nat :=
  i.value * gridScale exponent - pointBelow i exponent * gridStep exponent

def toAbove (i : Interval) (exponent : Int) : Nat :=
  (pointBelow i exponent + 1) * gridStep exponent - i.value * gridScale exponent

theorem middle_quarters (i : Interval) (exponent : Int) :
    i.middle * (4 * one) = (i.value * gridScale exponent : Nat) / (gridScale exponent : Nat) := by
  rw [Interval.middle_mul, Nat.cast_mul, mul_div_cancel_right₀ _ (Nat.cast_pos.mpr (gridScale_pos exponent)).ne']

theorem toBelow_eq (i : Interval) (exponent : Int) : (toBelow i exponent : ℚ) / (gridScale exponent : Nat) =
    (i.middle - (pointBelow i exponent : Nat) * (10 : ℚ) ^ exponent) * (4 * one) := by
  have low : pointBelow i exponent * gridStep exponent ≤ i.value * gridScale exponent := Nat.div_mul_le_self _ _
  rw [toBelow, Nat.cast_sub low, sub_div, sub_mul, middle_quarters, quarters_eq]

theorem toAbove_eq (i : Interval) (exponent : Int) : (toAbove i exponent : ℚ) / (gridScale exponent : Nat) =
    ((pointBelow i exponent + 1 : Nat) * (10 : ℚ) ^ exponent - i.middle) * (4 * one) := by
  have high : i.value * gridScale exponent < (pointBelow i exponent + 1) * gridStep exponent :=
    Nat.lt_mul_of_div_lt (Nat.lt_succ_self _) (gridStep_pos exponent)
  rw [toAbove, Nat.cast_sub (Nat.le_of_lt high), sub_div, sub_mul, middle_quarters i exponent, quarters_eq]

theorem toBelow_le_iff : toBelow i exponent ≤ toAbove i exponent ↔
    i.middle - (pointBelow i exponent : Nat) * (10 : ℚ) ^ exponent ≤
      (pointBelow i exponent + 1 : Nat) * (10 : ℚ) ^ exponent - i.middle := by
  rw [← mul_le_mul_iff_of_pos_right Interval.quarters_pos, ← toBelow_eq, ← toAbove_eq,
    div_le_div_iff_of_pos_right (Nat.cast_pos.mpr (gridScale_pos exponent)), Nat.cast_le]

theorem toAbove_le_iff : toAbove i exponent ≤ toBelow i exponent ↔
    (pointBelow i exponent + 1 : Nat) * (10 : ℚ) ^ exponent - i.middle ≤
      i.middle - (pointBelow i exponent : Nat) * (10 : ℚ) ^ exponent := by
  rw [← mul_le_mul_iff_of_pos_right Interval.quarters_pos, ← toBelow_eq, ← toAbove_eq,
    div_le_div_iff_of_pos_right (Nat.cast_pos.mpr (gridScale_pos exponent)), Nat.cast_le]

def holdsBelow (i : Interval) (exponent : Int) : Bool :=
  decide (0 < pointBelow i exponent) && i.contains (pointBelow i exponent * gridStep exponent) (gridScale exponent)

def holdsAbove (i : Interval) (exponent : Int) : Bool :=
  i.contains ((pointBelow i exponent + 1) * gridStep exponent) (gridScale exponent)

theorem holdsBelow_iff : holdsBelow i exponent = true ↔
    0 < pointBelow i exponent ∧ i.Holds ((pointBelow i exponent : Nat) * 10 ^ exponent) := by
  rw [holdsBelow, Bool.and_eq_true, decide_eq_true_eq, contains_grid_iff]

theorem holdsAbove_iff :
    holdsAbove i exponent = true ↔ i.Holds ((pointBelow i exponent + 1 : Nat) * 10 ^ exponent) :=
  contains_grid_iff

/-- A point in the interval has a neighbour of the value there, between itself and the value. -/
theorem neighbour_holds (proper : i.IsProper) (some : 0 < digits) (holds : i.Holds (digits * 10 ^ exponent)) :
    (digits ≤ pointBelow i exponent ∧ holdsBelow i exponent = true) ∨
      (pointBelow i exponent < digits ∧ holdsAbove i exponent = true) := by
  have unit : (0 : ℚ) < 10 ^ exponent := by positivity
  rcases Nat.lt_or_ge (pointBelow i exponent) digits with above | below
  · have nearer : ((pointBelow i exponent + 1 : Nat) : ℚ) * 10 ^ exponent ≤ digits * 10 ^ exponent :=
      mul_le_mul_of_nonneg_right (Nat.cast_le.mpr above) unit.le
    have inside := proper.holds_middle.between holds (lt_pointAbove i exponent).le nearer
    exact .inr ⟨above, holdsAbove_iff.mpr inside⟩
  · have nearer : (digits : ℚ) * 10 ^ exponent ≤ (pointBelow i exponent : Nat) * 10 ^ exponent :=
      mul_le_mul_of_nonneg_right (Nat.cast_le.mpr below) unit.le
    have inside := holds.between proper.holds_middle nearer (pointBelow_le i exponent)
    exact .inl ⟨below, holdsBelow_iff.mpr ⟨Nat.lt_of_lt_of_le some below, inside⟩⟩

theorem gridPoint?_eq (tie : Tie) (i : Interval) (exponent : Int) : gridPoint? tie i exponent =
    if holdsBelow i exponent && holdsAbove i exponent then
      some (if toAbove i exponent < toBelow i exponent ||
          (toAbove i exponent == toBelow i exponent && tie.goesAbove (pointBelow i exponent)) then
        pointBelow i exponent + 1 else pointBelow i exponent)
    else if holdsBelow i exponent then some (pointBelow i exponent)
    else if holdsAbove i exponent then some (pointBelow i exponent + 1)
    else none := rfl

theorem not_holds_of_gridPoint?_none (proper : i.IsProper) (none : gridPoint? tie i exponent = none)
    (some : 0 < digits) : ¬ i.Holds (digits * 10 ^ exponent) := by
  intro holds
  rw [gridPoint?_eq] at none
  rcases neighbour_holds proper some holds with ⟨_, below⟩ | ⟨_, above⟩
  · simp only [below, Bool.true_and, ↓reduceIte] at none
    split at none <;> cases none
  · simp only [above, Bool.and_true] at none
    split at none <;> cases none

/-- The point that is taken is a neighbour of the value, the nearer one if both are inside. -/
theorem gridPoint?_some_cases (found : gridPoint? tie i exponent = some digits) :
    (digits = pointBelow i exponent ∧ holdsBelow i exponent = true ∧
        (holdsAbove i exponent = true → toBelow i exponent ≤ toAbove i exponent)) ∨
      (digits = pointBelow i exponent + 1 ∧ holdsAbove i exponent = true ∧
        (holdsBelow i exponent = true → toAbove i exponent ≤ toBelow i exponent)) := by
  rw [gridPoint?_eq] at found
  generalize holdsBelow i exponent = below at found ⊢
  generalize holdsAbove i exponent = above at found ⊢
  cases below <;> cases above
  · cases found
  · exact .inr ⟨(Option.some.inj found).symm, rfl, nofun⟩
  · exact .inl ⟨(Option.some.inj found).symm, rfl, nofun⟩
  · have taken := Option.some.inj found
    split at taken
    · rename_i nearer
      simp only [Bool.or_eq_true, decide_eq_true_eq, Bool.and_eq_true, beq_iff_eq] at nearer
      exact .inr ⟨taken.symm, rfl, fun _ => by omega⟩
    · rename_i farther
      simp only [Bool.or_eq_true, decide_eq_true_eq, Bool.and_eq_true, beq_iff_eq, not_or] at farther
      exact .inl ⟨taken.symm, rfl, fun _ => by omega⟩

/-- The point that is taken of a grid is in the interval, and of the points there it is nearest to the value. -/
structure IsGridPoint (i : Interval) (exponent : Int) (digits : Nat) : Prop where
  pos : 0 < digits
  bound : digits ≤ pointBelow i exponent + 1
  holds : i.Holds (digits * 10 ^ exponent)
  nearest {other : Nat} (some : 0 < other) (inside : i.Holds (other * 10 ^ exponent)) :
    |digits * (10 : ℚ) ^ exponent - i.middle| ≤ |other * (10 : ℚ) ^ exponent - i.middle|

/-- No point on its side of the value is nearer than a neighbour. -/
theorem distance_below (i : Interval) (below : digits ≤ pointBelow i exponent) :
    |(pointBelow i exponent : Nat) * (10 : ℚ) ^ exponent - i.middle| ≤ |digits * (10 : ℚ) ^ exponent - i.middle| := by
  have unit : (0 : ℚ) < 10 ^ exponent := by positivity
  have scaled : (digits : ℚ) * 10 ^ exponent ≤ (pointBelow i exponent : Nat) * 10 ^ exponent :=
    mul_le_mul_of_nonneg_right (Nat.cast_le.mpr below) unit.le
  have low := pointBelow_le i exponent
  rw [abs_of_nonpos (by linarith), abs_of_nonpos (by linarith)]
  linarith

theorem distance_above (i : Interval) (above : pointBelow i exponent < digits) :
    |(pointBelow i exponent + 1 : Nat) * (10 : ℚ) ^ exponent - i.middle| ≤
      |digits * (10 : ℚ) ^ exponent - i.middle| := by
  have unit : (0 : ℚ) < 10 ^ exponent := by positivity
  have scaled : ((pointBelow i exponent + 1 : Nat) : ℚ) * 10 ^ exponent ≤ digits * 10 ^ exponent :=
    mul_le_mul_of_nonneg_right (Nat.cast_le.mpr above) unit.le
  have high := lt_pointAbove i exponent
  rw [abs_of_nonneg (by linarith), abs_of_nonneg (by linarith)]
  linarith

theorem isGridPoint_of_gridPoint? (proper : i.IsProper) (found : gridPoint? tie i exponent = some digits) :
    IsGridPoint i exponent digits := by
  have low := abs_of_nonpos (sub_nonpos.mpr (pointBelow_le i exponent))
  have high := abs_of_nonneg (sub_nonneg.mpr (lt_pointAbove i exponent).le)
  rcases gridPoint?_some_cases found with ⟨rfl, below, nearer⟩ | ⟨rfl, above, nearer⟩
  · obtain ⟨some, inside⟩ := holdsBelow_iff.mp below
    refine ⟨some, Nat.le_succ _, inside, fun {other} some holds => ?_⟩
    rcases neighbour_holds proper some holds with ⟨side, _⟩ | ⟨side, above⟩
    · exact distance_below i side
    · refine le_trans ?_ (distance_above i side)
      rw [low, high, neg_sub]
      exact toBelow_le_iff.mp (nearer above)
  · refine ⟨Nat.succ_pos _, Nat.le_refl _, holdsAbove_iff.mp above, fun {other} some holds => ?_⟩
    rcases neighbour_holds proper some holds with ⟨side, below⟩ | ⟨side, _⟩
    · refine le_trans ?_ (distance_below i side)
      rw [low, high, neg_sub]
      exact toAbove_le_iff.mp (nearer below)
    · exact distance_above i side

end PayBridge.Binary64
