import PayBridge.Proofs.Binary64.Reading

/-! The digits that are found for a double are the shortest. Grids are tried from coarse to fine, and a decimal with
fewer digits would put a power of ten into the interval, which lies on the grid that was tried before. -/
namespace PayBridge.Binary64

open PayBridge.Text

def Shortest.value (s : Shortest) : ℚ := s.digits * 10 ^ s.exponent

/-- The decimal reads as the double, but for the sign. None that does so has fewer digits, and none of its grid is
nearer to the double. -/
structure IsShortest (x : Binary64) (s : Shortest) : Prop where
  reads : ofDecimal s.digits s.exponent = x.abs
  fewest : ∀ {digits : Nat} {exponent : Int}, ofDecimal digits exponent = x.abs →
    (decimal s.digits).length ≤ (decimal digits).length
  nearest : ∀ {digits : Nat}, ofDecimal digits s.exponent = x.abs →
    |s.value - x.abs.value| ≤ |digits * (10 : ℚ) ^ s.exponent - x.abs.value|

variable {i : Interval} {tie : Tie} {digits : Nat} {exponent start : Int} {s : Shortest} {x : Binary64}

/-- The grid has a point in the interval, and the one ten times as coarse has none, if it was tried. -/
structure IsFirst (tie : Tie) (i : Interval) (start : Int) (s : Shortest) : Prop where
  found : gridPoint? tie i s.exponent = some s.digits
  before : s.exponent = start ∨ gridPoint? tie i (s.exponent + 1) = none

theorem firstGrid_isFirst {tries steps : Nat} (few : steps < tries)
    (reached : gridPoint? tie i (start - steps) ≠ none) : IsFirst tie i start (firstGrid tie i tries start) := by
  induction tries generalizing start steps with
  | zero => cases few
  | succ tries ih =>
    unfold firstGrid
    cases point : gridPoint? tie i start with
    | some digits =>
      constructor
      · exact point
      · exact .inl rfl
    | none =>
      cases steps with
      | zero =>
        rw [Int.natCast_zero, Int.sub_zero] at reached
        exact absurd point reached
      | succ steps =>
        have next : start - 1 - steps = start - (steps + 1 : Nat) := by omega
        obtain ⟨found, before⟩ := ih (Nat.lt_of_succ_lt_succ few) (next ▸ reached)
        refine ⟨found, .inr ?_⟩
        rcases before with finer | none
        · rw [finer, Int.sub_add_cancel]
          exact point
        · exact none

/-- On a grid coarser than the value, only the first point can be taken. -/
theorem digits_eq_one (proper : i.IsProper) (small : i.middle < 10 ^ exponent)
    (found : gridPoint? tie i exponent = some digits) : digits = 1 := by
  have point := isGridPoint_of_gridPoint? proper found
  have first : i.middle < (1 : Nat) * 10 ^ exponent := by rwa [Nat.cast_one, one_mul]
  have below := pointBelow_lt_iff.mpr first
  have least := point.pos
  have most := point.bound
  omega

/-- What a grid has no point for, no coarser one has. -/
theorem not_holds_coarser {power : Int} (proper : i.IsProper) (none : gridPoint? tie i exponent = none)
    (some : 0 < digits) (coarser : exponent ≤ power) : ¬ i.Holds (digits * 10 ^ power) := by
  obtain ⟨more, rfl⟩ := Int.le.dest coarser
  have point : (digits : ℚ) * 10 ^ (exponent + more) = (digits * 10 ^ more : Nat) * 10 ^ exponent := by
    rw [zpow_add₀ (by decide), zpow_natCast, Nat.cast_mul, Nat.cast_pow, Nat.cast_ofNat]
    ring
  rw [point]
  exact not_holds_of_gridPoint?_none proper none (Nat.mul_pos some (Nat.pow_pos (by decide)))

namespace IsFirst

theorem last_digit (first : IsFirst tie i start s) (proper : i.IsProper) (small : i.middle < 10 ^ start) :
    s.digits % 10 ≠ 0 := by
  intro last
  have point := isGridPoint_of_gridPoint? proper first.found
  obtain ⟨tenth, split⟩ := Nat.dvd_of_mod_eq_zero last
  have positive := point.pos
  rcases first.before with coarse | none
  · have one := digits_eq_one proper (coarse ▸ small) first.found
    omega
  · have same : (s.digits : ℚ) * 10 ^ s.exponent = tenth * 10 ^ (s.exponent + 1) := by
      rw [split, Nat.cast_mul, Nat.cast_ofNat, zpow_add_one₀ (by decide)]
      ring
    have inside := point.holds
    rw [same] at inside
    exact not_holds_of_gridPoint?_none proper none (by omega) inside

theorem fewest (first : IsFirst tie i start s) (proper : i.IsProper) (small : i.middle < 10 ^ start)
    (some : 0 < digits) (holds : i.Holds (digits * 10 ^ exponent)) :
    (decimal s.digits).length ≤ (decimal digits).length := by
  have point := isGridPoint_of_gridPoint? proper first.found
  apply Nat.le_of_not_lt
  intro shorter
  have full : 0 < (decimal digits).length := Nat.length_toDigits_pos
  have none : gridPoint? tie i (s.exponent + 1) = none := by
    rcases first.before with coarse | none
    · have one := digits_eq_one proper (coarse ▸ small) first.found
      have single : (decimal s.digits).length = 1 := by rw [one]; rfl
      omega
    · exact none
  rcases Int.lt_or_le s.exponent exponent with coarser | finer
  · exact not_holds_coarser proper none some coarser holds
  · -- the power of ten that the digits found begin with is between the two decimals
    have above : (digits : ℚ) * 10 ^ exponent < 10 ^ ((decimal s.digits).length - 1 + s.exponent) :=
      number_lt_pow (by omega)
    have below : (10 : ℚ) ^ ((decimal s.digits).length - 1 + s.exponent) ≤ s.digits * 10 ^ s.exponent :=
      pow_le_number point.pos (by omega)
    have power := holds.between point.holds above.le below
    rw [← one_mul (10 ^ _ : ℚ), ← Nat.cast_one] at power
    exact not_holds_coarser proper none Nat.one_pos (by omega) power

theorem isShortest (first : IsFirst tie x.interval start s) (small : x.interval.middle < 10 ^ start)
    (finite : x.isFinite = true) (nonzero : x.isZero = false) : IsShortest x s := by
  have proper := interval_isProper nonzero
  have point := isGridPoint_of_gridPoint? proper first.found
  constructor
  · exact (ofDecimal_eq_abs_iff finite nonzero).mpr ⟨point.pos, point.holds⟩
  · intro digits exponent reads
    obtain ⟨some, holds⟩ := (ofDecimal_eq_abs_iff finite nonzero).mp reads
    exact first.fewest proper small some holds
  · intro digits reads
    obtain ⟨some, holds⟩ := (ofDecimal_eq_abs_iff finite nonzero).mp reads
    rw [value_abs]
    exact point.nearest some holds

end IsFirst

/-- The coarsest grid that is tried is coarser than the double. -/
theorem middle_lt_places (x : Binary64) :
    x.interval.middle < 10 ^ ((Nat.toDigits 10 (x.units / one)).length : Int) := by
  have unit : (0 : ℚ) < one := Nat.cast_pos.mpr one_pos
  have whole : x.units / one < 10 ^ (Nat.toDigits 10 (x.units / one)).length :=
    (Nat.length_toDigits_le_iff (by decide) Nat.length_toDigits_pos).mp (Nat.le_refl _)
  have units := (Nat.div_lt_iff_lt_mul one_pos).mp whole
  rw [middle_interval, div_lt_iff₀ unit, zpow_natCast]
  exact_mod_cast units

/-- A grid this fine has a point in every interval that is wide enough for a unit. -/
theorem gridPoint?_ne_none {tens : Nat} (proper : i.IsProper) (wide : i.value + 2 ≤ i.high)
    (fine : one * 2 ≤ 10 ^ tens) (finer : exponent < -tens) : gridPoint? tie i exponent ≠ none := by
  intro none
  apply not_holds_of_gridPoint?_none proper none (Nat.succ_pos (pointBelow i exponent))
  have unit : (0 : ℚ) < 10 ^ exponent := by positivity
  have step : (one : ℚ) * 2 * 10 ^ exponent < 1 :=
    calc (one : ℚ) * 2 * 10 ^ exponent = (one * 2 : Nat) * 10 ^ exponent := by
          rw [Nat.cast_mul, Nat.cast_ofNat]
      _ ≤ (10 ^ tens : Nat) * 10 ^ exponent := mul_le_mul_of_nonneg_right (Nat.cast_le.mpr fine) unit.le
      _ = 10 ^ (tens + exponent) := by rw [Nat.cast_pow, Nat.cast_ofNat, zpow_add₀ (by decide), zpow_natCast]
      _ < 1 := zpow_lt_one_of_neg₀ (by decide) (by omega)
  have low := pointBelow_le i exponent
  have high : (i.value : ℚ) + 2 ≤ i.high := by exact_mod_cast wide
  apply proper.holds_of_lt (lt_pointAbove i exponent).le
  calc ((pointBelow i exponent + 1 : Nat) : ℚ) * 10 ^ exponent * (4 * one)
      = pointBelow i exponent * 10 ^ exponent * (4 * one) + 2 * (one * 2 * 10 ^ exponent) := by
        rw [Nat.cast_add, Nat.cast_one]
        ring
    _ < i.value + 2 := by
        have scaled := mul_le_mul_of_nonneg_right low Interval.quarters_pos.le
        rw [Interval.middle_mul] at scaled
        linarith
    _ ≤ i.high := high

theorem stripped_of_last_digit (last : s.digits % 10 ≠ 0) : s.stripped = s := by
  rw [Shortest.stripped, dif_neg]
  intro strips
  exact last strips.2

theorem zero_isShortest (none : x.isZero = true) : IsShortest x ⟨0, 0⟩ := by
  have same : x.abs = zero := abs_of_isZero none
  have number : zero.value = 0 := by
    have units : zero.units = 0 := by decide
    rw [value, units, Nat.cast_zero, zero_div, mul_zero]
  constructor
  · exact (ofDecimal_zero 0).trans same.symm
  · intro digits exponent _
    exact Nat.length_toDigits_pos
  · intro digits _
    rw [same, number, Shortest.value, Nat.cast_zero, zero_mul, sub_zero, abs_zero]
    exact abs_nonneg _

/-- The digits that are found are the point of the first grid that has one. -/
theorem shortest_isFirst (tie : Tie) (nonzero : x.isZero = false) :
    ∃ start : Int, x.interval.middle < 10 ^ start ∧ IsFirst tie x.interval start (x.shortest tie) := by
  have proper := interval_isProper nonzero
  have small := middle_lt_places x
  obtain ⟨_, _, wide⟩ := interval_bounds nonzero
  simp only [shortest, nonzero, Bool.false_eq_true, ↓reduceIte]
  generalize (Nat.toDigits 10 (x.units / one)).length = places at small ⊢
  have first : IsFirst tie x.interval places (firstGrid tie x.interval (places + 343) places) :=
    firstGrid_isFirst (Nat.lt_succ_self _) (gridPoint?_ne_none proper wide one_mul_two_le (by omega))
  rw [stripped_of_last_digit (first.last_digit proper small)]
  exact ⟨places, small, first⟩

theorem shortest_isShortest (tie : Tie) (finite : x.isFinite = true) : IsShortest x (x.shortest tie) := by
  by_cases zero : x.isZero = true
  · rw [shortest, if_pos zero]
    exact zero_isShortest zero
  · have nonzero := Bool.eq_false_iff.mpr zero
    obtain ⟨start, small, first⟩ := shortest_isFirst tie nonzero
    exact first.isShortest small finite nonzero

end PayBridge.Binary64
