import PayBridge.Binary64.Shortest

/-! Which numbers round to a double: those between the midpoints to its two neighbours, and the midpoints too if its
code is even. Below a power of two the doubles are twice as dense, so the midpoint is nearer there. -/
namespace PayBridge.Binary64

section Quotient
variable {num den n m : Nat}

/-- The quotient is at most a half away from the whole number, and less if that is odd. -/
def IsNearest (num den n : Nat) : Prop :=
  if n % 2 = 0 then 2 * (n * den) ≤ 2 * num + den ∧ 2 * num ≤ 2 * (n * den) + den
  else 2 * (n * den) < 2 * num + den ∧ 2 * num < 2 * (n * den) + den

theorem IsNearest.weak (nearest : IsNearest num den n) :
    2 * (n * den) ≤ 2 * num + den ∧ 2 * num ≤ 2 * (n * den) + den := by
  unfold IsNearest at nearest
  split at nearest
  · exact nearest
  · exact ⟨Nat.le_of_lt nearest.1, Nat.le_of_lt nearest.2⟩

theorem nearestEven_nearest (positive : 0 < den) : IsNearest num den (nearestEven num den) := by
  have division := Nat.div_add_mod' num den
  have below := Nat.mod_lt num positive
  simp only [nearestEven]
  generalize num / den = q at division
  generalize num % den = rest at division below
  have next : (q + 1) * den = q * den + den := Nat.succ_mul q den
  unfold IsNearest
  by_cases down : 2 * rest < den
  · rw [if_pos down]
    split <;> omega
  · by_cases up : den < 2 * rest
    · rw [if_neg down, if_pos up, next]
      split <;> omega
    · -- half way between two numbers, the even one is taken
      rcases Nat.mod_two_eq_zero_or_one q with even | odd
      · rw [if_neg down, if_neg up, even, Nat.add_zero, if_pos even]
        omega
      · rw [if_neg down, if_neg up, odd, if_pos (by omega), next]
        omega

/-- No two numbers are nearest: half way between two, one of them is odd. -/
theorem IsNearest.le (left : IsNearest num den n) (right : IsNearest num den m) (positive : 0 < den) : n ≤ m := by
  refine Nat.le_of_not_lt fun above => ?_
  have step : (m + 1) * den = m * den + den := Nat.succ_mul m den
  have steps : (m + 1) * den ≤ n * den := Nat.mul_le_mul_right den above
  have low := left.weak
  have high := right.weak
  obtain rfl : m + 1 = n := Nat.eq_of_mul_eq_mul_right positive (by omega)
  unfold IsNearest at left right
  split at left
  · rw [if_neg (by omega)] at right
    omega
  · omega

theorem nearestEven_eq_iff (positive : 0 < den) : nearestEven num den = n ↔ IsNearest num den n := by
  have own : IsNearest num den (nearestEven num den) := nearestEven_nearest positive
  refine ⟨fun rounds => rounds ▸ own, fun nearest => ?_⟩
  exact Nat.le_antisymm (own.le nearest positive) (nearest.le own positive)

/-- So many binary places are dropped that 53 are left, or none is. -/
structure Drops (num den dropped : Nat) : Prop where
  high : num < 2 ^ 53 * (den * 2 ^ dropped)
  low : dropped = 0 ∨ 2 ^ 52 * (den * 2 ^ dropped) ≤ num

theorem drops_log2 (positive : 0 < den) : Drops num den (Nat.log2 (num / den) - 52) := by
  have scaled (k dropped : Nat) : 2 ^ k * (den * 2 ^ dropped) = 2 ^ (k + dropped) * den := by
    rw [Nat.mul_comm den, ← Nat.mul_assoc, ← Nat.pow_add]
  generalize places : Nat.log2 (num / den) - 52 = dropped
  constructor
  · rw [scaled, ← Nat.div_lt_iff_lt_mul positive]
    exact Nat.lt_of_lt_of_le Nat.lt_log2_self (Nat.pow_le_pow_right (by decide) (by omega))
  · by_cases kept : dropped = 0
    · exact .inl kept
    · have whole : num / den ≠ 0 := by
        intro zero
        rw [zero, Nat.log2_zero] at places
        omega
      rw [scaled, ← Nat.le_div_iff_mul_le positive]
      have log : 52 + dropped = Nat.log2 (num / den) := by omega
      exact .inr (log ▸ Nat.log2_self_le whole)

theorem Drops.le {other : Nat} (left : Drops num den n) (right : Drops num den other) : n ≤ other := by
  rcases left.low with rfl | low
  · exact Nat.zero_le other
  · have powers := Nat.lt_of_le_of_lt low right.high
    have split : 2 ^ 53 * (den * 2 ^ other) = 2 ^ 52 * (den * 2 ^ (other + 1)) := by
      have next : 2 ^ (other + 1) = 2 ^ other * 2 := Nat.pow_succ 2 other
      rw [next, ← Nat.mul_assoc den]
      omega
    rw [split] at powers
    have exponents := Nat.lt_of_mul_lt_mul_left (Nat.lt_of_mul_lt_mul_left powers)
    exact Nat.le_of_lt_succ ((Nat.pow_lt_pow_iff_right (by decide)).mp exponents)

/-- Where so many places are dropped, the nearest code is made of their number and the rest, rounded. -/
theorem Drops.nearestCode_eq (drops : Drops num den n) (positive : 0 < den) :
    nearestCode num den = min infinityCode (n * 2 ^ 52 + nearestEven num (den * 2 ^ n)) := by
  have log := (drops_log2 positive : Drops num den _)
  rw [nearestCode, Nat.le_antisymm (log.le drops) (drops.le log)]

/-- What is left, rounded, has 53 places at most, or is the power of two above them. -/
theorem Drops.rounded (drops : Drops num den n) (positive : 0 < den) :
    nearestEven num (den * 2 ^ n) ≤ 2 ^ 53 ∧ (n = 0 ∨ 2 ^ 52 ≤ nearestEven num (den * 2 ^ n)) := by
  have unit : 0 < den * 2 ^ n := Nat.mul_pos positive (Nat.pow_pos (by decide))
  have near := (nearestEven_nearest unit : IsNearest num _ _).weak
  have high := drops.high
  have low := drops.low
  generalize den * 2 ^ n = g at unit near high low ⊢
  generalize nearestEven num g = r at near ⊢
  constructor
  · have bound : r * g < (2 ^ 53 + 1) * g := by omega
    exact Nat.le_of_lt_succ (Nat.lt_of_mul_lt_mul_right bound)
  · refine low.imp_right fun low => ?_
    have step : (r + 1) * g = r * g + g := Nat.succ_mul r g
    have bound : 2 ^ 52 * g < (r + 1) * g := by omega
    exact Nat.le_of_lt_succ (Nat.lt_of_mul_lt_mul_right bound)

end Quotient

section Code
variable {x : Binary64} {num den : Nat}

theorem code_eq (x : Binary64) : x.code.val = x.shift * 2 ^ 52 + x.significand := by
  simp only [shift, significand]
  split <;> omega

theorem significand_lt (x : Binary64) : x.significand < 2 ^ 53 := by
  simp only [significand]
  split <;> omega

theorem le_significand (shifted : x.shift ≠ 0) : 2 ^ 52 ≤ x.significand := by
  simp only [shift, significand] at shifted ⊢
  split <;> omega

theorem parts_unique {shift significand : Nat} (code : x.code.val = shift * 2 ^ 52 + significand)
    (small : significand < 2 ^ 53) (full : shift = 0 ∨ 2 ^ 52 ≤ significand) :
    x.shift = shift ∧ x.significand = significand := by
  simp only [Binary64.shift, Binary64.significand]
  constructor
  · omega
  · split <;> omega

/-- The doubles next to this one are equally far away, unless it is the least of its shift. -/
def IsInner (x : Binary64) : Prop := ¬ (x.significand = 2 ^ 52 ∧ 0 < x.shift)

/-- Between the midpoints there is what rounds to the significand, at the shift of the double. -/
theorem contains_inner_iff (inner : x.IsInner) :
    x.interval.contains (4 * num) den = true ↔ IsNearest num (den * 2 ^ x.shift) x.significand := by
  have parity : x.code.val % 2 = x.significand % 2 := by
    rw [x.code_eq]
    omega
  have low : (4 * x.units - 2 * 2 ^ x.shift) * den =
      4 * (x.significand * (den * 2 ^ x.shift)) - 2 * (den * 2 ^ x.shift) := by
    rw [Nat.sub_mul, units]
    congr 1 <;> ac_rfl
  have high : (4 * x.units + 2 * 2 ^ x.shift) * den =
      4 * (x.significand * (den * 2 ^ x.shift)) + 2 * (den * 2 ^ x.shift) := by
    rw [Nat.add_mul, units]
    congr 1 <;> ac_rfl
  simp only [Interval.contains, interval, if_neg inner, parity, low, high]
  generalize den * 2 ^ x.shift = g
  unfold IsNearest
  rcases Nat.mod_two_eq_zero_or_one x.significand with even | odd
  · simp only [even, beq_self_eq_true, ↓reduceIte, Bool.and_eq_true, decide_eq_true_eq]
    omega
  · have least : g ≤ x.significand * g := Nat.le_mul_of_pos_left g (by omega)
    simp only [odd, Nat.reduceBEq, Bool.false_eq_true, ↓reduceIte, Bool.and_eq_true, decide_eq_true_eq,
      Nat.one_ne_zero]
    omega

/-- Below the least double of a shift the midpoint is twice as near, and both midpoints belong to it. -/
theorem contains_least_iff (least : x.significand = 2 ^ 52) (shifted : 0 < x.shift) :
    x.interval.contains (4 * num) den = true ↔
      4 * (2 ^ 52 * (den * 2 ^ x.shift)) ≤ 4 * num + den * 2 ^ x.shift ∧
        2 * num ≤ 2 * (2 ^ 52 * (den * 2 ^ x.shift)) + den * 2 ^ x.shift := by
  have even : x.code.val % 2 = 0 := by
    rw [x.code_eq, least]
    omega
  have low : (4 * x.units - 2 ^ x.shift) * den = 4 * (2 ^ 52 * (den * 2 ^ x.shift)) - den * 2 ^ x.shift := by
    rw [Nat.sub_mul, units, least]
    congr 1 <;> ac_rfl
  have high : (4 * x.units + 2 * 2 ^ x.shift) * den =
      4 * (2 ^ 52 * (den * 2 ^ x.shift)) + 2 * (den * 2 ^ x.shift) := by
    rw [Nat.add_mul, units, least]
    congr 1 <;> ac_rfl
  simp only [Interval.contains, interval, if_pos (And.intro least shifted), even, low, high, beq_self_eq_true,
    ↓reduceIte, Bool.and_eq_true, decide_eq_true_eq]
  omega

theorem nearestCode_of_nearest {shift significand : Nat} (finite : x.isFinite = true) (positive : 0 < den)
    (drops : Drops num den shift) (nearest : IsNearest num (den * 2 ^ shift) significand)
    (code : x.code.val = shift * 2 ^ 52 + significand) : nearestCode num den = x.code.val := by
  have unit : 0 < den * 2 ^ shift := Nat.mul_pos positive (Nat.pow_pos (by decide))
  rw [drops.nearestCode_eq positive, (nearestEven_eq_iff unit).mpr nearest, ← code]
  exact Nat.min_eq_right (Nat.le_of_lt (of_decide_eq_true finite))

/-- What has a code drops the places of its shift and rounds to its significand; or it drops one place less and
rounds up to the power of two. -/
theorem nearest_of_nearestCode (finite : x.isFinite = true) (positive : 0 < den)
    (rounds : nearestCode num den = x.code.val) :
    (Drops num den x.shift ∧ IsNearest num (den * 2 ^ x.shift) x.significand) ∨
      ∃ shift, x.shift = shift + 1 ∧ x.significand = 2 ^ 52 ∧ Drops num den shift ∧
        IsNearest num (den * 2 ^ shift) (2 ^ 53) := by
  have drops := (drops_log2 positive : Drops num den _)
  generalize Nat.log2 (num / den) - 52 = dropped at drops
  have unit : 0 < den * 2 ^ dropped := Nat.mul_pos positive (Nat.pow_pos (by decide))
  have nearest := (nearestEven_nearest unit : IsNearest num _ _)
  obtain ⟨most, least⟩ := drops.rounded positive
  rw [drops.nearestCode_eq positive] at rounds
  have below : x.code.val < infinityCode := of_decide_eq_true finite
  generalize nearestEven num (den * 2 ^ dropped) = r at rounds nearest most least
  have code : x.code.val = dropped * 2 ^ 52 + r := by omega
  rcases Nat.lt_or_eq_of_le most with small | rfl
  · obtain ⟨rfl, rfl⟩ := parts_unique code small least
    exact .inl ⟨drops, nearest⟩
  · obtain ⟨shift, significand⟩ := parts_unique (by omega : x.code.val = (dropped + 1) * 2 ^ 52 + 2 ^ 52)
      (by decide) (.inr (Nat.le_refl _))
    exact .inr ⟨dropped, shift, significand, drops, nearest⟩

/-- Within half a gap of a double that is no power of two, as many places are dropped as it has shifted. -/
theorem drops_of_nearest (inner : x.IsInner) (positive : 0 < den)
    (nearest : IsNearest num (den * 2 ^ x.shift) x.significand) : Drops num den x.shift := by
  have unit : 0 < den * 2 ^ x.shift := Nat.mul_pos positive (Nat.pow_pos (by decide))
  have weak := nearest.weak
  constructor
  · have most : (x.significand + 1) * (den * 2 ^ x.shift) ≤ 2 ^ 53 * (den * 2 ^ x.shift) :=
      Nat.mul_le_mul_right _ x.significand_lt
    rw [Nat.add_mul] at most
    omega
  · by_cases unshifted : x.shift = 0
    · exact .inl unshifted
    · have full := le_significand unshifted
      have other : x.significand ≠ 2 ^ 52 := fun least => inner ⟨least, Nat.pos_of_ne_zero unshifted⟩
      have more : 2 ^ 52 + 1 ≤ x.significand := by omega
      have scaled : (2 ^ 52 + 1) * (den * 2 ^ x.shift) ≤ x.significand * (den * 2 ^ x.shift) :=
        Nat.mul_le_mul_right _ more
      rw [Nat.add_mul] at scaled
      exact .inr (by omega)

/-- What rounds to a power of two is at most a quarter of its gap below it and at most half of it above. -/
theorem nearestCode_least_iff (finite : x.isFinite = true) (positive : 0 < den) (least : x.significand = 2 ^ 52)
    (shifted : 0 < x.shift) :
    nearestCode num den = x.code.val ↔
      4 * (2 ^ 52 * (den * 2 ^ x.shift)) ≤ 4 * num + den * 2 ^ x.shift ∧
        2 * num ≤ 2 * (2 ^ 52 * (den * 2 ^ x.shift)) + den * 2 ^ x.shift := by
  obtain ⟨shift, places⟩ := Nat.exists_eq_add_one_of_ne_zero (Nat.ne_of_gt shifted)
  have twice : den * 2 ^ x.shift = 2 * (den * 2 ^ shift) := by
    rw [places, Nat.pow_succ]
    ac_rfl
  have unit : 0 < den * 2 ^ shift := Nat.mul_pos positive (Nat.pow_pos (by decide))
  constructor
  · intro rounds
    rcases nearest_of_nearestCode finite positive rounds with ⟨drops, nearest⟩ | ⟨_, same, _, drops, nearest⟩
    · have low := drops.low.resolve_left (Nat.ne_of_gt shifted)
      have weak := nearest.weak
      rw [least] at weak
      omega
    · obtain rfl : shift = _ := Nat.succ.inj (places.symm.trans same)
      have high := drops.high
      have weak := nearest.weak
      omega
  · rintro ⟨low, high⟩
    have code := x.code_eq
    by_cases above : 2 ^ 52 * (den * 2 ^ x.shift) ≤ num
    · apply nearestCode_of_nearest finite positive ⟨by omega, .inr above⟩ _ code
      rw [IsNearest, least, if_pos (by decide)]
      omega
    · -- below the power of two one place less is dropped, and rounding carries into it
      have carried : x.code.val = shift * 2 ^ 52 + 2 ^ 53 := by
        rw [code, least, places]
        omega
      apply nearestCode_of_nearest finite positive ⟨by omega, .inr (by omega)⟩ _ carried
      rw [IsNearest, if_pos (by decide)]
      omega

/-- A quotient rounds to a finite double just if it lies between the midpoints to its neighbours. -/
theorem nearestCode_eq_iff (finite : x.isFinite = true) (positive : 0 < den) :
    nearestCode num den = x.code.val ↔ x.interval.contains (4 * num) den = true := by
  by_cases inner : x.IsInner
  · rw [contains_inner_iff inner]
    constructor
    · intro rounds
      rcases nearest_of_nearestCode finite positive rounds with ⟨_, nearest⟩ | ⟨shift, shifted, least, _⟩
      · exact nearest
      · exact absurd ⟨least, by omega⟩ inner
    · intro nearest
      exact nearestCode_of_nearest finite positive (drops_of_nearest inner positive nearest) nearest x.code_eq
  · obtain ⟨least, shifted⟩ := Classical.not_not.mp inner
    rw [contains_least_iff least shifted]
    exact nearestCode_least_iff finite positive least shifted

end Code

end PayBridge.Binary64
