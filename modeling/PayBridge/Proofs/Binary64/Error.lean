import PayBridge.Proofs.Binary64.Reading

/-! How far results are from exact ones. A rounding is off by one part in `2 ^ 53` at most, for numbers that are neither
tiny nor huge, and what is computed from rounded numbers has been rounded as often as they were, and once more. -/
namespace PayBridge.Binary64

section Units
variable {num den dropped : Nat}

theorem nearestEven_mul (positive : 0 < den) (n : Nat) : nearestEven (n * den) den = n := by
  apply (nearestEven_eq_iff positive).mpr
  unfold IsNearest
  split <;> omega

theorem nearestEven_mul_right {k : Nat} (some : 0 < k) : nearestEven (num * k) (den * k) = nearestEven num den := by
  have less (a b : Nat) : 2 * (a * k) < b * k ↔ 2 * a < b := by
    rw [← Nat.mul_assoc]
    exact Nat.mul_lt_mul_right some
  have more (a b : Nat) : b * k < 2 * (a * k) ↔ b < 2 * a := by
    rw [← Nat.mul_assoc]
    exact Nat.mul_lt_mul_right some
  simp only [nearestEven, Nat.mul_div_mul_right _ _ some, Nat.mul_mod_mul_right, less, more]

theorem ofUnits_mul_right {k : Nat} (some : 0 < k) (num den : Nat) : ofUnits (num * k) (den * k) = ofUnits num den := by
  have code : nearestCode (num * k) (den * k) = nearestCode num den := by
    simp only [nearestCode, Nat.mul_div_mul_right _ _ some, Nat.mul_right_comm den k, nearestEven_mul_right some]
  exact congrArg (Binary64.mk false) (Fin.ext code)

theorem units_ofUnits (positive : 0 < den) (drops : Drops num den dropped) (few : dropped ≤ 2044) :
    (ofUnits num den).isFinite = true ∧
      (ofUnits num den).units = nearestEven num (den * 2 ^ dropped) * 2 ^ dropped := by
  obtain ⟨most, least⟩ := drops.rounded positive
  have code : (ofUnits num den).code.val =
      min infinityCode (dropped * 2 ^ 52 + nearestEven num (den * 2 ^ dropped)) := drops.nearestCode_eq positive
  generalize nearestEven num (den * 2 ^ dropped) = r at most least code ⊢
  generalize ofUnits num den = x at code ⊢
  have below : dropped * 2 ^ 52 + r < infinityCode := by
    unfold infinityCode
    omega
  rw [Nat.min_eq_right (Nat.le_of_lt below)] at code
  constructor
  · rw [isFinite, code]
    exact decide_eq_true below
  · rcases Nat.lt_or_eq_of_le most with small | rfl
    · obtain ⟨shift, significand⟩ := parts_unique code small least
      rw [units, shift, significand]
    · obtain ⟨shift, significand⟩ := parts_unique (by omega : x.code.val = (dropped + 1) * 2 ^ 52 + 2 ^ 52)
        (by decide) (.inr (Nat.le_refl _))
      have carried : 2 ^ (dropped + 1) = 2 ^ dropped * 2 := Nat.pow_succ ..
      rw [units, shift, significand, carried]
      omega

theorem units_ofUnits_of_dvd (drops : Drops num 1 dropped) (few : dropped ≤ 2044) (fits : 2 ^ dropped ∣ num) :
    (ofUnits num 1).units = num := by
  obtain ⟨n, rfl⟩ := fits
  rw [(units_ofUnits Nat.one_pos drops few).2, Nat.one_mul, Nat.mul_comm _ n,
    nearestEven_mul (Nat.pow_pos (by decide))]

/-- A number of at most 53 binary places is a double, wherever its places are. -/
theorem units_ofNat {significand places : Nat} (small : significand < 2 ^ 53) (few : places ≤ 900) :
    (ofNat (significand * 2 ^ places)).units = significand * 2 ^ places * one := by
  have number : significand * 2 ^ places * one = significand * 2 ^ (1074 + places) := by
    rw [Nat.mul_assoc, Nat.mul_comm (2 ^ places), one_mul_two_pow]
  have drops := (drops_log2 Nat.one_pos : Drops (significand * 2 ^ (1074 + places)) 1 _)
  generalize Nat.log2 (significand * 2 ^ (1074 + places) / 1) - 52 = dropped at drops
  have least : dropped ≤ 1074 + places := by
    rcases drops.low with none | low
    · omega
    · have high : significand * 2 ^ (1074 + places) < 2 ^ 53 * 2 ^ (1074 + places) :=
        Nat.mul_lt_mul_of_pos_right small (Nat.pow_pos (by decide))
      have split : 2 ^ 53 * 2 ^ (1074 + places) = 2 ^ 52 * 2 ^ (1074 + places + 1) := by
        rw [Nat.pow_succ 2 (1074 + places)]
        omega
      rw [split] at high
      rw [Nat.one_mul] at low
      have powers := Nat.lt_of_mul_lt_mul_left (Nat.lt_of_le_of_lt low high)
      exact Nat.le_of_lt_succ ((Nat.pow_lt_pow_iff_right (by decide)).mp powers)
  have fits : 2 ^ dropped ∣ significand * 2 ^ (1074 + places) :=
    Nat.dvd_mul_left_of_dvd (Nat.pow_dvd_pow 2 least) significand
  rw [ofNat, ofRatio, number]
  exact units_ofUnits_of_dvd drops (by omega) fits

theorem units_natCast {n : Nat} (small : n < 2 ^ 53) : (ofNat n).units = n * one := by
  have units := units_ofNat small (Nat.zero_le 900)
  rwa [Nat.pow_zero, Nat.mul_one] at units

theorem units_ofUnits_zero (positive : 0 < den) :
    (ofUnits 0 den).isFinite = true ∧ (ofUnits 0 den).units = 0 := by
  have none : Drops 0 den 0 := ⟨Nat.mul_pos (by decide) (Nat.mul_pos positive (by decide)), .inl rfl⟩
  obtain ⟨finite, units⟩ := units_ofUnits positive none (by decide)
  have nothing := nearestEven_mul (Nat.mul_pos positive (by decide : 0 < 2 ^ 0)) 0
  rw [Nat.zero_mul] at nothing
  rw [nothing, Nat.zero_mul] at units
  exact ⟨finite, units⟩

/-- A quotient of the normal range is off by one part in `2 ^ 53` at most. -/
theorem units_ofUnits_near (positive : 0 < den) (normal : 2 ^ 52 * den ≤ num) (bounded : num < one * 2 ^ 200 * den) :
    (ofUnits num den).isFinite = true ∧
      2 ^ 53 * num ≤ 2 ^ 53 * ((ofUnits num den).units * den) + num ∧
      2 ^ 53 * ((ofUnits num den).units * den) ≤ 2 ^ 53 * num + num := by
  have drops := (drops_log2 positive : Drops num den _)
  generalize Nat.log2 (num / den) - 52 = dropped at drops
  have low : 2 ^ 52 * (den * 2 ^ dropped) ≤ num := by
    rcases drops.low with rfl | low
    · rwa [Nat.pow_zero, Nat.mul_one]
    · exact low
  have few : dropped ≤ 2044 := by
    have split : 2 ^ 52 * (den * 2 ^ dropped) = 2 ^ (52 + dropped) * den := by
      rw [Nat.pow_add, Nat.mul_comm den, Nat.mul_assoc]
    rw [split] at low
    rw [one_mul_two_pow] at bounded
    have powers := Nat.lt_of_mul_lt_mul_right (Nat.lt_of_le_of_lt low bounded)
    have exponents := (Nat.pow_lt_pow_iff_right (by decide)).mp powers
    omega
  have unit : 0 < den * 2 ^ dropped := Nat.mul_pos positive (Nat.pow_pos (by decide))
  have nearest := (nearestEven_nearest unit : IsNearest num _ _).weak
  obtain ⟨finite, units⟩ := units_ofUnits positive drops few
  have same : (ofUnits num den).units * den = nearestEven num (den * 2 ^ dropped) * (den * 2 ^ dropped) := by
    rw [units, Nat.mul_assoc, Nat.mul_comm _ den]
  rw [same]
  exact ⟨finite, by omega, by omega⟩

end Units

section Within

/-- What is left of a number that is rounded down as far as a rounding can go. -/
def kept : ℚ := 1 - 1 / 2 ^ 53

/-- A number that has come from an exact one by so many roundings, each of them off by one part in `2 ^ 53` at most. -/
def Within (roundings : Nat) (exact rounded : ℚ) : Prop :=
  0 ≤ exact ∧ exact * kept ^ roundings ≤ rounded ∧ rounded * kept ^ roundings ≤ exact

variable {j k : Nat} {a b c d : ℚ}

theorem kept_pos : 0 < kept := by norm_num [kept]

theorem kept_pow_pos (k : Nat) : 0 < kept ^ k := pow_pos kept_pos k

theorem kept_le_one : kept ≤ 1 := by norm_num [kept]

theorem Within.nonneg (within : Within k a b) : 0 ≤ b :=
  le_trans (mul_nonneg within.1 (kept_pow_pos k).le) within.2.1

theorem Within.symm (within : Within k a b) : Within k b a := ⟨within.nonneg, within.2.2, within.2.1⟩

theorem Within.pos (within : Within k a b) (positive : 0 < a) : 0 < b :=
  lt_of_lt_of_le (mul_pos positive (kept_pow_pos k)) within.2.1

theorem Within.eq_zero (within : Within k 0 b) : b = 0 :=
  le_antisymm (not_lt.mp fun above => lt_irrefl 0 (within.symm.pos above)) within.nonneg

theorem Within.refl (nonneg : 0 ≤ a) : Within 0 a a := by
  refine ⟨nonneg, ?_, ?_⟩ <;> rw [pow_zero, mul_one]

theorem Within.mono (within : Within j a b) (more : j ≤ k) : Within k a b := by
  have powers : kept ^ k ≤ kept ^ j := pow_le_pow_of_le_one kept_pos.le kept_le_one more
  refine ⟨within.1, ?_, ?_⟩
  · exact le_trans (mul_le_mul_of_nonneg_left powers within.1) within.2.1
  · exact le_trans (mul_le_mul_of_nonneg_left powers within.nonneg) within.2.2

theorem Within.trans (first : Within j a b) (second : Within k b c) : Within (j + k) a c := by
  refine ⟨first.1, ?_, ?_⟩
  · calc a * kept ^ (j + k) = a * kept ^ j * kept ^ k := by rw [pow_add, mul_assoc]
      _ ≤ b * kept ^ k := mul_le_mul_of_nonneg_right first.2.1 (kept_pow_pos k).le
      _ ≤ c := second.2.1
  · calc c * kept ^ (j + k) = c * kept ^ k * kept ^ j := by rw [pow_add, mul_comm (kept ^ j), mul_assoc]
      _ ≤ b * kept ^ j := mul_le_mul_of_nonneg_right second.2.2 (kept_pow_pos j).le
      _ ≤ a := first.2.2

theorem Within.add (left : Within k a b) (right : Within k c d) : Within k (a + c) (b + d) := by
  refine ⟨add_nonneg left.1 right.1, ?_, ?_⟩
  · rw [add_mul]
    exact add_le_add left.2.1 right.2.1
  · rw [add_mul]
    exact add_le_add left.2.2 right.2.2

theorem Within.mul (left : Within j a b) (right : Within k c d) : Within (j + k) (a * c) (b * d) := by
  have split (x y : ℚ) : x * y * kept ^ (j + k) = x * kept ^ j * (y * kept ^ k) := by
    rw [pow_add]
    ring
  refine ⟨mul_nonneg left.1 right.1, ?_, ?_⟩
  · rw [split]
    exact mul_le_mul left.2.1 right.2.1 (mul_nonneg right.1 (kept_pow_pos k).le) left.nonneg
  · rw [split]
    exact mul_le_mul left.2.2 right.2.2 (mul_nonneg right.nonneg (kept_pow_pos k).le) left.1

theorem Within.inv (within : Within k a b) (positive : 0 < a) : Within k a⁻¹ b⁻¹ := by
  have above := within.pos positive
  refine ⟨inv_nonneg.mpr within.1, ?_, ?_⟩
  · rw [inv_mul_le_iff₀ positive, ← div_eq_mul_inv, le_div_iff₀ above, mul_comm]
    exact within.2.2
  · rw [inv_mul_le_iff₀ above, ← div_eq_mul_inv, le_div_iff₀ positive, mul_comm]
    exact within.2.1

theorem Within.div (left : Within j a b) (right : Within k c d) (positive : 0 < c) :
    Within (j + k) (a / c) (b / d) := by
  rw [div_eq_mul_inv, div_eq_mul_inv]
  exact left.mul (right.inv positive)

theorem le_kept_pow (k : Nat) : 1 - k / 2 ^ 53 ≤ kept ^ k := by
  have least := one_add_mul_le_pow (by norm_num : (-2 : ℚ) ≤ -(1 / 2 ^ 53)) k
  rw [kept, sub_eq_add_neg 1 (1 / 2 ^ 53 : ℚ)]
  refine le_trans (le_of_eq ?_) least
  ring

/-- Few roundings add up to little more than their number. -/
theorem Within.error (within : Within k a b) : |b - a| * (2 ^ 53 - k) ≤ k * a := by
  have bernoulli := le_kept_pow k
  have scaled {x y : ℚ} (left : x * kept ^ k ≤ y) (nonneg : 0 ≤ x) : x * (2 ^ 53 - k) ≤ y * 2 ^ 53 :=
    calc x * (2 ^ 53 - k) = x * (1 - k / 2 ^ 53) * 2 ^ 53 := by ring
      _ ≤ x * kept ^ k * 2 ^ 53 := by gcongr
      _ ≤ y * 2 ^ 53 := by gcongr
  have below := scaled within.2.1 within.1
  have above := scaled within.2.2 within.nonneg
  rcases le_total a b with more | less
  · rw [abs_of_nonneg (sub_nonneg.mpr more)]
    linarith
  · have least : (k : ℚ) * b ≤ k * a := mul_le_mul_of_nonneg_left less (Nat.cast_nonneg k)
    rw [abs_of_nonpos (sub_nonpos.mpr less)]
    linarith

/-- What is close to a number could have come from it by roundings. -/
theorem within_of_close (nonneg : 0 ≤ a) (close : |b - a| * 2 ^ 53 ≤ k * a) (few : k ≤ 32) : Within (k + 1) a b := by
  -- one rounding more than there are parts missing: powers fall a little short of multiples
  have powers : kept ^ (k + 1) * (2 ^ 53 + k) ≤ 2 ^ 53 - 1 := by
    have inverse : kept * (1 + 1 / (2 ^ 53 - 1)) = 1 := by norm_num [kept]
    have least := one_add_mul_le_pow (by norm_num : (-2 : ℚ) ≤ 1 / (2 ^ 53 - 1)) (k + 1)
    calc kept ^ (k + 1) * (2 ^ 53 + k)
        = kept ^ (k + 1) * (1 + (k + 1 : Nat) * (1 / (2 ^ 53 - 1))) * (2 ^ 53 - 1) := by
          push_cast
          ring
      _ ≤ kept ^ (k + 1) * (1 + 1 / (2 ^ 53 - 1)) ^ (k + 1) * (2 ^ 53 - 1) := by
          gcongr
          exact (kept_pow_pos _).le
      _ = 2 ^ 53 - 1 := by rw [← mul_pow, inverse, one_pow, one_mul]
  have fewer : (k : ℚ) ≤ 32 := by exact_mod_cast few
  have some : (0 : ℚ) ≤ k := Nat.cast_nonneg k
  obtain ⟨low, high⟩ := abs_le.mp (le_of_mul_le_mul_right (by linarith) (by norm_num : (0 : ℚ) < 2 ^ 53) :
    |b - a| ≤ k * a / 2 ^ 53)
  refine ⟨nonneg, ?_, ?_⟩
  · have square : (k : ℚ) * k ≤ 32 * 32 := mul_le_mul fewer fewer some (by norm_num)
    have most : kept ^ (k + 1) ≤ 1 - k / 2 ^ 53 := by
      refine le_trans ((le_div_iff₀ (by positivity)).mpr powers) ((div_le_iff₀ (by positivity)).mpr ?_)
      linarith
    linarith [mul_le_mul_of_nonneg_left most nonneg]
  · calc b * kept ^ (k + 1) ≤ a * (2 ^ 53 + k) / 2 ^ 53 * kept ^ (k + 1) := by
          gcongr
          · exact (kept_pow_pos _).le
          · linarith
      _ = a * (kept ^ (k + 1) * (2 ^ 53 + k)) / 2 ^ 53 := by ring
      _ ≤ a * (2 ^ 53 - 1) / 2 ^ 53 := by gcongr
      _ ≤ a := by linarith

theorem within_one (nonneg : 0 ≤ a) (low : 2 ^ 53 * a ≤ 2 ^ 53 * b + a) (high : 2 ^ 53 * b ≤ 2 ^ 53 * a + a) :
    Within 1 a b := by
  refine ⟨nonneg, ?_, ?_⟩ <;> rw [pow_one, kept] <;> linarith

end Within

section Operations

variable {num den j k n : Nat} {a b : ℚ} {x y : Binary64}

def magnitude (x : Binary64) : ℚ := x.units / one

/-- Numbers that are neither tiny nor huge: amounts of money, and what is computed from them. -/
def IsModest (number : ℚ) : Prop := number = 0 ∨ 1 / 10 ^ 28 ≤ number ∧ number ≤ 10 ^ 29

theorem cast_one_pos : (0 : ℚ) < one := Nat.cast_pos.mpr one_pos

theorem magnitude_mul_one (x : Binary64) : x.magnitude * one = x.units := div_mul_cancel₀ _ cast_one_pos.ne'

theorem magnitude_pos_iff : 0 < x.magnitude ↔ x.isZero = false := by
  rw [magnitude, div_pos_iff_of_pos_right cast_one_pos, Nat.cast_pos, units_pos_iff]

/-- A double that counts a whole number of ones has come from that number without a rounding. -/
theorem within_of_units (units : x.units = n * one) : Within 0 n x.magnitude := by
  have number : x.magnitude = n := by
    rw [magnitude, units, Nat.cast_mul, mul_div_cancel_right₀ _ cast_one_pos.ne']
  rw [number]
  exact Within.refl (Nat.cast_nonneg n)

theorem natCast_exact (small : n < 2 ^ 53) : Within 0 n (ofNat n).magnitude := within_of_units (units_natCast small)

theorem isModest_natCast (most : n ≤ 10 ^ 29) : IsModest n := by
  rcases Nat.eq_zero_or_pos n with rfl | some
  · exact .inl Nat.cast_zero
  · have least : (1 : ℚ) ≤ n := by exact_mod_cast some
    refine .inr ⟨le_trans (by norm_num) least, ?_⟩
    exact_mod_cast most

/-- A quotient of units that comes from a modest number is in the normal range, with room for a few roundings. -/
theorem units_normal (positive : 0 < den) {number : ℚ} (quotient : (num : ℚ) = number * one * den)
    (low : 1 ≤ number * (2 * 10 ^ 28)) (high : number ≤ 2 * 10 ^ 29) :
    2 ^ 52 * den ≤ num ∧ num < one * 2 ^ 200 * den := by
  have divisor : (0 : ℚ) < den := Nat.cast_pos.mpr positive
  have units : (0 : ℚ) < one * den := mul_pos cast_one_pos divisor
  have small : 2 ^ 52 * (2 * 10 ^ 28) ≤ one := by
    have places := two_pow_le_one_mul 147 0 (by decide)
    rw [Nat.pow_zero, Nat.mul_one] at places
    exact Nat.le_trans (by decide) places
  have large : 2 * 10 ^ 29 * one < one * 2 ^ 200 := by
    rw [Nat.mul_comm _ one]
    exact Nat.mul_lt_mul_of_pos_left (by decide) one_pos
  generalize one = unit at *
  constructor
  · have least : unit * den ≤ num * (2 * 10 ^ 28) := by
      have scaled := mul_le_mul_of_nonneg_right low units.le
      have : (unit : ℚ) * den ≤ num * (2 * 10 ^ 28) := by linarith
      exact_mod_cast this
    refine Nat.le_of_mul_le_mul_right (Nat.le_trans ?_ least) (by decide : 0 < 2 * 10 ^ 28)
    rw [Nat.mul_right_comm]
    exact Nat.mul_le_mul_right den small
  · have most : num ≤ 2 * 10 ^ 29 * unit * den := by
      have scaled := mul_le_mul_of_nonneg_right high units.le
      have : (num : ℚ) ≤ 2 * 10 ^ 29 * unit * den := by linarith
      exact_mod_cast this
    exact Nat.lt_of_le_of_lt most (Nat.mul_lt_mul_of_pos_right large positive)

/-- A number that was rounded some times and is rounded once more. -/
theorem ofUnits_within (positive : 0 < den) {number : ℚ} (quotient : (num : ℚ) = number * one * den)
    (near : Within k a number) (modest : IsModest a) (few : k ≤ 32) :
    (ofUnits num den).isFinite = true ∧ Within (k + 1) a (ofUnits num den).magnitude := by
  have divisor : (0 : ℚ) < den := Nat.cast_pos.mpr positive
  rcases modest with rfl | ⟨least, most⟩
  · obtain rfl := near.eq_zero
    rw [zero_mul, zero_mul, Nat.cast_eq_zero] at quotient
    subst quotient
    obtain ⟨finite, units⟩ := units_ofUnits_zero positive
    refine ⟨finite, ?_⟩
    rw [magnitude, units, Nat.cast_zero, zero_div]
    exact (Within.refl le_rfl).mono (Nat.zero_le _)
  · have half : (1 / 2 : ℚ) ≤ kept ^ k := by
      have fewer : (k : ℚ) ≤ 32 := by exact_mod_cast few
      refine le_trans ?_ (le_kept_pow k)
      linarith
    have low : 1 ≤ number * (2 * 10 ^ 28) := by
      have part := mul_le_mul least half (by norm_num) near.1
      linarith [near.2.1]
    have high : number ≤ 2 * 10 ^ 29 := by
      have part := mul_le_mul_of_nonneg_left half near.nonneg
      linarith [near.2.2]
    obtain ⟨normal, bounded⟩ := units_normal positive quotient low high
    obtain ⟨finite, below, above⟩ := units_ofUnits_near positive normal bounded
    have below' : (2 : ℚ) ^ 53 * num ≤ 2 ^ 53 * ((ofUnits num den).units * den) + num := by exact_mod_cast below
    have above' : (2 : ℚ) ^ 53 * ((ofUnits num den).units * den) ≤ 2 ^ 53 * num + num := by exact_mod_cast above
    rw [← magnitude_mul_one, quotient] at below' above'
    refine ⟨finite, near.trans (within_one near.nonneg ?_ ?_)⟩
    · apply le_of_mul_le_mul_right _ (mul_pos cast_one_pos divisor)
      linarith
    · apply le_of_mul_le_mul_right _ (mul_pos cast_one_pos divisor)
      linarith

theorem ofNat_within (near : Within k a n) (modest : IsModest a) (few : k ≤ 32) :
    (ofNat n).isFinite = true ∧ Within (k + 1) a (ofNat n).magnitude := by
  refine ofUnits_within Nat.one_pos ?_ near modest few
  rw [Nat.cast_mul, Nat.cast_one, mul_one]

theorem add_within (left : Within k a x.magnitude) (right : Within k b y.magnitude) (modest : IsModest (a + b))
    (few : k ≤ 32) : Within (k + 1) (a + b) (x.add y).magnitude := by
  refine (ofUnits_within Nat.one_pos ?_ (left.add right) modest few).2
  rw [Nat.cast_add, Nat.cast_one, mul_one, add_mul, magnitude_mul_one, magnitude_mul_one]

theorem mul_within (left : Within j a x.magnitude) (right : Within k b y.magnitude) (modest : IsModest (a * b))
    (few : j + k ≤ 32) : Within (j + k + 1) (a * b) (x.mul y).magnitude := by
  refine (ofUnits_within one_pos ?_ (left.mul right) modest few).2
  rw [Nat.cast_mul, ← magnitude_mul_one, ← magnitude_mul_one]
  ring

theorem div_within (left : Within j a x.magnitude) (right : Within k b y.magnitude) (positive : 0 < b)
    (modest : IsModest (a / b)) (few : j + k ≤ 32) :
    (x.div y).isFinite = true ∧ Within (j + k + 1) (a / b) (x.div y).magnitude := by
  have above := right.pos positive
  have divisor : 0 < y.units := units_pos_iff.mpr (magnitude_pos_iff.mp above)
  refine ofUnits_within divisor ?_ (left.div right positive) modest few
  rw [Nat.cast_mul, ← magnitude_mul_one x, ← magnitude_mul_one y, mul_mul_mul_comm, div_mul_cancel₀ _ above.ne',
    mul_assoc]

theorem rounded_half {count unit : Nat} {number : ℚ} (positive : 0 < unit) (counts : number * unit = count)
    (quotient : (2 * count + unit) / (2 * unit) = n) : |(n : ℚ) - number| ≤ 1 / 2 := by
  have low : n * (2 * unit) ≤ 2 * count + unit := quotient ▸ Nat.div_mul_le_self _ _
  have high : 2 * count + unit < (n + 1) * (2 * unit) :=
    Nat.lt_mul_of_div_lt (quotient ▸ Nat.lt_succ_self _) (Nat.mul_pos (by decide) positive)
  have low' : (n : ℚ) * (2 * unit) ≤ 2 * count + unit := by exact_mod_cast low
  have high' : (2 : ℚ) * count + unit < (n + 1) * (2 * unit) := by exact_mod_cast high
  rw [← counts] at low' high'
  rw [abs_le]
  constructor <;> apply le_of_mul_le_mul_right _ (Nat.cast_pos.mpr positive : (0 : ℚ) < unit) <;> linarith

/-- The whole number that a magnitude is rounded to is the nearest one: it is at most twice as far away from any other
whole number as the magnitude is. -/
theorem exists_round (x : Binary64) : ∃ n : Nat, x.round = ofNat n ∧
    ∀ m : Nat, |(n : ℚ) - m| ≤ 2 * |x.magnitude - m| := by
  obtain ⟨n, rounds, half⟩ : ∃ n : Nat, x.round = ofNat n ∧ |(n : ℚ) - x.magnitude| ≤ 1 / 2 :=
    ⟨_, rfl, rounded_half one_pos x.magnitude_mul_one rfl⟩
  refine ⟨n, rounds, fun m => ?_⟩
  -- as it is a half away at most, any other whole number is a half away from the magnitude at least
  have triangle : |(n : ℚ) - m| ≤ |(n : ℚ) - x.magnitude| + |x.magnitude - m| := abs_sub_le _ _ _
  by_cases same : n = m
  · subst same
    rw [sub_self, abs_zero]
    exact mul_nonneg zero_le_two (abs_nonneg _)
  · have apart : (1 : ℚ) ≤ |(n : ℚ) - m| := by
      have whole : (1 : ℤ) ≤ |(n : ℤ) - m| := Int.one_le_abs (sub_ne_zero.mpr (by exact_mod_cast same))
      exact_mod_cast whole
    linarith

end Operations

end PayBridge.Binary64
