import PayBridge.Host.Message
import PayBridge.Proofs.Binary64.Error
import PayBridge.Proofs.Binary64.FewDigits
import PayBridge.Proofs.Decimal.Text
import PayBridge.Proofs.Decimal.Value

/-! Decimals on the wire. A message carries an amount as a double. It is never far from the amount, and where the amount
has few digits it is the nearest double, from whose text the amount is read again. -/
namespace PayBridge.Decimal

open PayBridge.Binary64

section Text

variable {a b : Nat} {e f : Int}

/-- Without zeros at its end, a number stands on the finest grid that it is written on. -/
theorem exponent_le (same : (a : ℚ) * 10 ^ e = b * 10 ^ f) (last : b % 10 ≠ 0) : e ≤ f := by
  by_contra finer
  obtain ⟨more, rfl⟩ : ∃ more : Nat, e = f + (more + 1 : Nat) := ⟨(e - f - 1).toNat, by omega⟩
  have unit : (10 : ℚ) ^ f ≠ 0 := by positivity
  have digits : (b : ℚ) = a * 10 ^ (more + 1) := by
    rw [zpow_add₀ (by decide), zpow_natCast] at same
    apply mul_right_cancel₀ unit
    rw [← same]
    ring
  have digits' : b = a * 10 ^ more * 10 := by
    rw [Nat.mul_assoc, ← Nat.pow_succ]
    exact_mod_cast digits
  exact last (digits' ▸ Nat.mul_mod_left _ _)

theorem toDigits_mul_pow (some : 0 < a) (zeros : Nat) :
    Nat.toDigits 10 (a * 10 ^ zeros) = Nat.toDigits 10 a ++ List.replicate zeros '0' := by
  induction zeros with
  | zero => rw [Nat.pow_zero, Nat.mul_one, List.replicate_zero, List.append_nil]
  | succ zeros ih =>
    have front : a * 10 ^ (zeros + 1) = a * 10 ^ zeros * 10 := by rw [Nat.pow_succ, Nat.mul_assoc]
    have large : 10 ≤ a * 10 ^ (zeros + 1) := by
      rw [front]
      exact Nat.le_mul_of_pos_left 10 (Nat.mul_pos some (Nat.pow_pos (by decide)))
    rw [Nat.toDigits_of_base_le (by decide) large, front, Nat.mul_div_cancel _ (by decide), Nat.mul_mod_left, ih,
      List.append_assoc, List.replicate_succ']
    rfl

variable {d : Decimal} {s : Shortest}

/-- Digits and an exponent without zeros at their end are written like the decimal of the same number. -/
theorem plain_eq_magnitudeText (tight : d.scale = 0 ∨ d.mantissa % 10 ≠ 0) (last : s.digits % 10 ≠ 0)
    (same : s.value = d.mantissa * 10 ^ (-d.scale : Int)) : s.plain = d.magnitudeText := by
  unfold Shortest.value at same
  by_cases unscaled : d.scale = 0
  · have whole : 0 ≤ s.exponent := by
      rw [unscaled] at same
      exact exponent_le same.symm last
    obtain ⟨zeros, exponent⟩ := Int.eq_ofNat_of_zero_le whole
    have some : 0 < s.digits := Nat.pos_of_ne_zero fun none => last (by rw [none])
    have mantissa : d.mantissa = s.digits * 10 ^ zeros := by
      rw [unscaled, exponent, zpow_natCast, Nat.cast_zero, neg_zero, zpow_zero, mul_one] at same
      exact_mod_cast same.symm
    have full : 0 + 1 - (Nat.toDigits 10 d.mantissa).length = 0 := by
      have begun : 0 < (Nat.toDigits 10 d.mantissa).length := Nat.length_toDigits_pos
      omega
    have text : d.magnitudeText = Nat.toDigits 10 d.mantissa := by
      simp only [magnitudeText, unscaled, ↓reduceIte, paddedDigits, full, List.replicate_zero, List.nil_append]
    rw [text, mantissa, toDigits_mul_pow some]
    simp only [Shortest.plain]
    rw [if_pos whole, if_neg (Nat.ne_of_gt some), exponent, Int.toNat_natCast]
  · have digit := tight.resolve_left unscaled
    have exponent : s.exponent = -d.scale :=
      Int.le_antisymm (exponent_le same digit) (exponent_le same.symm last)
    have digits : s.digits = d.mantissa := by
      have unit : (10 : ℚ) ^ (-d.scale : Int) ≠ 0 := by positivity
      rw [exponent] at same
      exact_mod_cast mul_right_cancel₀ unit same
    have point : ¬ 0 ≤ s.exponent := by omega
    simp only [Shortest.plain, magnitudeText, paddedDigits]
    rw [if_neg point, if_neg unscaled, exponent, digits, Int.neg_neg, Int.toNat_natCast]

end Text

section Error

variable {m scale j : Nat}

theorem isModest_ratio (most : m ≤ 10 ^ 29) (few : scale ≤ 28) : IsModest (m / 10 ^ scale) := by
  rcases Nat.eq_zero_or_pos m with rfl | some
  · exact .inl (by rw [Nat.cast_zero, zero_div])
  · have least : (1 : ℚ) ≤ m := by exact_mod_cast some
    have most' : (m : ℚ) ≤ 10 ^ 29 := by exact_mod_cast most
    have power : (1 : ℚ) ≤ 10 ^ scale := one_le_pow₀ (by norm_num)
    have powers : (10 : ℚ) ^ scale ≤ 10 ^ 28 := pow_le_pow_right₀ (by norm_num) few
    refine .inr ⟨?_, ?_⟩
    · exact div_le_div₀ (by linarith) least (by positivity) powers
    · exact le_trans (div_le_self (by positivity) power) most'

theorem whole_add_fraction (m scale : Nat) :
    ((m / 10 ^ scale : Nat) : ℚ) + (m % 10 ^ scale : Nat) / 10 ^ scale = m / 10 ^ scale := by
  have power : (10 : ℚ) ^ scale ≠ 0 := by positivity
  have division : ((10 ^ scale * (m / 10 ^ scale) + m % 10 ^ scale : Nat) : ℚ) = m := by rw [Nat.div_add_mod]
  push_cast at division
  rw [eq_div_iff power, add_mul, div_mul_cancel₀ _ power, ← division]
  ring

/-- Put together from whole part and fraction and scaled up, a decimal is near its mantissa. Each of the three whole
numbers that go into it may have been rounded. -/
theorem scaled_within (most : m ≤ 10 ^ 29) (few : scale ≤ 28) (once : j ≤ 1)
    (whole : Within j (m / 10 ^ scale : Nat) (ofNat (m / 10 ^ scale)).magnitude)
    (rest : Within j (m % 10 ^ scale : Nat) (ofNat (m % 10 ^ scale)).magnitude)
    (power : Within j (10 ^ scale) (tenTo scale).magnitude) :
    Within (3 * j + 3) m
      (((ofNat (m / 10 ^ scale)).add ((ofNat (m % 10 ^ scale)).div (tenTo scale))).mul (tenTo scale)).magnitude := by
  have unit : (0 : ℚ) < 10 ^ scale := by positivity
  have small : m % 10 ^ scale ≤ 10 ^ 29 := Nat.le_trans (Nat.mod_le ..) most
  obtain ⟨_, fraction⟩ := div_within rest power unit (isModest_ratio small few) (by omega)
  have modest : IsModest ((m / 10 ^ scale : Nat) + (m % 10 ^ scale : Nat) / 10 ^ scale) := by
    rw [whole_add_fraction]
    exact isModest_ratio most few
  have sum := add_within (whole.mono (by omega)) fraction modest (by omega)
  rw [whole_add_fraction] at sum
  have scaledUp : (m : ℚ) / 10 ^ scale * 10 ^ scale = m := div_mul_cancel₀ _ unit.ne'
  have modest' : IsModest ((m : ℚ) / 10 ^ scale * 10 ^ scale) := by
    rw [scaledUp]
    exact isModest_natCast most
  have product := mul_within sum power modest' (by omega)
  rw [scaledUp] at product
  exact product.mono (by omega)

theorem natCast_within {n : Nat} (most : n ≤ 10 ^ 29) :
    (ofNat n).isFinite = true ∧ Within 1 n (ofNat n).magnitude :=
  ofNat_within (Within.refl (Nat.cast_nonneg n)) (isModest_natCast most) (by decide)

theorem tenTo_within (few : scale ≤ 28) : Within 1 (10 ^ scale) (tenTo scale).magnitude := by
  have near := (natCast_within (Nat.le_trans (Nat.pow_le_pow_right (by decide : 0 < 10) few) (by decide))).2
  rwa [Nat.cast_pow, Nat.cast_ofNat] at near

/-- A fraction that is rounded to nothing is nothing. -/
theorem whole_of_isZero {near : Nat} {x : Binary64} (none : x.isZero = true)
    (fraction : Within near ((m % 10 ^ scale : Nat) / 10 ^ scale) x.magnitude) :
    ((m / 10 ^ scale : Nat) : ℚ) = m / 10 ^ scale := by
  have nothing : x.magnitude = 0 := by
    refine le_antisymm (not_lt.mp fun above => ?_) fraction.nonneg
    rw [magnitude_pos_iff.mp above] at none
    cases none
  rw [nothing] at fraction
  rw [← whole_add_fraction m scale, fraction.symm.eq_zero, add_zero]

/-- The whole number that is next to the scaled up decimal is as near to the mantissa as eight roundings more bring
it. -/
theorem round_within (most : m ≤ 10 ^ 29) {x : Binary64} (near : Within 6 m x.magnitude) :
    Within 15 m x.round.magnitude := by
  obtain ⟨n, rounds, nearest⟩ := x.exists_round
  have close : |(n : ℚ) - m| * 2 ^ 53 ≤ (13 : Nat) * m := by
    have error := near.error
    have twice := mul_le_mul_of_nonneg_right (nearest m) (by norm_num : (0 : ℚ) ≤ 2 ^ 53 - 6)
    have least : (0 : ℚ) ≤ m := Nat.cast_nonneg m
    push_cast at error ⊢
    linarith
  rw [rounds]
  exact (ofNat_within (within_of_close (Nat.cast_nonneg m) close (by decide)) (isModest_natCast most) (by decide)).2

variable {d : Decimal}

theorem toBinary64_within (positive : d.negative = false) :
    d.toBinary64.isFinite = true ∧ d.toBinary64.negative = false ∧ Within 17 d.value d.toBinary64.magnitude := by
  have most : d.mantissa ≤ 10 ^ 29 := Nat.le_trans (Nat.le_of_lt d.mantissa_lt) (by decide)
  have few := d.scale_le
  have value := value_of_positive positive
  simp only [toBinary64, positive, Bool.false_eq_true, ↓reduceIte]
  generalize d.mantissa = m at most value ⊢
  generalize d.scale = scale at few value ⊢
  by_cases unscaled : scale = 0
  · obtain ⟨finite, near⟩ := natCast_within most
    rw [unscaled, pow_zero, div_one] at value
    rw [if_pos unscaled, value]
    exact ⟨finite, rfl, near.mono (by decide)⟩
  · have unit : (0 : ℚ) < 10 ^ scale := by positivity
    have power := tenTo_within few
    have small : m % 10 ^ scale ≤ 10 ^ 29 := Nat.le_trans (Nat.mod_le ..) most
    obtain ⟨finite, whole⟩ := natCast_within (Nat.le_trans (Nat.div_le_self m (10 ^ scale)) most)
    have rest := (natCast_within small).2
    rw [if_neg unscaled, value]
    split
    · rename_i none
      have fraction := (div_within rest power unit (isModest_ratio small few) (by decide)).2
      rw [← whole_of_isZero none fraction]
      exact ⟨finite, rfl, whole.mono (by decide)⟩
    · have rounded := round_within most (scaled_within most few (Nat.le_refl 1) whole rest power)
      obtain ⟨finite, near⟩ := div_within rounded power unit (isModest_ratio most few) (by decide)
      exact ⟨finite, rfl, near⟩

/-- No amount is sent that is off by more than one part in `2 ^ 48`. -/
theorem toBinary64_close (positive : d.negative = false) : |d.toBinary64.value - d.value| ≤ d.value / 2 ^ 48 := by
  obtain ⟨_, unsigned, near⟩ := toBinary64_within positive
  have number : d.toBinary64.value = d.toBinary64.magnitude := by
    rw [Binary64.value, unsigned, magnitude, if_neg Bool.false_ne_true, one_mul]
  have error := near.error
  have least := near.1
  rw [number]
  push_cast at error
  rw [le_div_iff₀ (by norm_num)]
  linarith [abs_nonneg (d.toBinary64.magnitude - d.value)]

end Error

section Few

variable {m scale : Nat}

theorem units_tenTo (few : scale ≤ 22) : (tenTo scale).units = 10 ^ scale * one := by
  have small : 5 ^ scale < 2 ^ 53 := Nat.lt_of_le_of_lt (Nat.pow_le_pow_right (by decide) few) (by decide)
  have split : 10 ^ scale = 5 ^ scale * 2 ^ scale := by rw [← Nat.mul_pow]
  rw [tenTo, split]
  exact units_ofNat small (by omega)

theorem tenTo_exact (few : scale ≤ 22) : Within 0 (10 ^ scale) (tenTo scale).magnitude := by
  have near := within_of_units (units_tenTo few)
  rwa [Nat.cast_pow, Nat.cast_ofNat] at near

theorem ofNat_div_tenTo (small : m < 2 ^ 53) (few : scale ≤ 22) :
    (ofNat m).div (tenTo scale) = ofRatio m (10 ^ scale) := by
  rw [div, units_natCast small, units_tenTo few, ofUnits_mul_right Binary64.one_pos, ofRatio]

/-- A mantissa of fifteen digits is found again when the decimal is scaled up. -/
theorem round_eq {x : Binary64} (few : m < 10 ^ 15) (near : Within 3 m x.magnitude) : x.round = ofNat m := by
  obtain ⟨n, rounds, nearest⟩ := x.exists_round
  have close : |(n : ℚ) - m| < 1 := by
    have error := near.error
    have most : (m : ℚ) < 10 ^ 15 := by exact_mod_cast few
    have twice := nearest m
    push_cast at error
    linarith
  have same : n = m := by
    have apart : |(n : ℤ) - m| < 1 := by exact_mod_cast close
    have none := Int.abs_lt_one_iff.mp apart
    omega
  rw [rounds, same]

variable {d : Decimal}

/-- A decimal of at most fifteen digits goes to the nearest double, unless it has very many places. -/
theorem toBinary64_eq_ofRatio (positive : d.negative = false) (few : d.mantissa < 10 ^ 15) (places : d.scale ≤ 22) :
    d.toBinary64 = ofRatio d.mantissa (10 ^ d.scale) := by
  simp only [toBinary64, positive, Bool.false_eq_true, ↓reduceIte]
  generalize d.mantissa = m at few ⊢
  generalize d.scale = scale at places ⊢
  have below {n : Nat} (least : n ≤ m) : n < 2 ^ 53 := Nat.lt_of_le_of_lt least (Nat.lt_trans few (by decide))
  by_cases unscaled : scale = 0
  · rw [if_pos unscaled, unscaled, Nat.pow_zero, ofNat]
  · have whole := natCast_exact (below (Nat.div_le_self m (10 ^ scale)))
    have rest := natCast_exact (below (Nat.mod_le m (10 ^ scale)))
    have most : m ≤ 10 ^ 29 := Nat.le_trans (Nat.le_of_lt few) (by decide)
    rw [if_neg unscaled]
    split
    · rename_i none
      have unit : (0 : ℚ) < 10 ^ scale := by positivity
      have fraction := (div_within rest (tenTo_exact places) unit
        (isModest_ratio (Nat.le_trans (Nat.mod_le ..) most) (by omega)) (by decide)).2
      have even := whole_of_isZero none fraction
      rw [eq_div_iff unit.ne'] at even
      have even' : m / 10 ^ scale * 10 ^ scale = m := by exact_mod_cast even
      have scaledUp : m * one = m / 10 ^ scale * one * 10 ^ scale := by rw [Nat.mul_right_comm, even']
      have same := ofUnits_mul_right (Nat.pow_pos (by decide : 0 < 10) : 0 < 10 ^ scale) (m / 10 ^ scale * one) 1
      rw [Nat.one_mul, ← scaledUp] at same
      exact same.symm
    · have near := scaled_within most (by omega) (Nat.zero_le 1) whole rest (tenTo_exact places)
      rw [round_eq few near, ofNat_div_tenTo (below (Nat.le_refl m)) places]

theorem holds_ofRatio {x : Binary64} (finite : x.isFinite = true) (rounds : x = ofRatio m (10 ^ scale)) :
    x.interval.Holds (m * 10 ^ (-scale : Int)) := by
  have code : nearestCode (m * one) (10 ^ scale) = x.code.val := by
    rw [rounds]
    rfl
  have inside := (nearestCode_eq_iff finite (Nat.pow_pos (by decide))).mp code
  have grid : gridStep (-scale) = 4 * one := by
    have none : (-scale : Int).toNat = 0 := by omega
    rw [gridStep, none, Nat.pow_zero, Nat.mul_one]
  have places : gridScale (-scale) = 10 ^ scale := by rw [gridScale, Int.neg_neg, Int.toNat_natCast]
  rw [← contains_grid_iff, grid, places, Nat.mul_left_comm]
  exact inside

theorem one_lt_grid (few : scale ≤ 28) : 1 < (10 : ℚ) ^ (-scale : Int) * one := by
  have power : (0 : ℚ) < 10 ^ scale := by positivity
  have large : 10 ^ scale < one := by
    have places := two_pow_le_one_mul 100 0 (by decide)
    rw [Nat.pow_zero, Nat.mul_one] at places
    have tens : 10 ^ scale ≤ 10 ^ 28 := Nat.pow_le_pow_right (by decide) few
    exact Nat.lt_of_le_of_lt tens (Nat.lt_of_lt_of_le (by decide) places)
  have large' : (10 : ℚ) ^ scale < one := by
    rw [← Nat.cast_ofNat, ← Nat.cast_pow]
    exact Nat.cast_lt.mpr large
  rw [zpow_neg, zpow_natCast, inv_mul_eq_div, lt_div_iff₀ power, one_mul]
  exact large'

/-- The text of the double of a normal decimal of at most fifteen digits is the text of the decimal. -/
theorem plain_toBinary64 (positive : d.negative = false) (tight : d.scale = 0 ∨ d.mantissa % 10 ≠ 0)
    (few : d.mantissa < 10 ^ 15) (places : d.scale ≤ 22) : d.toBinary64.plain = d.magnitudeText := by
  obtain ⟨finite, unsigned, near⟩ := toBinary64_within positive
  have rounds := toBinary64_eq_ofRatio positive few places
  generalize d.toBinary64 = x at finite unsigned near rounds ⊢
  rw [value_of_positive positive] at near
  rcases Nat.eq_zero_or_pos d.mantissa with none | some
  · have unscaled : d.scale = 0 := tight.resolve_right fun digit => digit (by rw [none])
    rw [none, Nat.cast_zero, zero_div] at near
    have zero : x.isZero = true := by
      by_contra nonzero
      exact absurd near.eq_zero (magnitude_pos_iff.mpr (Bool.eq_false_iff.mpr nonzero)).ne'
    rw [plain, shortest, if_pos zero, magnitudeText, none, unscaled]
    rfl
  · have number : (0 : ℚ) < d.mantissa / 10 ^ d.scale := by positivity
    have nonzero : x.isZero = false := magnitude_pos_iff.mp (near.pos number)
    obtain ⟨value, last⟩ := shortest_of_few .larger nonzero some (Nat.lt_trans few (by decide))
      (holds_ofRatio finite rounds) (one_lt_grid d.scale_le)
    exact plain_eq_magnitudeText tight last value

theorem decimalOfBinary64?_toBinary64 (positive : d.negative = false) (text : d.toBinary64.plain = d.text.toList) :
    Message.decimalOfBinary64? d.toBinary64 = some d := by
  rw [Message.decimalOfBinary64?, (toBinary64_within positive).2.1, if_neg Bool.false_ne_true, text]
  exact read?_text positive

end Few

/-- What the double is worth in which a decimal is sent: near to the decimal always, and of few digits the nearest
double, which is written with the digits of the decimal. -/
structure IsSentAs (d : Decimal) (x : Binary64) : Prop where
  finite : x.isFinite = true
  close : |x.value - d.value| ≤ d.value / 2 ^ 48
  nearest : d.mantissa < 10 ^ 15 → d.scale ≤ 22 → x = ofRatio d.mantissa (10 ^ d.scale)
  text : d.mantissa < 10 ^ 15 → d.scale ≤ 22 → x.plain = d.text.toList

theorem isSentAs_toBinary64 {d : Decimal} (positive : d.negative = false)
    (tight : d.scale = 0 ∨ d.mantissa % 10 ≠ 0) : d.IsSentAs d.toBinary64 where
  finite := (toBinary64_within positive).1
  close := toBinary64_close positive
  nearest := toBinary64_eq_ofRatio positive
  text few places := by
    rw [toList_text positive]
    exact plain_toBinary64 positive tight few places

end PayBridge.Decimal
