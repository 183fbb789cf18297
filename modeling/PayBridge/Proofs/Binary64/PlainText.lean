import PayBridge.Proofs.Binary64.Shortest
import PayBridge.Proofs.Decimal.Spelling

/-! The plain text of a double spells its shortest decimal, and reads as the double again. -/
namespace PayBridge.Binary64

open PayBridge.Text

variable {text digits : List Char} {number : ℚ} {x : Binary64}

theorem spells_zeros (mantissa zeros : Nat) :
    Spells (Nat.toDigits 10 mantissa ++ List.replicate zeros '0') (mantissa * 10 ^ zeros) := by
  have worth : Nat.ofDigitChars 10 (Nat.toDigits 10 mantissa ++ List.replicate zeros '0') 0 =
      mantissa * 10 ^ zeros := by
    rw [Nat.ofDigitChars_append, Nat.ofDigitChars_replicate_zero, Nat.ofDigitChars_ten_toDigits, Nat.mul_comm]
  have number : (mantissa : ℚ) * 10 ^ zeros = (mantissa * 10 ^ zeros : Nat) := by
    rw [Nat.cast_mul, Nat.cast_pow, Nat.cast_ofNat]
  rw [number, ← worth]
  apply Spells.whole
  · exact List.append_ne_nil_of_left_ne_nil Nat.toDigits_ne_nil _
  · intro c member
    rcases List.mem_append.mp member with digit | zero
    · exact Nat.isDigit_of_mem_toDigits (by decide) (by decide) digit
    · obtain rfl := List.eq_of_mem_replicate zero
      rfl

theorem Shortest.spells_plain (s : Shortest) : Spells s.plain s.value := by
  unfold Shortest.plain Shortest.value
  by_cases whole : 0 ≤ s.exponent
  · obtain ⟨zeros, exponent⟩ := Int.eq_ofNat_of_zero_le whole
    rw [if_pos whole, exponent, zpow_natCast, Int.toNat_natCast]
    split
    · rename_i none
      have zero := spells_zeros 0 0
      rw [Nat.cast_zero, zero_mul] at zero
      rw [none, Nat.cast_zero, zero_mul]
      exact zero
    · exact spells_zeros s.digits zeros
  · obtain ⟨places, exponent⟩ := Int.exists_eq_neg_ofNat (Int.le_of_lt (Int.not_le.mp whole))
    have number : (s.digits : ℚ) * 10 ^ s.exponent = s.digits / 10 ^ places := by
      rw [exponent, zpow_neg, zpow_natCast, div_eq_mul_inv]
    rw [if_neg whole, number, exponent, Int.neg_neg, Int.toNat_natCast]
    exact (Decimal.paddedDigits_isCut s.digits places).spells

theorem hexValue?_digit {c : Char} (digit : c.isDigit = true) :
    hexValue? c = some (c.toNat - '0'.toNat) ∧ c.toNat - '0'.toNat < 10 := by
  have range := digit_range digit
  constructor
  · rw [hexValue?, if_pos digit]
  · show c.toNat - 48 < 10
    omega

theorem foldlM_digits (digital : ∀ c ∈ digits, c.isDigit = true) (initial : Nat) :
    digits.foldlM (fun value c => do
      let digit ← hexValue? c
      if digit < 10 then some (value * 10 + digit) else none) initial = some (Nat.ofDigitChars 10 digits initial) := by
  induction digits generalizing initial with
  | nil => rfl
  | cons c digits ih =>
    obtain ⟨here, later⟩ := List.forall_mem_cons.mp digital
    obtain ⟨value, small⟩ := hexValue?_digit here
    rw [List.foldlM_cons, value, Nat.ofDigitChars_cons, Nat.mul_comm 10]
    simp only [Option.bind_eq_bind, Option.bind_some, if_pos small]
    exact ih later _

theorem numeral?_digits (begun : digits ≠ []) (digital : ∀ c ∈ digits, c.isDigit = true) :
    numeral? 10 digits = some (Nat.ofDigitChars 10 digits 0) := by
  unfold numeral?
  split
  · exact absurd rfl begun
  · exact foldlM_digits digital 0

/-- A plain text reads as the double of its number. -/
theorem readMagnitude?_spells (spells : Spells text number) : ∃ (digits : Nat) (exponent : Int),
    readMagnitude? text = some (ofDecimal digits exponent) ∧ digits * (10 : ℚ) ^ exponent = number := by
  obtain ⟨whole, fraction, parts, begun, digital, worth⟩ := spells.cut
  have unmarked : ∀ c ∈ text, (c == 'e' || c == 'E') = false := by
    intro c member
    rcases spells.mem member with digit | rfl
    · rw [Bool.or_eq_false_iff, beq_eq_false_iff_ne, beq_eq_false_iff_ne]
      constructor <;> rintro rfl <;> exact absurd digit (by decide)
    · rfl
  refine ⟨Nat.ofDigitChars 10 (whole ++ fraction) 0, 0 - fraction.length, ?_, ?_⟩
  · unfold readMagnitude?
    rw [upTo_unmarked unmarked]
    simp only [parts]
    rw [numeral?_digits (List.append_ne_nil_of_left_ne_nil begun _) digital]
    rfl
  · rw [worth, Int.zero_sub, zpow_neg, zpow_natCast, div_eq_mul_inv]

/-- The text of a finite double reads as the double, but for the sign. -/
theorem readMagnitude?_plain (finite : x.isFinite = true) : readMagnitude? x.plain = some x.abs := by
  obtain ⟨digits, exponent, read, number⟩ := readMagnitude?_spells (x.shortest .larger).spells_plain
  rw [plain, read]
  congr 1
  by_cases zero : x.isZero = true
  · have none : x.shortest .larger = ⟨0, 0⟩ := by rw [shortest, if_pos zero]
    have unit : (0 : ℚ) < 10 ^ exponent := by positivity
    rw [none, Shortest.value, Nat.cast_zero, zero_mul, mul_eq_zero_iff_right unit.ne', Nat.cast_eq_zero] at number
    rw [number, ofDecimal_zero, abs_of_isZero zero]
  · exact ofDecimal_congr finite (Bool.eq_false_iff.mpr zero) number (shortest_isShortest .larger finite).reads

end PayBridge.Binary64
