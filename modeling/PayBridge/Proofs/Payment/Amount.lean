import PayBridge.Payment.Amount
import PayBridge.Proofs.Decimal.Spelling
import PayBridge.Proofs.Word

/-! Minor units of an amount are the whole units of its number; what is finer is cut off. The digits are never
rounded and never pass through a double. -/
namespace PayBridge.Amount

open PayBridge.Text

/-- Aligned to some places, digits are worth the whole part of what they were at these places. -/
theorem digitsValue_aligned (whole : List Char) {fraction : List Char}
    (digital : ∀ c ∈ fraction, c.isDigit = true) (places : Nat) :
    digitsValue (whole ++ alignedFraction places fraction) =
      digitsValue (whole ++ fraction) * 10 ^ places / 10 ^ fraction.length := by
  unfold digitsValue
  rcases Nat.le_total places fraction.length with cut | filled
  · have kept : alignedFraction places fraction = fraction.take places := by
      rw [alignedFraction, List.length_take, Nat.min_eq_left cut, Nat.sub_self, List.replicate_zero,
        List.append_nil]
    have dropped : ∀ c ∈ fraction.drop places, c.isDigit = true :=
      fun c member => digital c (List.mem_of_mem_drop member)
    have parts : whole ++ fraction = (whole ++ fraction.take places) ++ fraction.drop places := by
      rw [List.append_assoc, List.take_append_drop]
    have powers : 10 ^ fraction.length = 10 ^ (fraction.drop places).length * 10 ^ places := by
      rw [← Nat.pow_add, List.length_drop, Nat.sub_add_cancel cut]
    rw [kept, ofDigitChars_whole (whole ++ fraction.take places) dropped, ← parts, powers]
    rw [Nat.mul_div_mul_right _ _ (Nat.pow_pos (by decide))]
  · have kept : alignedFraction places fraction =
        fraction ++ List.replicate (places - fraction.length) '0' := by
      rw [alignedFraction, List.take_of_length_le filled]
    have powers : 10 ^ places = 10 ^ (places - fraction.length) * 10 ^ fraction.length := by
      rw [← Nat.pow_add, Nat.sub_add_cancel filled]
    rw [kept, ← List.append_assoc, Nat.ofDigitChars_append, Nat.ofDigitChars_replicate_zero, powers,
      ← Nat.mul_assoc, Nat.mul_div_cancel _ (Nat.pow_pos (by decide)), Nat.mul_comm]

/-- With as many digits behind the point as there are places, the digits before it count so many tens. -/
theorem digitsValue_append_aligned (whole fraction : List Char) (places : Nat) :
    digitsValue (whole ++ alignedFraction places fraction) =
      digitsValue whole * 10 ^ places + digitsValue (alignedFraction places fraction) := by
  have length : (alignedFraction places fraction).length = places := by
    simp only [alignedFraction, List.length_append, List.length_take, List.length_replicate]
    omega
  rw [digitsValue, ofDigitChars_append_zero, length, Nat.mul_comm]
  rfl

theorem mem_alignedFraction {fraction : List Char} (digital : ∀ c ∈ fraction, c.isDigit = true) (places : Nat) :
    ∀ c ∈ alignedFraction places fraction, c.isDigit = true := by
  intro c member
  rcases List.mem_append.mp member with kept | filled
  · exact digital c (List.mem_of_mem_take kept)
  · obtain rfl := List.eq_of_mem_replicate filled
    rfl

section Words

variable {α : Type} {w n : Nat}

/-- A step on a number goes on with its word, if the number fits, and ends the whole if not. -/
theorem fitting_bind {next : BitVec w → Except Amount.Error α} {result : Except Amount.Error α}
    (small : n < 2 ^ w → next (BitVec.ofNat w n) = result) (large : ¬ n < 2 ^ w → result = .error .tooLarge) :
    fitting (Word.ofNat? w n) >>= next = result := by
  by_cases fits : n < 2 ^ w
  · rw [Word.ofNat?_of_lt fits]
    exact small fits
  · rw [Word.ofNat?_of_le (Nat.le_of_not_lt fits), large fits]
    rfl

theorem readDigits_eq {digits : List Char} (digital : ∀ c ∈ digits, c.isDigit = true) :
    readDigits digits = fitting (Word.ofNat? 128 (digitsValue digits)) := by
  have kept : ∀ c ∈ digits.dropWhile (· == '0'), c.isDigit = true :=
    fun c member => digital c ((List.dropWhile_sublist _).mem member)
  have read := Word.ofDigits?_eq (by decide : 4 ≤ 128) kept
  rw [ofDigitChars_dropZeros] at read
  simp only [readDigits]
  split
  · rename_i zeros
    rw [List.isEmpty_iff.mp zeros] at read
    rw [digitsValue, ← read]
    rfl
  · rw [read]
    rfl

/-- Thirty-eight places are the most that a power of ten in 128 bits has. -/
theorem ten_pow_fits_iff (places : Nat) : 10 ^ places < 2 ^ 128 ↔ places ≤ 38 := by
  constructor
  · intro fits
    by_contra more
    have least : 10 ^ 39 ≤ 10 ^ places := Nat.pow_le_pow_right (by decide) (Nat.lt_of_not_le more)
    exact absurd (Nat.lt_of_le_of_lt least fits) (by decide)
  · intro few
    exact Nat.lt_of_le_of_lt (Nat.pow_le_pow_right (by decide) few) (by decide)

end Words

/-- None of the steps fails if the power of ten and the result fit, for the other parts are no larger than the
result; and if one of these does not fit, some step fails. -/
theorem combine_eq {whole fraction : List Char} (wholeDigits : ∀ c ∈ whole, c.isDigit = true)
    (fractionDigits : ∀ c ∈ fraction, c.isDigit = true) (places : Nat) :
    combine whole fraction places =
      if places ≤ 38 ∧ digitsValue (whole ++ alignedFraction places fraction) < 2 ^ 64 then
        .ok (digitsValue (whole ++ alignedFraction places fraction))
      else .error .tooLarge := by
  unfold combine
  rw [readDigits_eq wholeDigits, readDigits_eq (mem_alignedFraction fractionDigits places),
    digitsValue_append_aligned, Word.checkedPow_eq _ (by decide), Word.ten_toNat (by decide)]
  generalize digitsValue whole = front
  generalize digitsValue (alignedFraction places fraction) = behind
  have front_le : front ≤ front * 10 ^ places + behind :=
    Nat.le_trans (Nat.le_mul_of_pos_right _ (Nat.pow_pos (by decide))) (Nat.le_add_right ..)
  have behind_le : behind ≤ front * 10 ^ places + behind := Nat.le_add_left ..
  have wider : front * 10 ^ places + behind < 2 ^ 64 → front * 10 ^ places + behind < 2 ^ 128 :=
    fun small => Nat.lt_trans small (by decide)
  refine fitting_bind ?_ fun large => if_neg fun fits => large (Nat.lt_of_le_of_lt front_le (wider fits.2))
  intro frontFits
  refine fitting_bind ?_ fun large => if_neg fun fits => large (Nat.lt_of_le_of_lt behind_le (wider fits.2))
  intro behindFits
  refine fitting_bind ?_ fun large => if_neg fun fits => large ((ten_pow_fits_iff places).mpr fits.1)
  intro powerFits
  have sum : (Word.checkedMul (BitVec.ofNat 128 front) (BitVec.ofNat 128 (10 ^ places))).bind
      (fun product => Word.checkedAdd product (BitVec.ofNat 128 behind)) =
        Word.ofNat? 128 (front * 10 ^ places + behind) := by
    rw [Word.checkedMul_eq, Word.toNat_of_lt frontFits, Word.toNat_of_lt powerFits]
    apply Word.ofNat?_bind (Nat.le_add_right ..)
    intro productFits
    rw [Word.checkedAdd_eq, Word.toNat_of_lt productFits, Word.toNat_of_lt behindFits]
  rw [sum]
  refine fitting_bind ?_ fun large => if_neg fun fits => large (wider fits.2)
  intro unitsFit
  rw [Word.narrow?, Word.toNat_of_lt unitsFit]
  refine fitting_bind ?_ fun large => if_neg fun fits => large fits.2
  intro small
  rw [Word.toNat_of_lt small, if_pos ⟨(ten_pow_fits_iff places).mp powerFits, small⟩]
  rfl

/-- The whole units of a number, where they can be told: at thirty-eight places at most, and in 64 bits. -/
def wholeUnits (number : ℚ) (places : Nat) : Except Amount.Error Nat :=
  if places ≤ 38 ∧ ⌊number * 10 ^ places⌋₊ < 2 ^ 64 then .ok ⌊number * 10 ^ places⌋₊
  else .error .tooLarge

theorem minorUnitsOfText_spells {text : List Char} {number : ℚ} (spells : Spells text number) (places : Nat) :
    minorUnitsOfText text places = wholeUnits number places := by
  obtain ⟨whole, fraction, parts, begun, digital, worth⟩ := spells.cut
  obtain ⟨wholeDigits, fractionDigits⟩ := List.forall_mem_append.mp digital
  have wellFormed : ((whole.isEmpty && fraction.isEmpty) || !whole.all Char.isDigit ||
      !fraction.all Char.isDigit) = false := by
    rw [List.all_eq_true.mpr wholeDigits, List.all_eq_true.mpr fractionDigits,
      List.isEmpty_eq_false_iff.mpr begun]
    rfl
  have units : digitsValue (whole ++ alignedFraction places fraction) = ⌊number * 10 ^ places⌋₊ := by
    rw [digitsValue_aligned whole fractionDigits, digitsValue, worth, div_mul_eq_mul_div]
    exact_mod_cast (Nat.floor_div_eq_div (K := ℚ) _ (10 ^ fraction.length)).symm
  unfold minorUnitsOfText wholeUnits
  rw [parts]
  simp only [wellFormed, Bool.false_eq_true, ↓reduceIte]
  exact units ▸ combine_eq wholeDigits fractionDigits places

/-- The minor units of an amount are its whole units, where they can be told: an amount below zero has none, and
there are at most thirty-eight places and 64 bits. -/
theorem minorUnits_eq (amount : Decimal) (places : Nat) :
    minorUnits amount places =
      if amount.value < 0 then .error .negative
      else if places ≤ 38 ∧ ⌊amount.value * 10 ^ places⌋₊ < 2 ^ 64 then .ok ⌊amount.value * 10 ^ places⌋₊
      else .error .tooLarge := by
  unfold minorUnits
  by_cases below : amount.isNegative = true
  · rw [if_pos below, if_pos ((Decimal.isNegative_iff amount).mp below)]
  · have positive : amount.normalize.negative = false := Bool.eq_false_iff.mpr below
    have spells := Decimal.spells_magnitudeText positive
    rw [Decimal.normalize_value] at spells
    rw [if_neg below, if_neg (mt (Decimal.isNegative_iff amount).mpr below)]
    exact minorUnitsOfText_spells spells places

theorem parse_text {d : Decimal} (positive : d.negative = false) : parse d.text = .ok d := by
  have unblank : ∀ c ∈ d.magnitudeText, isBlank c = false := by
    intro c member
    rcases Decimal.mem_magnitudeText member with digit | rfl
    · exact not_isBlank_of_isDigit digit
    · rfl
  have unsigned : d.isNegative = false := by rw [Decimal.isNegative, positive, Bool.false_and]
  have found := Decimal.read?_text positive
  rw [Decimal.toList_text positive] at found
  have full : d.magnitudeText.isEmpty = false := List.isEmpty_eq_false_iff.mpr d.magnitudeText_ne_nil
  unfold parse
  rw [Decimal.toList_text positive, trim_of_no_blank unblank]
  simp only [full, Bool.false_eq_true, ↓reduceIte, found, unsigned]

end PayBridge.Amount
