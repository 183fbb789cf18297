import PayBridge.Word

/-! What decimal digits are worth. -/
namespace PayBridge.Text

variable {digits fraction : List Char} {c : Char}

theorem digit_range (digit : c.isDigit = true) : 48 ≤ c.toNat ∧ c.toNat ≤ 57 := by
  simp only [Char.isDigit, Bool.and_eq_true, decide_eq_true_eq] at digit
  exact digit

theorem digitValue_lt (digit : c.isDigit = true) : digitValue c < 10 := by
  have range := digit_range digit
  show c.toNat - 48 < 10
  omega

theorem ofDigitChars_append_zero (whole fraction : List Char) :
    Nat.ofDigitChars 10 (whole ++ fraction) 0 =
      10 ^ fraction.length * Nat.ofDigitChars 10 whole 0 + Nat.ofDigitChars 10 fraction 0 := by
  rw [Nat.ofDigitChars_append, Nat.ofDigitChars_eq_ofDigitChars_zero]

theorem ofDigitChars_lt (digital : ∀ c ∈ digits, c.isDigit = true) :
    Nat.ofDigitChars 10 digits 0 < 10 ^ digits.length := by
  induction digits with
  | nil => decide
  | cons c digits ih =>
    have first : 10 * 0 + (c.toNat - '0'.toNat) < 10 := by
      rw [Nat.mul_zero, Nat.zero_add]
      exact digitValue_lt (digital c List.mem_cons_self)
    have rest := ih fun c member => digital c (List.mem_cons_of_mem _ member)
    rw [Nat.ofDigitChars_cons, Nat.ofDigitChars_eq_ofDigitChars_zero, List.length_cons, Nat.pow_succ]
    have scaled := Nat.mul_le_mul_left (10 ^ digits.length) (Nat.le_of_lt_succ first)
    omega

/-- Cutting off the last digits divides by their power of ten. -/
theorem ofDigitChars_whole (whole : List Char) (digital : ∀ c ∈ fraction, c.isDigit = true) :
    Nat.ofDigitChars 10 whole 0 = Nat.ofDigitChars 10 (whole ++ fraction) 0 / 10 ^ fraction.length := by
  have below := ofDigitChars_lt digital
  rw [ofDigitChars_append_zero, Nat.mul_add_div (Nat.pow_pos (by decide)), Nat.div_eq_of_lt below,
    Nat.add_zero]

theorem le_ofDigitChars (digits : List Char) (initial : Nat) : initial ≤ Nat.ofDigitChars 10 digits initial := by
  rw [Nat.ofDigitChars_eq_ofDigitChars_zero]
  exact Nat.le_trans (Nat.le_mul_of_pos_left initial (Nat.pow_pos (by decide))) (Nat.le_add_right ..)

theorem ofDigitChars_dropZeros (digits : List Char) :
    Nat.ofDigitChars 10 (digits.dropWhile (· == '0')) 0 = Nat.ofDigitChars 10 digits 0 := by
  induction digits with
  | nil => rfl
  | cons c digits ih =>
    rw [List.dropWhile_cons]
    split
    · rename_i zero
      obtain rfl := eq_of_beq zero
      exact ih
    · rfl

end PayBridge.Text
