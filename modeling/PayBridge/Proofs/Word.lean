import PayBridge.Proofs.Text.Digits
import PayBridge.Word

/-! Checked arithmetic on words is arithmetic on numbers, as far as the numbers fit. What only grows need not be looked
at in between: a result that fits has no part that does not. -/
namespace PayBridge.Word

open PayBridge.Text

variable {w n m : Nat}

theorem ofNat?_of_lt (fits : n < 2 ^ w) : ofNat? w n = some (BitVec.ofNat w n) := if_pos fits

theorem ofNat?_of_le (large : 2 ^ w ≤ n) : ofNat? w n = none := if_neg (Nat.not_lt.mpr large)

theorem toNat_of_lt (fits : n < 2 ^ w) : (BitVec.ofNat w n).toNat = n := by
  rw [BitVec.toNat_ofNat, Nat.mod_eq_of_lt fits]

theorem ofNat?_toNat (word : BitVec w) : ofNat? w word.toNat = some word := by
  rw [ofNat?_of_lt word.isLt, BitVec.ofNat_toNat, BitVec.setWidth_eq]

/-- A word that is given up where it overflows is the word of its number, if that fits. -/
theorem unless_overflows {flag : Bool} {word : BitVec w} (overflows : flag = true ↔ 2 ^ w ≤ n)
    (result : word = BitVec.ofNat w n) : (if flag then none else some word) = ofNat? w n := by
  rw [result]
  by_cases fits : n < 2 ^ w
  · rw [ofNat?_of_lt fits, if_neg (mt overflows.mp (Nat.not_le.mpr fits))]
  · have large := Nat.le_of_not_lt fits
    rw [ofNat?_of_le large, if_pos (overflows.mpr large)]

theorem checkedAdd_eq (a b : BitVec w) : checkedAdd a b = ofNat? w (a.toNat + b.toNat) := by
  apply unless_overflows decide_eq_true_iff
  rw [BitVec.ofNat_add, BitVec.ofNat_toNat, BitVec.ofNat_toNat, BitVec.setWidth_eq, BitVec.setWidth_eq]

theorem checkedMul_eq (a b : BitVec w) : checkedMul a b = ofNat? w (a.toNat * b.toNat) := by
  apply unless_overflows decide_eq_true_iff
  rw [BitVec.ofNat_mul, BitVec.ofNat_toNat, BitVec.ofNat_toNat, BitVec.setWidth_eq, BitVec.setWidth_eq]

/-- A number that grows on from one that does not fit does not fit. -/
theorem ofNat?_bind {next : BitVec w → Option (BitVec w)} (least : n ≤ m)
    (step : n < 2 ^ w → next (BitVec.ofNat w n) = ofNat? w m) : (ofNat? w n).bind next = ofNat? w m := by
  by_cases fits : n < 2 ^ w
  · rw [ofNat?_of_lt fits]
    exact step fits
  · have large := Nat.le_of_not_lt fits
    rw [ofNat?_of_le large, ofNat?_of_le (Nat.le_trans large least)]
    rfl

theorem mulPow_eq (base word : BitVec w) (exponent : Nat) :
    mulPow base exponent word = ofNat? w (word.toNat * base.toNat ^ exponent) := by
  induction exponent generalizing word with
  | zero =>
    rw [Nat.pow_zero, Nat.mul_one]
    exact (ofNat?_toNat word).symm
  | succ exponent ih =>
    have least : base.toNat ≤ base.toNat ^ (exponent + 1) := Nat.le_self_pow (Nat.succ_ne_zero exponent) _
    rw [mulPow, checkedMul_eq]
    apply ofNat?_bind (Nat.mul_le_mul_left _ least)
    intro fits
    rw [ih, toNat_of_lt fits, Nat.mul_assoc, Nat.pow_succ']

theorem checkedPow_eq (base : BitVec w) (wide : 0 < w) (exponent : Nat) :
    checkedPow base exponent = ofNat? w (base.toNat ^ exponent) := by
  have one : (1 : BitVec w).toNat = 1 := toNat_of_lt (Nat.one_lt_two_pow (Nat.ne_of_gt wide))
  rw [checkedPow, mulPow_eq, one, Nat.one_mul]

section Digits
variable {digits : List Char} {c : Char}

theorem ten_lt (wide : 4 ≤ w) : 10 < 2 ^ w :=
  Nat.lt_of_lt_of_le (by decide : 10 < 2 ^ 4) (Nat.pow_le_pow_right (by decide) wide)

theorem ten_toNat (wide : 4 ≤ w) : (10 : BitVec w).toNat = 10 := toNat_of_lt (ten_lt wide)

theorem appendDigit_eq (wide : 4 ≤ w) (digit : c.isDigit = true) (word : BitVec w) :
    appendDigit word c = ofNat? w (10 * word.toNat + digitValue c) := by
  have small : digitValue c < 2 ^ w := Nat.lt_trans (digitValue_lt digit) (ten_lt wide)
  rw [appendDigit, checkedMul_eq, ten_toNat wide, Nat.mul_comm]
  apply ofNat?_bind (Nat.le_add_right ..)
  intro fits
  rw [checkedAdd_eq, toNat_of_lt fits, toNat_of_lt small]

theorem foldlM_appendDigit (wide : 4 ≤ w) (digital : ∀ c ∈ digits, c.isDigit = true) (word : BitVec w) :
    digits.foldlM appendDigit word = ofNat? w (Nat.ofDigitChars 10 digits word.toNat) := by
  induction digits generalizing word with
  | nil => exact (ofNat?_toNat word).symm
  | cons c digits ih =>
    obtain ⟨digit, later⟩ := List.forall_mem_cons.mp digital
    rw [List.foldlM_cons, appendDigit_eq wide digit, Nat.ofDigitChars_cons]
    apply ofNat?_bind (le_ofDigitChars digits _)
    intro fits
    rw [ih later, toNat_of_lt fits]

theorem ofDigits?_eq (wide : 4 ≤ w) (digital : ∀ c ∈ digits, c.isDigit = true) :
    ofDigits? w digits = ofNat? w (Nat.ofDigitChars 10 digits 0) := by
  have zero : (0 : BitVec w).toNat = 0 := BitVec.toNat_zero
  rw [ofDigits?, foldlM_appendDigit wide digital, zero]

end Digits

end PayBridge.Word
