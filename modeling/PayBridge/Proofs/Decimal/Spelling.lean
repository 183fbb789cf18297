import PayBridge.Proofs.Decimal.Text
import PayBridge.Proofs.Decimal.Value

/-! Plain decimal text: digits and at most a point, never an exponent. The text of a decimal is plain and spells its
number. -/
namespace PayBridge

open PayBridge.Text

inductive Spells : List Char → ℚ → Prop where
  | whole {digits : List Char} : digits ≠ [] → (∀ c ∈ digits, c.isDigit = true) →
    Spells digits (Nat.ofDigitChars 10 digits 0)
  | point {whole fraction : List Char} : whole ≠ [] → (∀ c ∈ whole ++ fraction, c.isDigit = true) →
    Spells (whole ++ '.' :: fraction) (Nat.ofDigitChars 10 (whole ++ fraction) 0 / 10 ^ fraction.length)

variable {text digits : List Char} {number : ℚ}

theorem Text.point_not_mem (digital : ∀ c ∈ digits, c.isDigit = true) : '.' ∉ digits := by
  intro member
  exact absurd (digital '.' member) (by decide)

namespace Spells

theorem cut (spells : Spells text number) : ∃ whole fraction,
    (cutAt? '.' text).getD (text, []) = (whole, fraction) ∧ whole ≠ [] ∧ (∀ c ∈ whole ++ fraction, c.isDigit = true) ∧
      number = Nat.ofDigitChars 10 (whole ++ fraction) 0 / 10 ^ fraction.length := by
  cases spells with
  | @whole digits begun digital =>
    refine ⟨text, [], ?_, begun, ?_, ?_⟩
    · rw [cutAt?_none (point_not_mem digital), Option.getD_none]
    · rwa [List.append_nil]
    · rw [List.append_nil, List.length_nil, pow_zero, div_one]
  | @point whole fraction begun digital =>
    have front := (List.forall_mem_append.mp digital).1
    refine ⟨whole, fraction, ?_, begun, digital, rfl⟩
    rw [cutAt?_append (point_not_mem front), Option.getD_some]

theorem mem (spells : Spells text number) {c : Char} (member : c ∈ text) : c.isDigit = true ∨ c = '.' := by
  cases spells with
  | whole _ digital => exact .inl (digital c member)
  | point _ digital =>
    rcases List.mem_append.mp member with before | behind
    · exact .inl (digital c (List.mem_append_left _ before))
    · rcases List.mem_cons.mp behind with point | digit
      · exact .inr point
      · exact .inl (digital c (List.mem_append_right _ digit))

end Spells

theorem Decimal.IsCut.spells {mantissa scale : Nat} {whole fraction : List Char}
    (cut : Decimal.IsCut mantissa scale whole fraction) :
    Spells (whole ++ '.' :: fraction) (mantissa / 10 ^ scale) := by
  rw [← cut.worth, ← cut.places]
  exact .point cut.begun cut.digital

theorem Decimal.spells_magnitudeText {d : Decimal} (positive : d.negative = false) :
    Spells d.magnitudeText d.value := by
  obtain ⟨whole, fraction, cut⟩ := d.exists_cut
  rw [cut.text, value_of_positive positive]
  by_cases unscaled : d.scale = 0
  · have none : fraction = [] := List.eq_nil_of_length_eq_zero (cut.places.trans unscaled)
    have worth := cut.worth
    have digital := cut.digital
    rw [none, List.append_nil] at worth digital
    rw [if_pos unscaled, unscaled, pow_zero, div_one, ← worth]
    exact .whole cut.begun digital
  · rw [if_neg unscaled]
    exact cut.spells

end PayBridge
