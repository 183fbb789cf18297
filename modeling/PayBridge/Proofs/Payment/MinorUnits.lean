import PayBridge.Proofs.Binary64.PlainText
import PayBridge.Proofs.Payment.Amount

/-! Minor units are exact: they are the whole units of the number that an amount shows. A decimal shows its own
number, and a double the shortest decimal that reads back as the double. -/
namespace PayBridge.Amount

open PayBridge.Binary64

theorem wholeUnits_ne_malformed (number : ℚ) (places : Nat) (text : String) :
    wholeUnits number places ≠ .error (.malformed text) := by
  unfold wholeUnits
  split <;> nofun

theorem minorUnitsOfBinary64_eq (amount : Binary64) (places : Int) :
    minorUnitsOfBinary64 amount places =
      if amount.isFinite = false then .error .notFinite
      else if places < 0 then .error (.negativePlaces places)
      else if amount.value < 0 then .error .negative
      else wholeUnits (amount.shortest .larger).value places.toNat := by
  simp only [minorUnitsOfBinary64, value_neg_iff, Bool.not_eq_true']
  rw [plain, minorUnitsOfText_spells (amount.shortest .larger).spells_plain]

/-- An amount that is not below zero is converted to the whole units of its number, or is too large, and a decimal is
never malformed. The number of a double is that of its text, which is plain, reads as the double again and is as short
as such texts are. -/
theorem minor_units_are_exact :
    (∀ (amount : Decimal) (places : Nat),
      minorUnits amount places =
        if amount.value < 0 then .error .negative else wholeUnits amount.value places) ∧
    (∀ (amount : Decimal) (places : Nat) (text : String), minorUnits amount places ≠ .error (.malformed text)) ∧
    (∀ (amount : Binary64) (places : Int),
      minorUnitsOfBinary64 amount places =
        if amount.isFinite = false then .error .notFinite
        else if places < 0 then .error (.negativePlaces places)
        else if amount.value < 0 then .error .negative
        else wholeUnits (amount.shortest .larger).value places.toNat) ∧
    ∀ amount : Binary64, amount.isFinite = true →
      IsShortest amount (amount.shortest .larger) ∧
      Spells amount.plain (amount.shortest .larger).value ∧
      readMagnitude? amount.plain = some amount.abs := by
  refine ⟨minorUnits_eq, ?_, minorUnitsOfBinary64_eq, ?_⟩
  · intro amount places text
    rw [minorUnits_eq]
    split
    · nofun
    · exact wholeUnits_ne_malformed amount.value places text
  · intro amount finite
    exact ⟨shortest_isShortest .larger finite, (amount.shortest .larger).spells_plain, readMagnitude?_plain finite⟩

/-- The double nearest to a tenth is no tenth, but it is written as one and converted as one. -/
theorem tenth_is_converted_as_written :
    let tenth : Binary64 := ⟨false, 0x3FB999999999999A⟩
    tenth.isFinite = true ∧ tenth.value ≠ 1 / 10 ∧ tenth.plain = ['0', '.', '1'] ∧
      readMagnitude? ['0', '.', '1'] = some tenth ∧ IsShortest tenth ⟨1, -1⟩ ∧
      minorUnitsOfBinary64 tenth 9 = .ok 100000000 := by
  intro tenth
  obtain ⟨_, _, converts, written⟩ := minor_units_are_exact
  have finite : tenth.isFinite = true := by decide
  obtain ⟨shortest, _, reads⟩ := written tenth finite
  have digits : tenth.shortest .larger = ⟨1, -1⟩ := by decide +kernel
  have text : tenth.plain = ['0', '.', '1'] := by
    rw [plain, digits]
    decide
  rw [digits] at shortest
  rw [text] at reads
  refine ⟨finite, by decide +kernel, text, reads, shortest, ?_⟩
  rw [converts, digits]
  decide +kernel

end PayBridge.Amount
