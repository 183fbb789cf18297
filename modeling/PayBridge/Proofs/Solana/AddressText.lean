import Mathlib.Data.List.TakeWhile
import PayBridge.Proofs.Url.Rootless
import PayBridge.Solana.Address

/-! The text of an address is read back as that address. Its digits write the address's number, and it has as many
first digits in front as the address has zero bytes. -/
namespace PayBridge.Solana

open PayBridge.Text

namespace Base58

variable {base n width value : Nat} {values front : List Nat}

theorem mem_places_lt (positive : 0 < base) (member : value ∈ places base n width) : value < base := by
  induction width with
  | zero => cases member
  | succ width ih =>
    rcases List.mem_cons.mp member with rfl | last
    · exact Nat.mod_lt _ positive
    · exact ih last

/-- The last digits of a number write its rest behind whatever stands in front of them. -/
theorem foldl_places (base n width initial : Nat) :
    (places base n width).foldl (fun n value => n * base + value) initial =
      initial * base ^ width + n % base ^ width := by
  induction width generalizing initial with
  | zero => simp [places, Nat.mod_one]
  | succ width ih =>
    rw [places, List.foldl_cons, ih, Nat.mod_pow_succ, Nat.add_mul, Nat.mul_assoc, ← Nat.pow_succ',
      Nat.mul_comm (n / base ^ width % base), Nat.add_assoc, Nat.add_comm (n % base ^ width)]

theorem ofPlaces_places (base n width : Nat) : ofPlaces base (places base n width) = n % base ^ width := by
  rw [ofPlaces, foldl_places, Nat.zero_mul, Nat.zero_add]

theorem ofPlaces_append (zeros : ∀ value ∈ front, value = 0) (values : List Nat) :
    ofPlaces base (front ++ values) = ofPlaces base values := by
  induction front with
  | nil => rfl
  | cons value front ih =>
    obtain ⟨rfl, others⟩ := List.forall_mem_cons.mp zeros
    rw [← ih others, ofPlaces, List.cons_append, List.foldl_cons, Nat.zero_mul]
    rfl

theorem ofPlaces_dropWhile (base : Nat) (values : List Nat) :
    ofPlaces base (values.dropWhile (· == 0)) = ofPlaces base values := by
  have zeros : ∀ value ∈ values.takeWhile (· == 0), value = 0 := fun _ member =>
    eq_of_beq (@List.mem_takeWhile_imp _ (· == 0) _ _ member)
  rw [← ofPlaces_append zeros, List.takeWhile_append_dropWhile]

/-- Digits differ in their values; the first one is worth zero. -/
theorem digit_spec (small : value < 58) : value? (digit value) = some value ∧
    (digit value == '1') = (value == 0) := by
  have all : ∀ value < 58, value? (digit value) = some value ∧ (digit value == '1') = (value == 0) := by
    decide +kernel
  exact all value small

theorem read?_map_digit (small : ∀ value ∈ values, value < 58) :
    read? (values.map digit) = some (ofPlaces 58 values) := by
  have worth : (values.map digit).mapM value? = some values := by
    induction values with
    | nil => rfl
    | cons value values ih =>
      obtain ⟨first, others⟩ := List.forall_mem_cons.mp small
      rw [List.map_cons, List.mapM_cons, (digit_spec first).1, ih others]
      rfl
  rw [read?, worth, Option.map_some]

/-- The first digits in front of digits are the zeros in front of their values. -/
theorem takeWhile_map_digit (small : ∀ value ∈ values, value < 58) :
    ((values.map digit).takeWhile (· == '1')).length = (values.takeWhile (· == 0)).length := by
  induction values with
  | nil => rfl
  | cons value values ih =>
    obtain ⟨first, others⟩ := List.forall_mem_cons.mp small
    have same := (digit_spec first).2
    simp only [List.map_cons, List.takeWhile_cons, same]
    cases value == 0 with
    | false => rfl
    | true => exact congrArg Nat.succ (ih others)

theorem digit_isAlphanumeric (value : Nat) : isAlphanumeric (digit value) = true := by
  have letters : ∀ c ∈ alphabet, isAlphanumeric c = true := List.all_eq_true.mp rfl
  rw [digit, List.getD_eq_getElem?_getD]
  cases found : alphabet[value]? with
  | none => rfl
  | some c => exact letters c (List.mem_of_getElem? found)

end Base58

namespace Address

def textPlaces (address : Address) : List Nat :=
  List.replicate (zeros address.number) 0 ++ (Base58.places 58 address.number textWidth).dropWhile (· == 0)

theorem text_eq (address : Address) : address.text.toList = address.textPlaces.map Base58.digit := by
  rw [text, String.toList_ofList, textPlaces, List.map_append, List.map_replicate]
  rfl

theorem text_isAlphanumeric (address : Address) : ∀ c ∈ address.text.toList, isAlphanumeric c = true := by
  intro c member
  rw [text_eq] at member
  obtain ⟨value, -, rfl⟩ := List.mem_map.mp member
  exact Base58.digit_isAlphanumeric value

theorem mem_textPlaces_lt (address : Address) : ∀ value ∈ address.textPlaces, value < 58 := by
  intro value member
  rcases List.mem_append.mp member with zero | place
  · rw [List.eq_of_mem_replicate zero]
    decide
  · exact Base58.mem_places_lt (by decide) ((List.dropWhile_sublist _).mem place)

/-- The digits of a text write the address's number: no 32 bytes need more of them. -/
theorem ofPlaces_textPlaces (address : Address) : Base58.ofPlaces 58 address.textPlaces = address.number := by
  have enough : 256 ^ 32 ≤ 58 ^ textWidth := by decide +kernel
  rw [textPlaces, Base58.ofPlaces_append fun _ => List.eq_of_mem_replicate, Base58.ofPlaces_dropWhile,
    Base58.ofPlaces_places, Nat.mod_eq_of_lt (Nat.lt_of_lt_of_le address.number_lt enough)]

theorem zeros_textPlaces (address : Address) :
    (address.textPlaces.takeWhile (· == 0)).length = zeros address.number := by
  have stops : ((Base58.places 58 address.number textWidth).dropWhile (· == 0)).takeWhile (· == 0) = [] :=
    List.takeWhile_eq_nil_iff.mpr (List.dropWhile_get_zero_not _ _)
  rw [textPlaces, List.takeWhile_append_of_pos (fun value zero => by simp [List.eq_of_mem_replicate zero]), stops,
    List.append_nil, List.length_replicate]

theorem ofDigits?_text (address : Address) : ofDigits? address.text.toList = some address := by
  have small := address.mem_textPlaces_lt
  have number : ofNumber? address.number = some address := dif_pos address.number_lt
  rw [text_eq, ofDigits?, Base58.read?_map_digit small, ofPlaces_textPlaces]
  simp only [Option.bind_eq_bind, Option.bind_some, number, Base58.takeWhile_map_digit small, zeros_textPlaces,
    ↓reduceIte]

theorem read_text (address : Address) : read address.text = .ok address := by
  have unblank : ∀ c ∈ address.text.toList, isBlank c = false := fun c member =>
    (Url.isVisible_of_isAlphanumeric (address.text_isAlphanumeric c member)).not_isBlank
  rw [read, read?, trim_of_no_blank unblank, ofDigits?_text]

end Address
end PayBridge.Solana
