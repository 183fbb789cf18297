import PayBridge.Decimal.Reader
import PayBridge.Proofs.Text.Digits
import PayBridge.Text.Blank

/-! The text of a decimal: digits worth its mantissa, with a point before the last `scale` of them. Reading the
text gives the decimal back, and cutting it gives whole part and fraction. -/
namespace PayBridge

open PayBridge.Text

theorem Text.not_isBlank_of_isDigit {c : Char} (digit : c.isDigit = true) : isBlank c = false := by
  have range := digit_range digit
  simp only [isBlank, Bool.or_eq_false_iff, Bool.and_eq_false_imp, decide_eq_true_eq, decide_eq_false_iff_not,
    beq_eq_false_iff_ne]
  omega

namespace Decimal

theorem mem_paddedDigits {mantissa scale : Nat} {c : Char} (member : c ∈ paddedDigits mantissa scale) :
    c.isDigit = true := by
  rcases List.mem_append.mp member with pad | digit
  · obtain rfl := List.eq_of_mem_replicate pad
    rfl
  · exact Nat.isDigit_of_mem_toDigits (by decide) (by decide) digit

theorem ofDigitChars_paddedDigits (mantissa scale : Nat) :
    Nat.ofDigitChars 10 (paddedDigits mantissa scale) 0 = mantissa := by
  simp only [paddedDigits, Nat.ofDigitChars_append, Nat.ofDigitChars_replicate_zero, Nat.mul_zero,
    Nat.ofDigitChars_ten_toDigits]

theorem scale_lt_length_paddedDigits (mantissa scale : Nat) : scale < (paddedDigits mantissa scale).length := by
  simp only [paddedDigits, List.length_append, List.length_replicate]
  omega

/-- Digits that are worth a mantissa, some of them in front and `scale` of them behind the point. -/
structure IsCut (mantissa scale : Nat) (whole fraction : List Char) : Prop where
  digital : ∀ c ∈ whole ++ fraction, c.isDigit = true
  begun : whole ≠ []
  places : fraction.length = scale
  worth : Nat.ofDigitChars 10 (whole ++ fraction) 0 = mantissa

theorem paddedDigits_isCut (mantissa scale : Nat) :
    IsCut mantissa scale
      ((paddedDigits mantissa scale).take ((paddedDigits mantissa scale).length - scale))
      ((paddedDigits mantissa scale).drop ((paddedDigits mantissa scale).length - scale)) := by
  have longer := scale_lt_length_paddedDigits mantissa scale
  generalize digitsEq : paddedDigits mantissa scale = digits at longer
  have joined := List.take_append_drop (digits.length - scale) digits
  constructor
  · rw [joined, ← digitsEq]
    exact fun _ => mem_paddedDigits
  · apply List.ne_nil_of_length_pos
    rw [List.length_take]
    omega
  · rw [List.length_drop]
    omega
  · rw [joined, ← digitsEq]
    exact ofDigitChars_paddedDigits ..

structure Cut (d : Decimal) (whole fraction : List Char) : Prop extends IsCut d.mantissa d.scale whole fraction where
  text : d.magnitudeText = if d.scale = 0 then whole else whole ++ '.' :: fraction

theorem exists_cut (d : Decimal) : ∃ whole fraction, Cut d whole fraction := by
  refine ⟨_, _, paddedDigits_isCut d.mantissa d.scale, ?_⟩
  rw [magnitudeText]
  by_cases unscaled : d.scale = 0
  · simp only [unscaled, ↓reduceIte, Nat.sub_zero, List.take_length]
  · simp only [unscaled, ↓reduceIte]

theorem mem_magnitudeText {d : Decimal} {c : Char} (member : c ∈ d.magnitudeText) :
    c.isDigit = true ∨ c = '.' := by
  obtain ⟨whole, fraction, cut⟩ := d.exists_cut
  rw [cut.text] at member
  split at member
  · exact .inl (cut.digital c (List.mem_append_left _ member))
  · rcases List.mem_append.mp member with before | behind
    · exact .inl (cut.digital c (List.mem_append_left _ before))
    · rcases List.mem_cons.mp behind with point | digit
      · exact .inr point
      · exact .inl (cut.digital c (List.mem_append_right _ digit))

theorem toList_text {d : Decimal} (positive : d.negative = false) : d.text.toList = d.magnitudeText := by
  simp only [text, positive, Bool.false_eq_true, ↓reduceIte, String.toList_ofList]

theorem magnitudeText_ne_nil (d : Decimal) : d.magnitudeText ≠ [] := by
  obtain ⟨whole, fraction, cut⟩ := d.exists_cut
  rw [cut.text]
  split
  · exact cut.begun
  · exact List.append_ne_nil_of_right_ne_nil _ (List.cons_ne_nil _ _)

theorem scan_digit (behind begun : Bool) {scale mantissa : Nat} {c : Char} (digit : c.isDigit = true)
    (fits : Nat.ofDigitChars 10 [c] mantissa < 2 ^ 96) (room : behind = true → scale < 28) (rest : List Char) :
    scan behind begun mantissa scale (c :: rest) =
      scan behind true (Nat.ofDigitChars 10 [c] mantissa) (if behind = true then scale + 1 else scale) rest := by
  have value : mantissa * 10 + digitValue c = Nat.ofDigitChars 10 [c] mantissa := by
    rw [Nat.ofDigitChars_cons, Nat.ofDigitChars_nil, Nat.mul_comm]
    rfl
  have open28 : (behind && decide (28 ≤ scale)) = false := by
    simpa only [Bool.and_eq_false_imp, decide_eq_false_iff_not, Nat.not_le] using room
  rw [scan, if_pos digit]
  simp only [open28, Bool.false_eq_true, ↓reduceIte, value, fits]

/-- Digits are read one by one as long as the mantissa holds them. -/
theorem scan_digits (behind begun : Bool) {scale mantissa : Nat} {c : Char} {digits : List Char}
    (digital : ∀ d ∈ c :: digits, d.isDigit = true)
    (fits : Nat.ofDigitChars 10 (c :: digits) mantissa < 2 ^ 96)
    (room : behind = true → scale + (c :: digits).length ≤ 28) (rest : List Char) :
    scan behind begun mantissa scale (c :: digits ++ rest) =
      scan behind true (Nat.ofDigitChars 10 (c :: digits) mantissa)
        (if behind = true then scale + (c :: digits).length else scale) rest := by
  induction digits generalizing c begun mantissa scale with
  | nil => exact scan_digit behind begun (digital c List.mem_cons_self) fits room rest
  | cons next digits ih =>
    have split : Nat.ofDigitChars 10 (c :: next :: digits) mantissa =
        Nat.ofDigitChars 10 (next :: digits) (Nat.ofDigitChars 10 [c] mantissa) :=
      Nat.ofDigitChars_append (l := [c]) mantissa
    rw [split] at fits ⊢
    have fitsHere := Nat.lt_of_le_of_lt (le_ofDigitChars (next :: digits) _) fits
    have roomHere : behind = true → scale < 28 := by
      intro isBehind
      have := room isBehind
      simp only [List.length_cons] at this
      omega
    have roomThere : behind = true →
        (if behind = true then scale + 1 else scale) + (next :: digits).length ≤ 28 := by
      intro isBehind
      have := room isBehind
      simp only [List.length_cons, isBehind, ↓reduceIte] at this ⊢
      omega
    rw [List.cons_append, scan_digit behind begun (digital c List.mem_cons_self) fitsHere roomHere,
      ih true (fun d member => digital d (List.mem_cons_of_mem _ member)) fits roomThere]
    congr 1
    cases behind with
    | false => rfl
    | true => simp only [↓reduceIte, List.length_cons, Nat.add_assoc, Nat.add_comm 1]

theorem splitSign_digit {c : Char} {rest : List Char} (digit : c.isDigit = true) :
    splitSign (c :: rest) = (false, c :: rest) := by
  have unsigned : c ≠ '-' ∧ c ≠ '+' := by
    constructor <;> rintro rfl <;> exact absurd digit (by decide)
  unfold splitSign
  split
  · rename_i first
    exact absurd (List.cons.inj first).1 unsigned.1
  · rename_i first
    exact absurd (List.cons.inj first).1 unsigned.2
  · rfl

theorem scan_cut {d : Decimal} {whole fraction : List Char} (cut : Cut d whole fraction) :
    scan false false 0 0 d.magnitudeText = some (d.mantissa, d.scale) := by
  obtain ⟨c, digits, rfl⟩ := List.exists_cons_of_ne_nil cut.begun
  have digital := List.forall_mem_append.mp cut.digital
  have worth := cut.worth
  rw [Nat.ofDigitChars_append] at worth
  have holds : Nat.ofDigitChars 10 (c :: digits) 0 < 2 ^ 96 :=
    Nat.lt_of_le_of_lt (le_ofDigitChars fraction _) (worth ▸ d.mantissa_lt)
  have begins (rest : List Char) : scan false false 0 0 (c :: digits ++ rest) =
      scan false true (Nat.ofDigitChars 10 (c :: digits) 0) 0 rest :=
    scan_digits false false digital.1 holds (fun behind => nomatch behind) rest
  rw [cut.text]
  by_cases unscaled : d.scale = 0
  · have none : fraction = [] := List.eq_nil_of_length_eq_zero (cut.places.trans unscaled)
    have whole := begins []
    rw [List.append_nil] at whole
    rw [if_pos unscaled, whole, unscaled, ← worth, none]
    rfl
  · rw [if_neg unscaled, begins]
    obtain ⟨first, others, rfl⟩ := List.exists_cons_of_length_pos
      (cut.places.symm ▸ Nat.pos_of_ne_zero unscaled)
    have places := cut.places
    have room : (0 : Nat) + (first :: others).length ≤ 28 := by
      have := d.scale_le
      omega
    have rest := scan_digits true true digital.2 (worth ▸ d.mantissa_lt) (fun _ => room) []
    rw [List.append_nil, worth] at rest
    have point : scan false true (Nat.ofDigitChars 10 (c :: digits) 0) 0 ('.' :: first :: others) =
        scan true true (Nat.ofDigitChars 10 (c :: digits) 0) 0 (first :: others) := rfl
    rw [point, rest]
    simp only [scan, ↓reduceIte, Nat.zero_add, places]

/-- A decimal that is not negative is read from its own text. -/
theorem read?_text {d : Decimal} (positive : d.negative = false) : read? d.text.toList = some d := by
  obtain ⟨whole, fraction, cut⟩ := d.exists_cut
  obtain ⟨c, digits, rfl⟩ := List.exists_cons_of_ne_nil cut.begun
  have unsigned : splitSign d.magnitudeText = (false, d.magnitudeText) := by
    have digit := (List.forall_mem_append.mp cut.digital).1 c List.mem_cons_self
    rw [cut.text]
    split <;> exact splitSign_digit digit
  have whole : ofParts? false d.mantissa d.scale = some d := by
    rw [ofParts?, dif_pos ⟨d.mantissa_lt, d.scale_le⟩, ← positive]
  have plain : readPlain? d.magnitudeText = some d := by
    simp only [readPlain?, unsigned, scan_cut cut, Bool.false_and]
    exact whole
  rw [toList_text positive, read?, plain]
  rfl

end Decimal
end PayBridge
