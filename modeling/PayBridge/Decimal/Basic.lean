import PayBridge.Binary64.Basic

/-! Decimal amounts: a sign, a mantissa of 96 bits, and how many of its digits stand behind the point.
The scale is part of the value's text, so 2.50 and 2.5 are different decimals of one amount. -/
namespace PayBridge

/-- The number `±mantissa / 10 ^ scale`. -/
structure Decimal where
  negative : Bool
  mantissa : Nat
  scale : Nat
  mantissa_lt : mantissa < 2 ^ 96 := by omega
  scale_le : scale ≤ 28 := by omega
  deriving DecidableEq, Repr

namespace Decimal

def ofParts? (negative : Bool) (mantissa scale : Nat) : Option Decimal :=
  if h : mantissa < 2 ^ 96 ∧ scale ≤ 28 then some ⟨negative, mantissa, scale, h.1, h.2⟩ else none

def ofInt? (n : Int) : Option Decimal := ofParts? (n < 0) n.natAbs 0

/-- Below zero: a zero never is, whatever its sign. -/
def isNegative (d : Decimal) : Bool := d.negative && d.mantissa != 0

def strippedParts (mantissa : Nat) : Nat → Nat × Nat
  | 0 => (mantissa, 0)
  | scale + 1 => if mantissa % 10 = 0 then strippedParts (mantissa / 10) scale else (mantissa, scale + 1)

theorem strippedParts_fst_le (mantissa scale : Nat) : (strippedParts mantissa scale).1 ≤ mantissa := by
  induction scale generalizing mantissa with
  | zero => exact Nat.le_refl _
  | succ scale ih =>
    rw [strippedParts]
    split
    · exact Nat.le_trans (ih _) (Nat.div_le_self ..)
    · exact Nat.le_refl _

theorem strippedParts_snd_le (mantissa scale : Nat) : (strippedParts mantissa scale).2 ≤ scale := by
  induction scale generalizing mantissa with
  | zero => exact Nat.le_refl _
  | succ scale ih =>
    rw [strippedParts]
    split
    · exact Nat.le_trans (ih _) (Nat.le_succ _)
    · exact Nat.le_refl _

/-- The decimal of the same amount with no zero at the end of its fraction, and no sign on zero. -/
def normalize (d : Decimal) : Decimal where
  negative := d.isNegative
  mantissa := (strippedParts d.mantissa d.scale).1
  scale := (strippedParts d.mantissa d.scale).2
  mantissa_lt := Nat.lt_of_le_of_lt (strippedParts_fst_le ..) d.mantissa_lt
  scale_le := Nat.le_trans (strippedParts_snd_le ..) d.scale_le

def abs (d : Decimal) : Decimal := { d with negative := false }

def paddedDigits (mantissa scale : Nat) : List Char :=
  let digits := Nat.toDigits 10 mantissa
  List.replicate (scale + 1 - digits.length) '0' ++ digits

/-- The text of the magnitude: a digit at least before the point, `scale` digits behind it. -/
def magnitudeText (d : Decimal) : List Char :=
  let digits := paddedDigits d.mantissa d.scale
  if d.scale = 0 then digits
  else digits.take (digits.length - d.scale) ++ '.' :: digits.drop (digits.length - d.scale)

def text (d : Decimal) : String :=
  String.ofList (if d.negative then '-' :: d.magnitudeText else d.magnitudeText)

/-- The double that the wire format carries. A whole number goes to the nearest double. With a fraction
the whole part and the fraction are doubles of their own, and their sum is rounded back to `scale`
places, so the result can miss the nearest double by little. -/
def toBinary64 (d : Decimal) : Binary64 :=
  let magnitude :=
    if d.scale = 0 then Binary64.ofNat d.mantissa
    else
      let whole := Binary64.ofNat (d.mantissa / 10 ^ d.scale)
      let power := Binary64.tenTo d.scale
      let fraction := (Binary64.ofNat (d.mantissa % 10 ^ d.scale)).div power
      if fraction.isZero then whole else ((whole.add fraction).mul power).round.div power
  if d.negative then magnitude.neg else magnitude

end Decimal
end PayBridge
