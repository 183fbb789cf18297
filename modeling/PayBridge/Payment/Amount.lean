import PayBridge.Binary64.Shortest
import PayBridge.Decimal.Reader
import PayBridge.Text.Blank
import PayBridge.Word

/-! Amounts of money in minor units. An amount is never multiplied as a double: its decimal text is cut at
the point, the fraction is cut or filled up to the currency's places, and the digits on both sides are put
together as integers. All of this is done in words of 128 bits, and the result has to fit 64. -/
namespace PayBridge

inductive Amount.Error where
  | notFinite
  | negative
  | negativePlaces (places : Int)
  | malformed (text : String)
  | tooLarge
  deriving DecidableEq, Repr

def Amount.Error.message : Amount.Error → String
  | .notFinite => "amount is not a finite number"
  | .negative => "amount must not be negative"
  | .negativePlaces places => "decimals must not be negative, got " ++ toString places
  | .malformed text => "invalid number format: " ++ text
  | .tooLarge => "amount is too large"

namespace Amount

open PayBridge.Text

/-- Reads what a user typed: decimal text between blanks, not below zero. -/
def parse (input : String) : Except Amount.Error Decimal :=
  let text := trim input.toList
  if text.isEmpty then .error (.malformed input)
  else match Decimal.read? text with
    | none => .error (.malformed input)
    | some amount => if amount.isNegative then .error .negative else .ok amount

/-- The fraction's digits for a number of places: cut, or filled up with zeros. -/
def alignedFraction (places : Nat) (fraction : List Char) : List Char :=
  let kept := fraction.take places
  kept ++ List.replicate (places - kept.length) '0'

def digitsValue (digits : List Char) : Nat := Nat.ofDigitChars 10 digits 0

/-- A step that went well, or an amount that is too large for it. -/
def fitting {w : Nat} (word : Option (BitVec w)) : Except Amount.Error (BitVec w) := word.elim (.error .tooLarge) .ok

/-- The number that digits write. Zeros in front are skipped, and nothing else is zero. -/
def readDigits (digits : List Char) : Except Amount.Error (BitVec 128) :=
  let digits := digits.dropWhile (· == '0')
  if digits.isEmpty then .ok 0 else fitting (Word.ofDigits? 128 digits)

/-- Whole part and fraction in units of so many places. -/
def combine (whole fraction : List Char) (places : Nat) : Except Amount.Error Nat := do
  let whole ← readDigits whole
  let fraction ← readDigits (alignedFraction places fraction)
  let power ← fitting (Word.checkedPow 10 places)
  let units ← fitting ((Word.checkedMul whole power).bind fun product => Word.checkedAdd product fraction)
  let units ← fitting (Word.narrow? 64 units)
  return units.toNat

/-- The minor units of a plain decimal text. -/
def minorUnitsOfText (text : List Char) (places : Nat) : Except Amount.Error Nat :=
  let (whole, fraction) := (cutAt? '.' text).getD (text, [])
  if (whole.isEmpty && fraction.isEmpty) || !whole.all Char.isDigit || !fraction.all Char.isDigit then
    .error (.malformed (String.ofList text))
  else combine whole fraction places

def minorUnits (amount : Decimal) (places : Nat) : Except Amount.Error Nat :=
  if amount.isNegative then .error .negative
  else minorUnitsOfText amount.normalize.magnitudeText places

/-- The minor units of a double: those of its shortest decimal. A negative zero is zero. -/
def minorUnitsOfBinary64 (amount : Binary64) (places : Int) : Except Amount.Error Nat :=
  if !amount.isFinite then .error .notFinite
  else if places < 0 then .error (.negativePlaces places)
  else if amount.negative && !amount.isZero then .error .negative
  else minorUnitsOfText amount.plain places.toNat

end Amount
end PayBridge
