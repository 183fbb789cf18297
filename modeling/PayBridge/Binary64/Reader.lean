import PayBridge.Binary64.Basic
import PayBridge.Text.Ascii
import PayBridge.Text.Pieces

/-! Doubles from decimal text. The number a text writes is rounded once, so the double is the nearest. -/
namespace PayBridge.Binary64

open PayBridge.Text

def infinity : Binary64 := ⟨false, ⟨infinityCode, by decide⟩⟩

def notANumber : Binary64 := ⟨false, ⟨infinityCode + 2 ^ 51, by decide⟩⟩

/-- The double nearest to `digits * 10 ^ exponent`. Powers that no double reaches are not computed. -/
def ofDecimal (digits : Nat) (exponent : Int) : Binary64 :=
  let places := (decimal digits).length + exponent
  if digits = 0 then zero
  else if 310 < places then infinity
  else if places < -330 then zero
  else ofRatio (digits * 10 ^ exponent.toNat) (10 ^ (-exponent).toNat)

def readPower? : List Char → Option Int
  | '-' :: digits => (numeral? 10 digits).map fun n => -(n : Int)
  | '+' :: digits => (numeral? 10 digits).map fun n => (n : Int)
  | digits => (numeral? 10 digits).map fun n => (n : Int)

/-- Digits with at most one point among them and an exponent after them. -/
def readMagnitude? (s : List Char) : Option Binary64 := do
  let (mantissa, power) := upTo (fun c => c == 'e' || c == 'E') s
  let power ← match power with
    | [] => some 0
    | _ :: rest => readPower? rest
  let (whole, fraction) := (cutAt? '.' mantissa).getD (mantissa, [])
  let digits ← numeral? 10 (whole ++ fraction)
  some (ofDecimal digits (power - fraction.length))

end PayBridge.Binary64
