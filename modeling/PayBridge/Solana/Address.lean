import PayBridge.Solana.Base58
import PayBridge.Solana.Curve
import PayBridge.Text.Blank

/-! Addresses: 32 bytes, written to base 58. Zero bytes in front are written one by one, so each address
has one text. -/
namespace PayBridge.Solana

/-- An address, as the number that its bytes write with the highest first. -/
structure Address where
  number : Nat
  number_lt : number < 256 ^ 32
  deriving DecidableEq, Repr

structure InvalidAddress where
  text : String
  deriving DecidableEq, Repr

def InvalidAddress.message (e : InvalidAddress) : String := "invalid Solana address: " ++ e.text

namespace Address

def places (n : Nat) : List Nat := Base58.places 256 n 32

def zeros (n : Nat) : Nat := ((places n).takeWhile (· == 0)).length

def ofNumber? (n : Nat) : Option Address := if h : n < 256 ^ 32 then some ⟨n, h⟩ else none

def bytes (address : Address) : List UInt8 := (places address.number).map UInt8.ofNat

/-- Forty-four digits hold 32 bytes. -/
def textWidth : Nat := 44

/-- The text of an address: a first digit for each zero byte in front, then the number. -/
def text (address : Address) : String :=
  String.ofList (List.replicate (zeros address.number) '1' ++ Base58.write textWidth address.number)

/-- The address that digits write: as many first digits in front as there are zero bytes. -/
def ofDigits? (digits : List Char) : Option Address := do
  let n ← Base58.read? digits
  let address ← ofNumber? n
  if (digits.takeWhile (· == '1')).length = zeros n then some address else none

/-- Reads an address, with blanks around it dropped. -/
def read? (text : String) : Option Address := ofDigits? (Text.trim text.toList)

def read (text : String) : Except InvalidAddress Address :=
  match read? text with
  | some address => .ok address
  | none => .error ⟨text⟩

/-- The number that the bytes write with the lowest first. -/
def reversedNumber (address : Address) : Nat := Base58.ofPlaces 256 (places address.number).reverse

def isOnCurve (address : Address) : Bool := Curve.isPoint address.reversedNumber

def debugText (address : Address) : String := "Address(" ++ address.text ++ ")"

end Address
end PayBridge.Solana
