/-! ASCII letters and digits: case, comparison without case, and digits up to sixteen. Characters
beyond ASCII are left alone. -/
namespace PayBridge.Text

def isAscii (c : Char) : Bool := c.toNat < 128

def lower (c : Char) : Char := c.toLower

def lowered (s : List Char) : List Char := s.map lower

def equalIgnoringCase (a b : String) : Bool := lowered a.toList == lowered b.toList

def isAlphanumeric (c : Char) : Bool := c.isAlpha || c.isDigit

def digitValue (c : Char) : Nat := c.toNat - '0'.toNat

def hexValue? (c : Char) : Option Nat :=
  if c.isDigit then some (c.toNat - '0'.toNat)
  else if 'a' ≤ c ∧ c ≤ 'f' then some (c.toNat - 'a'.toNat + 10)
  else if 'A' ≤ c ∧ c ≤ 'F' then some (c.toNat - 'A'.toNat + 10)
  else none

/-- The number that digits write to a base, none for an empty text or a foreign digit. -/
def numeral? (base : Nat) : List Char → Option Nat
  | [] => none
  | digits => digits.foldlM (fun value c => do
      let digit ← hexValue? c
      if digit < base then some (value * base + digit) else none) 0

def decimal (n : Nat) : List Char := Nat.toDigits 10 n

end PayBridge.Text
