import PayBridge.Text.Ascii

/-! Words of so many bits, and arithmetic on them that fails where the result does not fit. -/
namespace PayBridge

-- Powers of numbers are those of the core library, also where a library brings powers of its own. Which powers an
-- exponent without a type gets is settled by a default instance, and these cannot be scoped.
attribute [scoped instance (high)] instPowNat
attribute [default_instance 20000] instPowNat

namespace Word

open PayBridge.Text

variable {w : Nat}

/-- The word of a number, if it fits. -/
def ofNat? (w n : Nat) : Option (BitVec w) := if n < 2 ^ w then some (BitVec.ofNat w n) else none

def narrow? (v : Nat) (word : BitVec w) : Option (BitVec v) := ofNat? v word.toNat

def checkedAdd (a b : BitVec w) : Option (BitVec w) := if a.uaddOverflow b then none else some (a + b)

def checkedMul (a b : BitVec w) : Option (BitVec w) := if a.umulOverflow b then none else some (a * b)

/-- A word times a power, one factor after the other. -/
def mulPow (base : BitVec w) : Nat → BitVec w → Option (BitVec w)
  | 0, word => some word
  | exponent + 1, word => (checkedMul word base).bind (mulPow base exponent)

def checkedPow (base : BitVec w) (exponent : Nat) : Option (BitVec w) := mulPow base exponent 1

def appendDigit (word : BitVec w) (c : Char) : Option (BitVec w) :=
  (checkedMul word 10).bind fun tens => checkedAdd tens (BitVec.ofNat w (digitValue c))

/-- The number that digits write. -/
def ofDigits? (w : Nat) (digits : List Char) : Option (BitVec w) := digits.foldlM appendDigit 0

end Word
end PayBridge
