import PayBridge.Word

/-! Doubles by sign and code. The code of a magnitude counts the doubles below it, so codes are ordered
as the magnitudes are, and a magnitude is a whole number of units of 2 to the power -1074. Arithmetic is
exact on those units and rounds once, to nearest, a tie to the even code. -/
namespace PayBridge

/-- A double: its sign and the 63 bits below the sign. -/
structure Binary64 where
  negative : Bool
  code : Fin (2 ^ 63)
  deriving DecidableEq, Repr

namespace Binary64

/-- The code of infinity: what has a larger one is no number. -/
def infinityCode : Nat := 2047 * 2 ^ 52

def isFinite (x : Binary64) : Bool := x.code.val < infinityCode

def isZero (x : Binary64) : Bool := x.code.val == 0

/-- The number of binary places below the leading binade: what the stored exponent says, with 0 for the
subnormal and the first normal binade. -/
def shift (x : Binary64) : Nat := x.code.val / 2 ^ 52 - 1

def significand (x : Binary64) : Nat :=
  if x.code.val < 2 ^ 52 then x.code.val else x.code.val % 2 ^ 52 + 2 ^ 52

/-- The magnitude of a finite double in units of 2 to the power -1074. -/
def units (x : Binary64) : Nat := x.significand * 2 ^ x.shift

def one : Nat := 2 ^ 1074

def nearestEven (num den : Nat) : Nat :=
  let quotient := num / den
  let rest := num % den
  if 2 * rest < den then quotient
  else if den < 2 * rest then quotient + 1
  else quotient + quotient % 2

/-- The code of the double nearest to a quotient of units; infinity from the midpoint on. -/
def nearestCode (num den : Nat) : Nat :=
  let dropped := Nat.log2 (num / den) - 52
  min infinityCode (dropped * 2 ^ 52 + nearestEven num (den * 2 ^ dropped))

theorem nearestCode_lt (num den : Nat) : nearestCode num den < 2 ^ 63 :=
  Nat.lt_of_le_of_lt (Nat.min_le_left ..) (by decide)

def ofUnits (num den : Nat) : Binary64 := ⟨false, nearestCode num den, nearestCode_lt num den⟩

def ofRatio (num den : Nat) : Binary64 := ofUnits (num * one) den

def ofNat (n : Nat) : Binary64 := ofRatio n 1

def zero : Binary64 := ⟨false, 0⟩

def neg (x : Binary64) : Binary64 := { x with negative := !x.negative }

def abs (x : Binary64) : Binary64 := { x with negative := false }

def add (x y : Binary64) : Binary64 := ofUnits (x.units + y.units) 1

def mul (x y : Binary64) : Binary64 := ofUnits (x.units * y.units) one

/-- Magnitudes divided, for a divisor that is not zero. -/
def div (x y : Binary64) : Binary64 := ofUnits (x.units * one) y.units

/-- The nearest whole magnitude, a half going away from zero. -/
def round (x : Binary64) : Binary64 := ofNat ((2 * x.units + one) / (2 * one))

def tenTo (n : Nat) : Binary64 := ofNat (10 ^ n)

def bits (x : Binary64) : Nat := (if x.negative then 2 ^ 63 else 0) + x.code.val

def hex (x : Binary64) : String :=
  let digits := Nat.toDigits 16 x.bits
  String.ofList (List.replicate (16 - digits.length) '0' ++ digits)

end Binary64
end PayBridge
