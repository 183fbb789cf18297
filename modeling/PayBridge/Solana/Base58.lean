import PayBridge.Word

/-! Numbers to base 58, with an alphabet that leaves out digits and letters that look alike. -/
namespace PayBridge.Solana.Base58

def alphabet : List Char := "123456789ABCDEFGHJKLMNPQRSTUVWXYZabcdefghijkmnopqrstuvwxyz".toList

def value? (c : Char) : Option Nat :=
  let index := alphabet.idxOf c
  if index < 58 then some index else none

def digit (value : Nat) : Char := alphabet.getD value '1'

/-- The last `width` digits of a number to a base, as values. -/
def places (base n : Nat) : Nat → List Nat
  | 0 => []
  | width + 1 => n / base ^ width % base :: places base n width

/-- The number that values of digits write to a base. -/
def ofPlaces (base : Nat) (values : List Nat) : Nat :=
  values.foldl (fun n value => n * base + value) 0

/-- The digits of a number of at most `width` of them, without zeros in front. -/
def write (width n : Nat) : List Char := ((places 58 n width).dropWhile (· == 0)).map digit

def read? (digits : List Char) : Option Nat := (digits.mapM value?).map (ofPlaces 58)

end PayBridge.Solana.Base58
