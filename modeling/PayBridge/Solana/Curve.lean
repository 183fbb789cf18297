import PayBridge.Word

/-! Which numbers are points of the curve of Ed25519. The 255 lower bits of a number give the ordinate,
modulo the prime; the top bit would choose between two points. There is a point iff the quotient that the
curve's equation gives for the squared abscissa is a square. -/
namespace PayBridge.Solana.Curve

def prime : Nat := 2 ^ 255 - 19

/-- The coefficient of the curve, `-121665 / 121666` modulo the prime. -/
def coefficient : Nat := 37095705934669439343138083508754565189542113879843219016388785533085940283555

def power (base exponent : Nat) : Nat :=
  if exponent = 0 then 1
  else
    let square := power (base * base % prime) (exponent / 2)
    if exponent % 2 = 1 then square * base % prime else square
termination_by exponent

def isSquare (n : Nat) : Bool :=
  let root := power (n % prime) ((prime - 1) / 2)
  root == 0 || root == 1

/-- Whether an ordinate belongs to a point: `(y² - 1) / (d y² + 1)` is a square, and so is that product. -/
def isOrdinate (y : Nat) : Bool :=
  let square := y * y % prime
  isSquare ((square + prime - 1) * (coefficient * square + 1))

/-- Whether 32 bytes, read with the lowest byte first, are a point. -/
def isPoint (n : Nat) : Bool := isOrdinate (n % 2 ^ 255 % prime)

end PayBridge.Solana.Curve
