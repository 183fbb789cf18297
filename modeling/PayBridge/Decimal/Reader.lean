import PayBridge.Decimal.Basic
import PayBridge.Text.Ascii
import PayBridge.Text.Pieces

/-! Reading decimal text. Digits may be set apart by low lines. Digits that the mantissa cannot hold
round the fraction half away from zero; before the point they are an error. An exponent is tried when the
plain reading fails. -/
namespace PayBridge.Decimal

open PayBridge.Text

abbrev Magnitude := Nat × Nat

/-- Below this a mantissa takes one more digit and stays within 64 bits. -/
def shortMantissa : Nat := 1844674407370954906

def isDigitTail (s : List Char) : Bool := s.all fun c => c.isDigit || c == '_'

/-- Ends the reading at a digit that is not kept. A mantissa that overflows by the rounding loses its
last digit too. -/
def roundAt (mantissa scale digit : Nat) (rest : List Char) : Option Magnitude :=
  if !isDigitTail rest then none
  else if digit < 5 then some (mantissa, scale)
  else if mantissa + 1 < 2 ^ 96 then some (mantissa + 1, scale)
  else if scale = 0 then none
  else some ((mantissa + 5) / 10, scale - 1)

/-- Reads digits, low lines and one point. `behind` says that the point was seen, `begun` that a digit
was. -/
def scan (behind begun : Bool) (mantissa scale : Nat) : List Char → Option Magnitude
  | [] => if begun then some (mantissa, scale) else none
  | c :: rest =>
    if c.isDigit then
      let digit := digitValue c
      if behind && 28 ≤ scale then roundAt mantissa scale digit rest
      else if mantissa * 10 + digit < 2 ^ 96 then
        scan behind true (mantissa * 10 + digit) (if behind then scale + 1 else scale) rest
      else if behind then roundAt mantissa scale digit rest
      else none
    else if c = '.' && !behind then scan true begun mantissa scale rest
    else if c = '_' && begun then
      if behind && 28 ≤ scale && mantissa / 10 < shortMantissa then roundAt mantissa scale 0 rest
      else scan behind true mantissa scale rest
    else none

def splitSign : List Char → Bool × List Char
  | '-' :: rest => (true, rest)
  | '+' :: rest => (false, rest)
  | s => (false, s)

/-- Plain text, without an exponent. A zero has no sign. -/
def readPlain? (s : List Char) : Option Decimal := do
  let (negative, body) := splitSign s
  let (mantissa, scale) ← scan false false 0 0 body
  ofParts? (negative && mantissa != 0) mantissa scale

def readCount? (s : List Char) : Option Nat := do
  let digits := match s with
    | '+' :: rest => rest
    | s => s
  let n ← numeral? 10 digits
  if n < 2 ^ 32 then some n else none

/-- The mantissa for fewer places, half away from zero. -/
def roundedTo (places mantissa scale : Nat) : Nat :=
  if scale ≤ places then mantissa
  else (mantissa + 10 ^ (scale - places) / 2) / 10 ^ (scale - places)

/-- Moves the point to the left, rounding away what gets behind the 28th place. -/
def scaleDown? (d : Decimal) (places : Nat) : Option Decimal :=
  if d.scale + places ≤ 28 then ofParts? d.negative d.mantissa (d.scale + places)
  else
    let mantissa := roundedTo (28 - places) d.mantissa d.scale
    ofParts? (d.negative && mantissa != 0) mantissa 28

def scaleUp? (d : Decimal) (places : Nat) : Option Decimal :=
  if places ≤ d.scale then ofParts? d.negative d.mantissa (d.scale - places)
  else ofParts? d.negative (d.mantissa * 10 ^ (places - d.scale)) 0

/-- Text with an exponent of at most 28 places. -/
def readScientific? (s : List Char) : Option Decimal := do
  let (before, mark) := upTo (fun c => c == 'e' || c == 'E') s
  let power ← mark.tail?
  let base ← readPlain? before
  match power with
  | '-' :: digits =>
    let places ← readCount? digits
    if places ≤ 28 then scaleDown? base places else none
  | digits =>
    let places ← readCount? digits
    if places ≤ 28 then scaleUp? base places else none

def read? (s : List Char) : Option Decimal :=
  readPlain? s <|> readScientific? s

end PayBridge.Decimal
