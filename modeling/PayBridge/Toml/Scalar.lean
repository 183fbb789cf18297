import PayBridge.Binary64.Reader
import PayBridge.Toml.Basic
import PayBridge.Toml.Text

/-! Values without quotes or brackets: truth values, integers, doubles, dates and times. One is a run of
letters, digits and signs, read as a whole; only between a date and a time may stand a space. -/
namespace PayBridge.Toml

open PayBridge.Text

def isScalar (c : Char) : Bool :=
  isAlphanumeric c || c == '+' || c == '-' || c == '_' || c == '.' || c == ':'

/-! Numbers -/

/-- Digits without the low lines between them. A low line stands between two digits only. -/
def ungrouped? (s : List Char) : Option (List Char) :=
  let groups := pieces '_' s
  if groups.any List.isEmpty then none else some groups.flatten

def digits? (base : Nat) (s : List Char) : Option Nat := (ungrouped? s).bind (numeral? base)

/-- Decimal digits that do not start with a zero, or the zero alone. -/
def whole? (s : List Char) : Option (List Char) :=
  if s.head? == some '0' && 1 < s.length then none
  else do
    let digits ← ungrouped? s
    if digits.all Char.isDigit then some digits else none

def splitSign : List Char → Bool × List Char
  | '-' :: rest => (true, rest)
  | '+' :: rest => (false, rest)
  | s => (false, s)

/-- An integer of 64 bits. Only decimal ones have a sign. -/
def readInteger? (s : List Char) : Option Int := do
  let n : Int ← match s with
    | '0' :: 'x' :: rest => (digits? 16 rest).map Int.ofNat
    | '0' :: 'o' :: rest => (digits? 8 rest).map Int.ofNat
    | '0' :: 'b' :: rest => (digits? 2 rest).map Int.ofNat
    | _ => do
      let (negative, body) := splitSign s
      let n ← (whole? body).bind (numeral? 10)
      some (if negative then -(n : Int) else n)
  if -2 ^ 63 ≤ n ∧ n < 2 ^ 63 then some n else none

def power? (s : List Char) : Option Int :=
  let (negative, body) := splitSign s
  (digits? 10 body).map fun n => if negative then -(n : Int) else n

/-- A double with a fraction, an exponent or both. One too large is refused, one too small is not. -/
def readFloat? (s : List Char) : Option Binary64 := do
  let (negative, body) := splitSign s
  let (mantissa, powerPart) := upTo (fun c => c == 'e' || c == 'E') body
  let power ← match powerPart with
    | [] => some 0
    | _ :: rest => power? rest
  let (wholePart, fraction) ← match cutAt? '.' mantissa with
    | some (wholePart, fraction) => (ungrouped? fraction).map (wholePart, ·)
    | none => if powerPart.isEmpty then none else some (mantissa, [])
  let digits ← whole? wholePart
  let n ← numeral? 10 (digits ++ fraction)
  let x := Binary64.ofDecimal n (power - fraction.length)
  if negative then some x.neg else if x.isFinite then some x else none

def readWord? (s : List Char) : Option Binary64 :=
  let (negative, word) := splitSign s
  let x := if word == ['i', 'n', 'f'] then some Binary64.infinity
    else if word == ['n', 'a', 'n'] then some Binary64.notANumber
    else none
  x.map fun x => if negative then x.neg else x

/-! Dates and times -/

def twoDigits? (a b : Char) : Option Nat :=
  if a.isDigit && b.isDigit then some (digitValue a * 10 + digitValue b) else none

def daysOf (year month : Nat) : Nat :=
  if month = 2 then
    if year % 4 = 0 ∧ (year % 100 ≠ 0 ∨ year % 400 = 0) then 29 else 28
  else if month = 4 ∨ month = 6 ∨ month = 9 ∨ month = 11 then 30
  else 31

def isDate : List Char → Bool
  | [a, b, c, d, '-', e, f, '-', g, h] =>
    match twoDigits? a b, twoDigits? c d, twoDigits? e f, twoDigits? g h with
    | some century, some year, some month, some day =>
      1 ≤ month && month ≤ 12 && 1 ≤ day && day ≤ daysOf (century * 100 + year) month
    | _, _, _, _ => false
  | _ => false

def isHourMinute : List Char → Bool
  | [a, b, ':', c, d] =>
    match twoDigits? a b, twoDigits? c d with
    | some hour, some minute => hour ≤ 23 && minute ≤ 59
    | _, _ => false
  | _ => false

/-- What follows a time to the second: a fraction, and an offset. -/
def splitFraction? : List Char → Option (List Char)
  | '.' :: rest => if (rest.takeWhile Char.isDigit).isEmpty then none else some (rest.dropWhile Char.isDigit)
  | s => some s

/-- The text after a time of day, none for another text. A leap second is allowed. -/
def readTime? (s : List Char) : Option (List Char) :=
  match s.drop 5 with
  | ':' :: a :: b :: rest =>
    match twoDigits? a b with
    | some second => if isHourMinute (s.take 5) && second ≤ 60 then splitFraction? rest else none
    | none => none
  | _ => none

/-- Whether a text is no offset, the one of Greenwich, or one in hours and minutes. -/
def isOffset : List Char → Bool
  | [] => true
  | ['Z'] => true
  | ['z'] => true
  | '+' :: rest => isHourMinute rest
  | '-' :: rest => isHourMinute rest
  | _ => false

def isTime (s : List Char) : Bool := (readTime? s).any isOffset

def isMoment (s : List Char) : Bool :=
  isDate s || readTime? s == some [] ||
    match s.drop 10 with
    | c :: rest => isDate (s.take 10) && (c == 'T' || c == 't') && isTime rest
    | [] => false

/-! Runs -/

def ofRun? (run : List Char) : Option Toml :=
  let text := String.ofList run
  if text = "true" then some (.bool true)
  else if text = "false" then some (.bool false)
  else if isMoment run then some (.moment text)
  else match readInteger? run with
    | some n => some (.integer n)
    | none => ((readWord? run).or (readFloat? run)).map .float

def readScalar? (s : List Char) : Option (Toml × List Char) :=
  let run := s.takeWhile isScalar
  match isDate run, s.dropWhile isScalar with
  | true, ' ' :: c :: rest =>
    if c.isDigit then
      let time := (c :: rest).takeWhile isScalar
      if isTime time then
        some (.moment (String.ofList (run ++ ' ' :: time)), (c :: rest).dropWhile isScalar)
      else none
    else some (.moment (String.ofList run), ' ' :: c :: rest)
  | _, rest => (ofRun? run).map (·, rest)

end PayBridge.Toml
