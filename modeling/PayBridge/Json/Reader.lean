import PayBridge.Json.Basic
import PayBridge.Text.Ascii

/-! Reading JSON text: one value between blanks, nothing else accepted. A number is gathered in 64 bits
and scaled as a double, digits beyond those bits being dropped, so a long number can miss the nearest
double by little. -/
namespace PayBridge.Json

open PayBridge.Text

/-- Arrays and objects inside one another, the limit itself being too deep. -/
def depthLimit : Nat := 128

def isSpace (c : Char) : Bool := c == ' ' || c == '\t' || c == '\n' || c == '\r'

def skipSpace (s : List Char) : List Char := s.dropWhile isSpace

def readUnit? : List Char → Option (Nat × List Char)
  | a :: b :: c :: d :: rest => do
    let unit ← numeral? 16 [a, b, c, d]
    some (unit, rest)
  | _ => none

/-- The character of an escape after `\u`: one unit, or two that make a pair. -/
def readEscapedUnits? (s : List Char) : Option (Char × List Char) := do
  let (unit, rest) ← readUnit? s
  if 0xD800 ≤ unit ∧ unit < 0xDC00 then
    match rest with
    | '\\' :: 'u' :: more =>
      let (low, rest) ← readUnit? more
      if 0xDC00 ≤ low ∧ low < 0xE000 then
        some (Char.ofNat (0x10000 + (unit - 0xD800) * 0x400 + (low - 0xDC00)), rest)
      else none
    | _ => none
  else if 0xDC00 ≤ unit ∧ unit < 0xE000 then none
  else some (Char.ofNat unit, rest)

def readEscape? : List Char → Option (Char × List Char)
  | '"' :: rest => some ('"', rest)
  | '\\' :: rest => some ('\\', rest)
  | '/' :: rest => some ('/', rest)
  | 'b' :: rest => some ('\x08', rest)
  | 'f' :: rest => some ('\x0c', rest)
  | 'n' :: rest => some ('\n', rest)
  | 'r' :: rest => some ('\r', rest)
  | 't' :: rest => some ('\t', rest)
  | 'u' :: rest => readEscapedUnits? rest
  | _ => none

/-- The characters up to the closing quote, reversed onto `read`. -/
def readStringBody? (read : List Char) : Nat → List Char → Option (String × List Char)
  | 0, _ => none
  | _, [] => none
  | fuel + 1, c :: rest =>
    if c = '"' then some (String.ofList read.reverse, rest)
    else if c = '\\' then do
      let (d, rest) ← readEscape? rest
      readStringBody? (d :: read) fuel rest
    else if c.toNat < 0x20 then none
    else readStringBody? (c :: read) fuel rest

def readString? (s : List Char) : Option (String × List Char) := readStringBody? [] (s.length + 1) s

/-- Divides by a power of ten, in steps that a double can hold. -/
def divideByTens (x : Binary64) (power : Nat) : Binary64 :=
  if power ≤ 308 then x.div (Binary64.tenTo power)
  else if x.isZero then x
  else divideByTens (x.div (Binary64.tenTo 308)) (power - 308)
termination_by power

/-- The double `significand * 10 ^ exponent`, none beyond the finite ones. -/
def scaled? (significand : Nat) (exponent : Int) : Option Binary64 :=
  let x := Binary64.ofNat significand
  if 0 ≤ exponent then
    if x.isZero then some x
    else if 308 < exponent then none
    else
      let product := x.mul (Binary64.tenTo exponent.toNat)
      if product.isFinite then some product else none
  else some (divideByTens x (-exponent).toNat)

/-- What 64 bits hold of a run of digits, and the number of digits left out. -/
def gather (significand : Nat) : List Char → Nat × Nat
  | [] => (significand, 0)
  | c :: rest =>
    let next := significand * 10 + digitValue c
    if next < 2 ^ 64 then gather next rest else (significand, rest.length + 1)

def readExponent? (s : List Char) : Option (Int × List Char) := do
  let (negative, body) := match s with
    | '-' :: rest => (true, rest)
    | '+' :: rest => (false, rest)
    | _ => (false, s)
  let n ← numeral? 10 (body.takeWhile Char.isDigit)
  some (if negative then -n else n, body.dropWhile Char.isDigit)

def readMagnitude? (negative : Bool) (s : List Char) : Option (Number × List Char) := do
  let whole := s.takeWhile Char.isDigit
  let rest := s.dropWhile Char.isDigit
  if whole.isEmpty || (whole.head? == some '0' && 1 < whole.length) then none
  let (significand, left) := gather 0 whole
  let (fraction, rest, hasPoint) ← match rest with
    | '.' :: more =>
      let fraction := more.takeWhile Char.isDigit
      if fraction.isEmpty then none else some (fraction, more.dropWhile Char.isDigit, true)
    | _ => some ([], rest, false)
  let (power, rest, hasPower) ← match rest with
    | c :: more =>
      if c = 'e' || c = 'E' then do
        let (power, rest) ← readExponent? more
        some (power, rest, true)
      else some (0, rest, false)
    | [] => some (0, rest, false)
  if !hasPoint && !hasPower && left = 0 && (!negative || (0 < significand && significand ≤ 2 ^ 63)) then
    some (.int (if negative then -significand else significand), rest)
  else
    let (significand, unread) := gather significand fraction
    let taken := fraction.length - unread
    let x ← scaled? significand (left - taken + power)
    some (.float (if negative then x.neg else x), rest)

def readNumber? : List Char → Option (Number × List Char)
  | '-' :: rest => readMagnitude? true rest
  | s => readMagnitude? false s

def readWord? (word : String) (value : Json) (s : List Char) : Option (Json × List Char) :=
  if word.toList.isPrefixOf s then some (value, s.drop word.toList.length) else none

mutual

/-- One value, `depth` levels being left. -/
def readValue? (depth : Nat) : Nat → List Char → Option (Json × List Char)
  | 0, _ => none
  | fuel + 1, s =>
    match skipSpace s with
    | '"' :: rest => do
      let (text, rest) ← readString? rest
      some (.string text, rest)
    | '[' :: rest =>
      if depth ≤ 1 then none
      else match skipSpace rest with
        | ']' :: rest => some (.array [], rest)
        | rest => readItems? (depth - 1) [] fuel rest
    | '\x7b' :: rest =>
      if depth ≤ 1 then none
      else match skipSpace rest with
        | '\x7d' :: rest => some (.object [], rest)
        | rest => readFields? (depth - 1) [] fuel rest
    | 'n' :: rest => readWord? "ull" .null rest
    | 't' :: rest => readWord? "rue" (.bool true) rest
    | 'f' :: rest => readWord? "alse" (.bool false) rest
    | rest => do
      let (n, rest) ← readNumber? rest
      some (.number n, rest)

/-- The items of an array from one on, those before it reversed in `read`. -/
def readItems? (depth : Nat) (read : List Json) : Nat → List Char → Option (Json × List Char)
  | 0, _ => none
  | fuel + 1, s => do
    let (item, rest) ← readValue? depth fuel s
    match skipSpace rest with
    | ',' :: rest => readItems? depth (item :: read) fuel rest
    | ']' :: rest => some (.array (item :: read).reverse, rest)
    | _ => none

/-- The fields of an object from one on, those before it sorted in `read`. -/
def readFields? (depth : Nat) (read : List (String × Json)) :
    Nat → List Char → Option (Json × List Char)
  | 0, _ => none
  | fuel + 1, s =>
    match skipSpace s with
    | '"' :: rest => do
      let (key, rest) ← readString? rest
      match skipSpace rest with
      | ':' :: rest =>
        let (value, rest) ← readValue? depth fuel rest
        match skipSpace rest with
        | ',' :: rest => readFields? depth (insert key value read) fuel rest
        | '\x7d' :: rest => some (.object (insert key value read), rest)
        | _ => none
      | _ => none
    | _ => none

end

def read? (text : String) : Option Json := do
  let s := text.toList
  let (value, rest) ← readValue? depthLimit (2 * s.length + 2) s
  if (skipSpace rest).isEmpty then some value else none

end PayBridge.Json
