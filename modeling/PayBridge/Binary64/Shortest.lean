import PayBridge.Binary64.Basic

/-! The shortest decimal that reads back as a double. Every real number between the midpoints to the two
neighbours rounds to the double; the midpoints do so too if its code is even. Decimal grids are tried from
coarse to fine, and the first one with a point in that interval gives the digits. Where two points are
equally near, text without an exponent takes the larger one, and text in messages the even one. -/
namespace PayBridge.Binary64

structure Shortest where
  digits : Nat
  exponent : Int
  deriving DecidableEq, Repr

inductive Tie where
  | larger
  | even
  deriving DecidableEq, Repr

def Tie.goesAbove (below : Nat) : Tie → Bool
  | .larger => true
  | .even => below % 2 == 1

/-- The interval that rounds to a double, in quarters of a unit: below a power of two the doubles are
twice as dense. -/
structure Interval where
  low : Nat
  value : Nat
  high : Nat
  closed : Bool
  deriving DecidableEq, Repr

def interval (x : Binary64) : Interval :=
  let gap := 2 ^ x.shift
  let below := if x.significand = 2 ^ 52 ∧ 0 < x.shift then gap else 2 * gap
  ⟨4 * x.units - below, 4 * x.units, 4 * x.units + 2 * gap, x.code.val % 2 == 0⟩

def Interval.contains (i : Interval) (point scale : Nat) : Bool :=
  if i.closed then i.low * scale ≤ point && point ≤ i.high * scale
  else i.low * scale < point && point < i.high * scale

/-- The point of the grid of `10 ^ exponent` in the interval that is nearest to the value: one of its
two neighbours on the grid. -/
def gridPoint? (tie : Tie) (i : Interval) (exponent : Int) : Option Nat :=
  let step := 4 * one * 10 ^ exponent.toNat
  let scale := 10 ^ (-exponent).toNat
  let value := i.value * scale
  let below := value / step
  let holdsBelow := 0 < below && i.contains (below * step) scale
  let holdsAbove := i.contains ((below + 1) * step) scale
  if holdsBelow && holdsAbove then
    let toBelow := value - below * step
    let toAbove := (below + 1) * step - value
    some (if toAbove < toBelow || (toAbove == toBelow && tie.goesAbove below) then below + 1 else below)
  else if holdsBelow then some below
  else if holdsAbove then some (below + 1)
  else none

def firstGrid (tie : Tie) (i : Interval) : Nat → Int → Shortest
  | 0, exponent => ⟨0, exponent⟩
  | tries + 1, exponent =>
    match gridPoint? tie i exponent with
    | some digits => ⟨digits, exponent⟩
    | none => firstGrid tie i tries (exponent - 1)

def Shortest.stripped (s : Shortest) : Shortest :=
  if h : 0 < s.digits ∧ s.digits % 10 = 0 then
    Shortest.stripped ⟨s.digits / 10, s.exponent + 1⟩
  else s
termination_by s.digits
decreasing_by exact Nat.div_lt_self h.1 (by decide)

def shortest (tie : Tie) (x : Binary64) : Shortest :=
  if x.isZero then ⟨0, 0⟩
  else
    let places := (Nat.toDigits 10 (x.units / one)).length
    (firstGrid tie x.interval (places + 343) places).stripped

/-- Digits and a point, never an exponent: as many zeros as it takes. -/
def Shortest.plain (s : Shortest) : List Char :=
  let digits := Nat.toDigits 10 s.digits
  if 0 ≤ s.exponent then
    if s.digits = 0 then ['0'] else digits ++ List.replicate s.exponent.toNat '0'
  else
    let places := (-s.exponent).toNat
    let padded := List.replicate (places + 1 - digits.length) '0' ++ digits
    padded.take (padded.length - places) ++ '.' :: padded.drop (padded.length - places)

def plain (x : Binary64) : List Char := (x.shortest .larger).plain

/-- The text in messages: a point always unless there is an exponent, which has a sign and two digits
at least. The exponent is written for magnitudes below 1e-5 and from 1e16 on. -/
def display (x : Binary64) : String :=
  let s := x.shortest .even
  let digits := Nat.toDigits 10 s.digits
  let leading : Int := s.exponent + digits.length - 1
  let body :=
    if s.digits = 0 then "0.0".toList
    else if -5 ≤ leading ∧ leading ≤ 15 then
      if 0 ≤ s.exponent then s.plain ++ ['.', '0'] else s.plain
    else
      let mantissa := match digits with
        | [d] => [d]
        | d :: rest => d :: '.' :: rest
        | [] => []
      let power := Nat.toDigits 10 leading.natAbs
      mantissa ++ 'e' :: (if 0 ≤ leading then '+' else '-') ::
        (List.replicate (2 - power.length) '0' ++ power)
  String.ofList (if x.negative then '-' :: body else body)

end PayBridge.Binary64
