import PayBridge.Text.Ascii

/-! Punycode: a label of any characters in ASCII. The ASCII characters come first; each other character is
a number that says how many steps of a counter over characters and positions lead to it. -/
namespace PayBridge.Url.Punycode

def digit (value : Nat) : Char :=
  if value < 26 then Char.ofNat (97 + value) else Char.ofNat (22 + value)

def value? (c : Char) : Option Nat :=
  if 'a' ≤ c ∧ c ≤ 'z' then some (c.toNat - 97)
  else if c.isDigit then some (c.toNat - 22)
  else none

/-- The largest value of a last digit, by its place `k` (36, 72, …). -/
def threshold (k bias : Nat) : Nat := min 26 (max 1 (k - bias))

theorem threshold_pos (k bias : Nat) : 1 ≤ threshold k bias := by
  unfold threshold; omega

theorem threshold_le (k bias : Nat) : threshold k bias ≤ 26 := by
  unfold threshold; omega

/-- Shrinks a step count by 35 until it is small, counting 36 for each time. -/
def settle (delta k : Nat) : Nat :=
  if 455 < delta then settle (delta / 35) (k + 36) else k + 36 * delta / (delta + 38)
termination_by delta
decreasing_by exact Nat.div_lt_self (by omega) (by decide)

/-- The bias after a step count, `count` characters being placed. -/
def adapt (delta count : Nat) (first : Bool) : Nat :=
  let delta := if first then delta / 700 else delta / 2
  settle (delta + delta / count) 0

/-- The digits of a step count, the lowest first. -/
def writeSteps (bias k steps : Nat) : List Char :=
  let t := threshold k bias
  if steps < t then [digit steps]
  else digit (t + (steps - t) % (36 - t)) :: writeSteps bias (k + 36) ((steps - t) / (36 - t))
termination_by steps
decreasing_by
  have := threshold_pos k bias
  exact Nat.lt_of_le_of_lt (Nat.div_le_self ..) (by omega)

structure Progress where
  written : List Char
  delta : Nat
  bias : Nat
  placed : Nat

def Progress.visit (basic current : Nat) (p : Progress) (c : Char) : Progress :=
  if c.toNat < current then { p with delta := p.delta + 1 }
  else if c.toNat = current then
    { written := p.written ++ writeSteps p.bias 36 p.delta
      delta := 0
      bias := adapt p.delta (p.placed + 1) (p.placed == basic)
      placed := p.placed + 1 }
  else p

/-- Places the characters beyond ASCII in ascending order. -/
def place (label : List Char) (basic : Nat) : List Nat → Nat → Progress → Progress
  | [], _, p => p
  | current :: rest, next, p =>
    let p := { p with delta := p.delta + (current - next) * (p.placed + 1) }
    let p := label.foldl (Progress.visit basic current) p
    place label basic rest (current + 1) { p with delta := p.delta + 1 }

def insertNumber (n : Nat) : List Nat → List Nat
  | [] => [n]
  | m :: rest => if n < m then n :: m :: rest else if n = m then m :: rest else m :: insertNumber n rest

/-- The Punycode of a label, without the mark in front. -/
def encode (label : List Char) : List Char :=
  let basic := label.filter Text.isAscii
  let others := (label.filter (!Text.isAscii ·)).foldr (fun c => insertNumber c.toNat) []
  let lead := if basic.isEmpty then [] else basic ++ ['-']
  lead ++ (place label basic.length others 128 ⟨[], 0, 72, basic.length⟩).written

def character? (n : Nat) : Option Char := if h : n.isValidChar then some (Char.ofNatAux n h) else none

/-- Reads step counts and places a character after each. `steps` is the counter, `from` its value when
the count in hand began, `weight` and `k` belong to the next digit. -/
def decodeSteps (label : List Char) (next steps bias start weight k : Nat) :
    List Char → Option (List Char)
  | [] => if k = 36 then some label else none
  | c :: rest => do
    let d ← value? c
    let steps := steps + d * weight
    let t := threshold k bias
    if d < t then
      let count := label.length + 1
      let next := next + steps / count
      let position := steps % count
      let placed ← character? next
      decodeSteps (label.insertIdx position placed) next (position + 1)
        (adapt (steps - start) count (start == 0)) (position + 1) 1 36 rest
    else decodeSteps label next steps bias start (weight * (36 - t)) (k + 36) rest

def decode? (code : List Char) : Option (List Char) :=
  let back := code.reverse
  let digits := (back.takeWhile (· != '-')).reverse
  let basic := ((back.dropWhile (· != '-')).drop 1).reverse
  decodeSteps basic 128 0 72 0 1 36 digits

end PayBridge.Url.Punycode
