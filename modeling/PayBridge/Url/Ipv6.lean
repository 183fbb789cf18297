import PayBridge.Text.Ascii
import PayBridge.Text.Pieces

/-! IPv6 addresses in hosts: eight pieces of 16 bits, the longest run of zeros written as two colons. -/
namespace PayBridge.Url

open PayBridge.Text

def readPiece? (s : List Char) : Option Nat := if 4 < s.length then none else numeral? 16 s

def readByte? (s : List Char) : Option Nat := do
  if s.head? == some '0' && 1 < s.length then none
  let n ← numeral? 10 s
  if n < 256 then some n else none

def readEmbedded? (s : List Char) : Option (List Nat) :=
  match pieces '.' s with
  | [a, b, c, d] => do
    let a ← readByte? a
    let b ← readByte? b
    let c ← readByte? c
    let d ← readByte? d
    some [a * 256 + b, c * 256 + d]
  | _ => none

/-- Pieces between colons. With `last`, the last of them may be an IPv4 address. -/
def readGroups? (last : Bool) : List (List Char) → Option (List Nat)
  | [] => some []
  | [group] =>
    if last && group.contains '.' then readEmbedded? group else (readPiece? group).map fun n => [n]
  | group :: rest => do
    let n ← readPiece? group
    let others ← readGroups? last rest
    some (n :: others)

def readSide? (last : Bool) (s : List Char) : Option (List Nat) :=
  if s.isEmpty then some [] else readGroups? last (pieces ':' s)

def cutAtColons? : List Char → Option (List Char × List Char)
  | [] => none
  | ':' :: ':' :: rest => some ([], rest)
  | c :: rest => (cutAtColons? rest).map fun (before, after) => (c :: before, after)

/-- The eight pieces that a text writes. Two colons stand for one zero at least. -/
def readIpv6? (s : List Char) : Option (List Nat) :=
  match cutAtColons? s with
  | none => do
    let all ← readSide? true s
    if all.length = 8 then some all else none
  | some (before, after) => do
    let front ← readSide? false before
    let back ← readSide? true after
    let count := front.length + back.length
    if count ≤ 7 then some (front ++ List.replicate (8 - count) 0 ++ back) else none

def zerosInFront (pieces : List Nat) : Nat := (pieces.takeWhile (· == 0)).length

/-- Start and length of the first of the longest runs of zeros. -/
def longestZeros (pieces : List Nat) : Nat × Nat :=
  (List.range pieces.length).foldl (fun best start =>
    let length := zerosInFront (pieces.drop start)
    if best.2 < length then (start, length) else best) (0, 0)

def writePieces (pieces : List Nat) : List Char := [':'].intercalate (pieces.map (Nat.toDigits 16))

/-- The pieces to base sixteen; a run of two zeros or more is left out. -/
def writeIpv6 (pieces : List Nat) : List Char :=
  let (start, length) := longestZeros pieces
  if length < 2 then writePieces pieces
  else writePieces (pieces.take start) ++ ':' :: ':' :: writePieces (pieces.drop (start + length))

end PayBridge.Url
