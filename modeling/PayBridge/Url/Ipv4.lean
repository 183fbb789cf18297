import PayBridge.Word
import PayBridge.Text.Ascii
import PayBridge.Text.Pieces

/-! IPv4 addresses in hosts: one to four numbers, each to base ten, eight or sixteen, the last one taking
up the bytes that are left. -/
namespace PayBridge.Url

open PayBridge.Text

inductive Ipv4Number where
  | value (n : Nat)
  | tooLarge
  | invalid
  deriving DecidableEq, Repr

def ipv4Base : List Char → Nat × List Char
  | '0' :: 'x' :: digits => (16, digits)
  | '0' :: 'X' :: digits => (16, digits)
  | '0' :: d :: digits => (8, d :: digits)
  | digits => (10, digits)

/-- Reads one number; after `0x` no digit means zero. -/
def ipv4Number (s : List Char) : Ipv4Number :=
  if s.isEmpty then .invalid
  else
    let (base, digits) := ipv4Base s
    if digits.isEmpty then .value 0
    else match numeral? base digits with
      | none => .invalid
      | some n => if n < 2 ^ 32 then .value n else .tooLarge

/-- The labels of a host, an empty one at the end left out. -/
def ipv4Labels (host : List Char) : List (List Char) :=
  let labels := pieces '.' host
  if labels.getLast? == some [] then labels.dropLast else labels

/-- Whether a host has to be read as an address: its last label is a number. -/
def endsInNumber (host : List Char) : Bool :=
  match (ipv4Labels host).getLast? with
  | none => false
  | some label =>
    (!label.isEmpty && label.all Char.isDigit) || ipv4Number label != .invalid

def ipv4Numbers? : List (List Char) → Option (List Nat)
  | [] => some []
  | label :: rest =>
    match ipv4Number label with
    | .value n => (ipv4Numbers? rest).map (n :: ·)
    | _ => none

/-- The address of its numbers: bytes, and a last number for the bytes left. -/
def ipv4Combine? : Nat → List Nat → Option Nat
  | _, [] => none
  | room, [last] => if last < 256 ^ room then some last else none
  | room, n :: rest =>
    if 255 < n then none else (ipv4Combine? (room - 1) rest).map (n * 256 ^ (room - 1) + ·)

def readIpv4? (host : List Char) : Option Nat := do
  let labels := ipv4Labels host
  if 4 < labels.length then none
  let numbers ← ipv4Numbers? labels
  ipv4Combine? 4 numbers

def writeIpv4 (address : Nat) : List Char :=
  ['.'].intercalate ([2 ^ 24, 2 ^ 16, 2 ^ 8, 1].map fun unit => decimal (address / unit % 256))

end PayBridge.Url
