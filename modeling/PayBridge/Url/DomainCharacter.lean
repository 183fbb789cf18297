import PayBridge.Text.Ascii

/-! What a character of a domain stands for: its small letter, the narrow form of a wide letter, a point
for a wide point, nothing for a soft hyphen. The alphabets of Latin, Greek, Cyrillic and East Asian
names are covered; other letters stand for themselves.

This is the part of Unicode's mapping for domain names (UTS 46) that is written out here, taken for the whole.
Letters and marks are not composed, there are no rules for joiners and for the direction of writing, and a ligature
such as U+FB01 stands for itself. The library assumes of the mapping that what it gives for a domain is ASCII
and is mapped to itself; it is not assumed to be the whole of UTS 46. -/
namespace PayBridge.Url

open PayBridge.Text

def isWithin (first last n : Nat) : Bool := first ≤ n && n ≤ last

/-- Characters that a domain may hold and that stand for nothing. -/
def isIgnored (n : Nat) : Bool :=
  n == 0xAD || n == 0x34F || isWithin 0x180B 0x180F n || n == 0x200B || n == 0x2060 || n == 0x2064 ||
    n == 0xFEFF || isWithin 0xFE00 0xFE0F n

/-- Characters that no domain may hold: controls, blanks and their kin, invisible signs, private and
unassigned ones. -/
def isRefused (n : Nat) : Bool :=
  isWithin 0x80 0xA0 n || n == 0xA8 || n == 0xAF || n == 0xB4 || n == 0xB8 || n == 0x37E || n == 0x1680 ||
    isWithin 0x2000 0x200F n || isWithin 0x2024 0x2026 n || isWithin 0x2028 0x202F n ||
    isWithin 0x205F 0x206F n || n == 0x3000 || isWithin 0xE000 0xF8FF n || isWithin 0xFFF0 0xFFFF n ||
    0xE0000 ≤ n

/-- Capitals that stand next to their small letter, the capital at an even place. -/
def isEvenPair (n : Nat) : Bool :=
  isWithin 0x100 0x12F n || isWithin 0x132 0x137 n || isWithin 0x14A 0x177 n || isWithin 0x1DE 0x1EF n ||
    isWithin 0x1F8 0x21F n || isWithin 0x222 0x233 n || isWithin 0x246 0x24F n ||
    isWithin 0x370 0x373 n || isWithin 0x3D8 0x3EF n || isWithin 0x460 0x481 n ||
    isWithin 0x48A 0x4BF n || isWithin 0x4D0 0x52F n || isWithin 0x1E00 0x1E95 n ||
    isWithin 0x1EA0 0x1EFF n

/-- Capitals that stand next to their small letter, the capital at an odd place. -/
def isOddPair (n : Nat) : Bool :=
  isWithin 0x139 0x148 n || isWithin 0x179 0x17E n || isWithin 0x1CD 0x1DC n || isWithin 0x4C1 0x4CE n ||
    n == 0x1AF

/-- How far behind a capital its small letter stands, zero for what is no capital. -/
def smallLetterDistance (n : Nat) : Nat :=
  if isWithin 0xC0 0xDE n && n != 0xD7 then 32
  else if isEvenPair n then if n % 2 = 0 then 1 else 0
  else if isOddPair n then if n % 2 = 1 then 1 else 0
  else if n = 0x1A0 then 1
  else if n = 0x386 then 38
  else if isWithin 0x388 0x38A n then 37
  else if n = 0x38C then 64
  else if n = 0x38E || n = 0x38F then 63
  else if isWithin 0x391 0x3AB n && n != 0x3A2 then 32
  else if isWithin 0x400 0x40F n then 80
  else if isWithin 0x410 0x42F n then 32
  else if n = 0x4C0 then 15
  else if isWithin 0x531 0x556 n then 48
  else 0

def specialForm? (n : Nat) : Option (List Char) :=
  if n = 0x3002 || n = 0xFF0E || n = 0xFF61 then some ['.']
  else if isWithin 0xFF01 0xFF5E n then some [lower (Char.ofNat (n - 0xFEE0))]
  else if n = 0xAA then some ['a']
  else if n = 0xB2 then some ['2']
  else if n = 0xB3 then some ['3']
  else if n = 0xB5 then some ['μ']
  else if n = 0xB9 then some ['1']
  else if n = 0xBA then some ['o']
  else if n = 0xBC then some ['1', '⁄', '4']
  else if n = 0xBD then some ['1', '⁄', '2']
  else if n = 0xBE then some ['3', '⁄', '4']
  else if n = 0x130 then some ['i', '\u0307']
  else if n = 0x132 || n = 0x133 then some ['i', 'j']
  else if n = 0x13F || n = 0x140 then some ['l', '·']
  else if n = 0x149 then some ['ʼ', 'n']
  else if n = 0x178 then some ['ÿ']
  else if n = 0x17F then some ['s']
  else if n = 0x1E9E then some ['ß']
  else if n = 0x2122 then some ['t', 'm']
  else if isWithin 0x2460 0x2468 n then some [Char.ofNat (n - 0x2460 + 49)]
  else if isWithin 0x24B6 0x24CF n then some [Char.ofNat (n - 0x24B6 + 97)]
  else if isWithin 0x24D0 0x24E9 n then some [Char.ofNat (n - 0x24D0 + 97)]
  else none

def mapped? (c : Char) : Option (List Char) :=
  let n := c.toNat
  if isAscii c then some [lower c]
  else if isIgnored n then some []
  else if isRefused n then none
  else match specialForm? n with
    | some form => some form
    | none => some [Char.ofNat (n + smallLetterDistance n)]

end PayBridge.Url
