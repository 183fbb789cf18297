import PayBridge.Text.Pieces
import PayBridge.Url.DomainCharacter
import PayBridge.Url.Punycode

/-! Domains in ASCII. Labels with other characters are written in Punycode after `xn--`. A domain that was
read is read as itself again. -/
namespace PayBridge.Url

open PayBridge.Text

def isForbidden (c : Char) : Bool :=
  c.toNat ≤ 0x20 || c.toNat == 0x7F || "%#/:<>?@[\\]^|".toList.contains c

def punycodeLead : List Char := ['x', 'n', '-', '-']

/-- Whether a label after the lead stands for a label: not empty, not of ASCII alone, without the lead, of
characters that stand for themselves, and written in the one way. -/
def isPunycodeLabel (code : List Char) : Bool :=
  match Punycode.decode? code with
  | none => false
  | some label =>
    !label.isEmpty && !label.all isAscii && !startsWith punycodeLead label &&
      label.all (fun c => mapped? c == some [c]) && Punycode.encode label == code

/-- A label in small letters: any, unless it starts like Punycode. -/
def isLabel (label : List Char) : Bool :=
  !startsWith punycodeLead label || isPunycodeLabel (label.drop punycodeLead.length)

def asciiDomain? (host : List Char) : Option (List Char) :=
  let host := lowered host
  if host.any isForbidden || !(pieces '.' host).all isLabel then none else some host

def asciiLabel (label : List Char) : List Char :=
  if label.all isAscii then label else punycodeLead ++ Punycode.encode label

def mappedText? (host : List Char) : Option (List Char) := (host.mapM mapped?).map List.flatten

def domain? (host : List Char) : Option (List Char) :=
  if host.all isAscii then asciiDomain? host
  else do
    let text ← mappedText? host
    let name := ['.'].intercalate ((pieces '.' text).map asciiLabel)
    if asciiDomain? name = some name then some name else none

end PayBridge.Url
