import PayBridge.Text.Pieces
import PayBridge.Url.Host

/-! Addresses as browsers read them, for the schemes that matter here: the web, and inline data. Only
host and port of a web address and the path of inline data are kept. -/
namespace PayBridge

inductive Url.WebScheme where
  | http
  | https
  deriving DecidableEq, Repr

/-- An address of the web or inline data. A port that its scheme implies is absent. -/
inductive Url where
  | web (scheme : Url.WebScheme) (host : Url.Host) (port : Option Nat)
  | data (path : List Char)
  deriving DecidableEq, Repr

namespace Url

open PayBridge.Text

def WebScheme.name : WebScheme → List Char
  | .http => ['h', 't', 't', 'p']
  | .https => ['h', 't', 't', 'p', 's']

def WebScheme.defaultPort : WebScheme → Nat
  | .http => 80
  | .https => 443

/-- Controls and spaces, dropped at both ends. -/
def isMargin (c : Char) : Bool := c.toNat ≤ 0x20

/-- Tabs and line ends, dropped everywhere. -/
def isBreak (c : Char) : Bool := c == '\t' || c == '\n' || c == '\r'

def cleaned (s : List Char) : List Char :=
  (((s.dropWhile isMargin).reverse.dropWhile isMargin).reverse).filter (!isBreak ·)

def isSchemeCharacter (c : Char) : Bool := isAlphanumeric c || c == '+' || c == '-' || c == '.'

def splitScheme? (s : List Char) : Option (List Char × List Char) :=
  match s.takeWhile isSchemeCharacter, s.dropWhile isSchemeCharacter with
  | first :: more, ':' :: rest => if first.isAlpha then some (lowered (first :: more), rest) else none
  | _, _ => none

def isSlash (c : Char) : Bool := c == '/' || c == '\\'

def endsAuthority (c : Char) : Bool := isSlash c || c == '?' || c == '#'

/-- Drops the user in front: all up to the last `@`. -/
def dropUser (authority : List Char) : List Char :=
  (authority.reverse.takeWhile (· != '@')).reverse

/-- The host, and what follows it from a colon outside brackets on. -/
def splitHost (inBrackets : Bool) : List Char → List Char × List Char
  | [] => ([], [])
  | c :: rest =>
    if c = ':' && !inBrackets then ([], c :: rest)
    else
      let inBrackets := if c = '[' then true else if c = ']' then false else inBrackets
      let (host, port) := splitHost inBrackets rest
      (c :: host, port)

/-- The port after the host; without digits it is the one implied. -/
def readPort? (scheme : WebScheme) : List Char → Option (Option Nat)
  | ':' :: digits =>
    if digits.isEmpty then some none
    else do
      let port ← numeral? 10 digits
      if 65535 < port then none
      else if port = scheme.defaultPort then some none
      else some (some port)
  | _ => some none

/-- A web address after its scheme. Slashes in front count as one opening, however many. -/
def readWeb? (scheme : WebScheme) (s : List Char) : Option Url := do
  let authority := dropUser (upTo endsAuthority (s.dropWhile isSlash)).1
  let (name, rest) := splitHost false authority
  let host ← Host.read? name
  let port ← readPort? scheme rest
  some (.web scheme host port)

/-- The path of an address after its scheme, up to a query or a fragment. What starts with a slash has no path of
this form. -/
def rootlessPath? : List Char → Option (List Char)
  | '/' :: _ => none
  | s => some ((upTo (fun c => c == '?' || c == '#') s).1.flatMap pathCharacter)

/-- Inline data after its scheme. -/
def readData? (s : List Char) : Option Url := (rootlessPath? s).map .data

/-- Reads an address. Other schemes, and texts without one, are none. -/
def read? (s : List Char) : Option Url := do
  let (scheme, rest) ← splitScheme? (cleaned s)
  if scheme = WebScheme.http.name then readWeb? .http rest
  else if scheme = WebScheme.https.name then readWeb? .https rest
  else if scheme = ['d', 'a', 't', 'a'] then readData? rest
  else none

def portText : Option Nat → List Char
  | none => []
  | some port => ':' :: decimal port

/-- Scheme, host and port, as texts compare them. -/
def originText (scheme : WebScheme) (host : Host) (port : Option Nat) : List Char :=
  scheme.name ++ [':', '/', '/'] ++ host.text ++ portText port

end Url
end PayBridge
