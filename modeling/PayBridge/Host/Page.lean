import PayBridge.Json.Basic
import PayBridge.Text.Blank
import PayBridge.Url.Basic

/-! Wallets that a host page offers. The page is not trusted: an entry without a usable name is left out,
and an icon is an https address, inline data of a known image type, or a neutral glyph. Sanitizing what
was sanitized changes nothing. -/
namespace PayBridge

/-- A wallet of the host page; only `Wallet.sanitize?` makes one of page data. -/
structure Wallet where
  name : String
  icon : Option String
  installed : Bool
  connectable : Option Bool
  deriving DecidableEq, Repr

namespace Wallet

open PayBridge.Text

def neutralIcon : String :=
  "data:image/svg+xml,%3Csvg%20xmlns%3D%27http%3A%2F%2Fwww.w3.org%2F2000%2Fsvg%27" ++
    "%20viewBox%3D%270%200%2024%2024%27%3E" ++
    "%3Crect%20width%3D%2724%27%20height%3D%2724%27%20rx%3D%276%27%20fill%3D%27%23E5E7EB%27%2F%3E" ++
    "%3Cpath%20d%3D%27M6%209h12v8H6z%27%20fill%3D%27%239CA3AF%27%2F%3E%3C%2Fsvg%3E"

def imageTypes : List String :=
  ["image/png", "image/jpg", "image/jpeg", "image/gif", "image/svg+xml", "image/webp", "image/bmp",
   "image/ico"]

/-- The type of inline data: what stands before the first comma and the first semicolon, trimmed. -/
def dataType? (path : List Char) : Option (List Char) := do
  let (header, _) ← cutAt? ',' path
  let type := trim (upTo (· == ';') header).1
  if type.isEmpty then none else some type

def isAllowedIcon (icon : List Char) : Bool :=
  match Url.read? icon with
  | some (.web .https _ _) => true
  | some (.data path) =>
    match dataType? path with
    | some type => imageTypes.any (equalIgnoringCase (String.ofList type) ·)
    | none => false
  | _ => false

/-- The icon itself, trimmed, or the neutral glyph. -/
def sanitizeIcon (icon : String) : String :=
  if isAllowedIcon (trim icon.toList) then trimmed icon else neutralIcon

/-- The icon of an entry: none if it has none, the neutral glyph if it is no text. -/
def iconOf : Option Json → Option String
  | none => none
  | some .null => none
  | some (.string icon) => some (sanitizeIcon icon)
  | some _ => some neutralIcon

def sanitize? (entry : Json) : Option Wallet := do
  let name ← (entry.get? "name").bind Json.string?
  if (trimmed name).isEmpty then none
  else some {
    name := trimmed name
    icon := iconOf (entry.get? "icon")
    installed := ((entry.get? "installed").bind Json.bool?).getD false
    connectable := (entry.get? "connectable").bind Json.bool? }

/-- The wallets of the page's list, in its order. What is no list has none. -/
def sanitize : Json → List Wallet
  | .array entries => entries.filterMap sanitize?
  | _ => []

def toJson (wallet : Wallet) : Json := .object (Json.present [
  ("connectable", wallet.connectable.map .bool),
  ("icon", wallet.icon.map .string),
  ("installed", some (.bool wallet.installed)),
  ("name", some (.string wallet.name))])

end Wallet

structure HostPage where
  wallets : List Wallet
  connectsWallets : Bool
  deriving DecidableEq, Repr

namespace HostPage

def scanOnly : HostPage := ⟨[], false⟩

def ofList (entries : Json) (connectsWallets : Bool) : HostPage :=
  ⟨Wallet.sanitize entries, connectsWallets⟩

def wallet? (host : HostPage) (name : String) : Option Wallet := host.wallets.find? (·.name == name)

end HostPage
end PayBridge
