import PayBridge.Url.Basic

/-! Addresses that name no host: a scheme, a colon, and a path that does not start with a slash. -/
namespace PayBridge.Url

open PayBridge.Text

/-- A rootless address without its query and its fragment. -/
structure Rootless where
  scheme : List Char
  path : List Char
  deriving DecidableEq, Repr

namespace Rootless

def read? (s : List Char) : Option Rootless := do
  let (scheme, rest) ← splitScheme? (cleaned s)
  let path ← rootlessPath? rest
  some ⟨scheme, path⟩

def text (address : Rootless) : List Char := address.scheme ++ ':' :: address.path

end Rootless
end PayBridge.Url
