import PayBridge.Url.Domain
import PayBridge.Url.Ipv4
import PayBridge.Url.Ipv6
import PayBridge.Url.Percent

/-! Hosts of web addresses: a domain, an IPv4 address in any of its spellings, or an IPv6 address in
brackets. -/
namespace PayBridge.Url

open PayBridge.Text

inductive Host where
  | domain (name : List Char)
  | ipv4 (address : Nat)
  | ipv6 (pieces : List Nat)
  deriving DecidableEq, Repr

namespace Host

/-- A host outside brackets: bytes behind percent signs, then a domain. One whose last label is a number
has to be an address. -/
def readName? (s : List Char) : Option Host := do
  let text ← ofUtf8? (percentDecode s)
  let name ← domain? text
  if name.isEmpty then none
  else if endsInNumber name then (readIpv4? name).map .ipv4
  else some (.domain name)

def read? : List Char → Option Host
  | '[' :: rest =>
    if rest.getLast? == some ']' then (readIpv6? rest.dropLast).map .ipv6 else none
  | s => readName? s

def text : Host → List Char
  | .domain name => name
  | .ipv4 address => writeIpv4 address
  | .ipv6 pieces => '[' :: writeIpv6 pieces ++ [']']

end Host
end PayBridge.Url
