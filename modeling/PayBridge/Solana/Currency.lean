import PayBridge.Payment.Request
import PayBridge.Solana.Address
import PayBridge.Solana.Cluster

/-! The currencies that are accepted: the clusters' own coin and a few dollar tokens, each with its mint
and the program that owns its accounts. -/
namespace PayBridge.Solana

inductive TokenProgram where
  | spl
  | token2022
  deriving DecidableEq, Repr

namespace TokenProgram

def name : TokenProgram → String
  | .spl => "Spl"
  | .token2022 => "Token2022"

/-- The address of a program. The text `TokenzQdBNbLqP5VveNzL2BZ6XfT2C4VtsWtVjL9c3Cm`, which is found for the second
one, decodes to 33 bytes and is no address; what stands here is the id on the ledger. -/
def address : TokenProgram → Address
  | .spl => (Address.read? "TokenkegQfeZyiNwAJbNbGKPFXCWuBvf9Ss623VQ5DA").get (by decide +kernel)
  | .token2022 => (Address.read? "TokenzQdBNbLqP5VEhdkAS6EPFLC1PHnBqCXEpPxuEb").get (by decide +kernel)

end TokenProgram

/-- A token: its mint, and the program of its accounts. -/
structure Token where
  mint : Address
  program : TokenProgram
  deriving DecidableEq, Repr

/-- A currency on one cluster; the cluster's own coin has no token. -/
structure Currency where
  symbol : String
  cluster : Cluster
  places : Nat
  token : Option Token
  deriving DecidableEq, Repr

structure UnsupportedCurrency where
  symbol : String
  cluster : Cluster
  deriving DecidableEq, Repr

def UnsupportedCurrency.message (e : UnsupportedCurrency) : String :=
  "unsupported currency " ++ e.symbol ++ " on " ++ e.cluster.name

namespace Currency

open PayBridge.Text

def coin (cluster : Cluster) : Currency := ⟨"SOL", cluster, 9, none⟩

def dollar (symbol : String) (cluster : Cluster) (mint : Address) (program : TokenProgram) : Currency :=
  ⟨symbol, cluster, 6, some ⟨mint, program⟩⟩

def usdcMint : Address :=
  (Address.read? "EPjFWdd5AufqSSqeM2qN1xzybapC8G4wEGGkZwyTDt1v").get (by decide +kernel)

def usdcDevnetMint : Address :=
  (Address.read? "4zMMC9srt5Ri5X14GAgXhaHii3GnPAEERYPJgZJDncDU").get (by decide +kernel)

def usdtMint : Address :=
  (Address.read? "Es9vMFrzaCERmJfrF4H2FYD4KCoNkY11McCe8BenwNYB").get (by decide +kernel)

def pyusdMint : Address :=
  (Address.read? "2b1kV6DkPAnxd5ixfnxCpjxmKwqjjaYmCZfHsFu24GXo").get (by decide +kernel)

def table : List Currency :=
  [ coin .mainnet,
    coin .devnet,
    dollar "USDC" .mainnet usdcMint .spl,
    dollar "USDC" .devnet usdcDevnetMint .spl,
    dollar "USDT" .mainnet usdtMint .spl,
    dollar "PYUSD" .mainnet pyusdMint .token2022 ]

def all (cluster : Cluster) : List Currency := table.filter (·.cluster == cluster)

/-- The currency of a symbol; case and blanks around do not matter. -/
def lookup? (cluster : Cluster) (symbol : String) : Option Currency :=
  table.find? fun currency =>
    currency.cluster == cluster && equalIgnoringCase currency.symbol (trimmed symbol)

def mint? (currency : Currency) : Option Address := currency.token.map (·.mint)

def isNative (currency : Currency) : Bool := currency.token.isNone

def asset (currency : Currency) : Asset :=
  ⟨currency.symbol, currency.places, currency.mint?.map Address.text⟩

def tokenOfMint? (cluster : Cluster) (mint : Address) : Option Token :=
  (all cluster).findSome? fun currency => currency.token.filter (·.mint == mint)

end Currency
end PayBridge.Solana
