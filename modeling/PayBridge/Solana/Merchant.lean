import PayBridge.Solana.TokenAccount
import PayBridge.Url.FormEncoded
import PayBridge.Url.Rootless

/-! Payment requests of a cluster. Their payload is an address of the scheme `solana`, whose query names
amount, mint, memo, and what wallets show. Here is also told where a payment will be seen. -/
namespace PayBridge.Solana

/-- What all requests of a merchant share: the cluster, the lead of memos, and the texts that wallets
show. -/
structure Merchant where
  cluster : Cluster
  memoLead : String
  label : Option String
  message : Option String
  deriving DecidableEq, Repr

inductive BuildError where
  | unsupportedCurrency (cause : UnsupportedCurrency)
  | invalidRecipient (cause : InvalidAddress)
  | invalidAmount (cause : Amount.Error)
  deriving DecidableEq, Repr

def BuildError.message : BuildError → String
  | .unsupportedCurrency cause => cause.message
  | .invalidRecipient cause => "invalid recipient: " ++ cause.message
  | .invalidAmount cause => "invalid amount: " ++ cause.message

inductive PlaceError where
  | invalidAddress (cause : InvalidAddress)
  | unsupportedCurrency (cause : UnsupportedCurrency)
  deriving DecidableEq, Repr

def PlaceError.message : PlaceError → String
  | .invalidAddress cause => cause.message
  | .unsupportedCurrency cause => cause.message

namespace Merchant

def ofCluster (cluster : Cluster) : Merchant := ⟨cluster, Memo.defaultLead, none, none⟩

def query (merchant : Merchant) (request : PaymentRequest) : List (String × String) :=
  ("amount", request.amount.text) ::
    (request.mint.map fun mint => ("spl-token", mint)).toList ++
    ("memo", request.memo.text) ::
    (merchant.label.map fun label => ("label", label)).toList ++
    (merchant.message.map fun message => ("message", message)).toList

/-- The address that a request is paid at; if it cannot be read, nothing is asked for in it. -/
def uri (merchant : Merchant) (request : PaymentRequest) : String :=
  let base := "solana:" ++ request.recipient
  match Url.Rootless.read? base.toList with
  | none => base
  | some address => String.ofList (address.text ++ '?' :: Url.FormEncoded.encode (merchant.query request))

def build (merchant : Merchant) (sequence random : Nat) (recipient : String) (amount : Decimal)
    (symbol : String) : Except BuildError PaymentRequest := do
  let some currency := Currency.lookup? merchant.cluster symbol
    | throw (.unsupportedCurrency ⟨symbol, merchant.cluster⟩)
  let recipient ← (Address.read recipient).mapError .invalidRecipient
  (PaymentRequest.make recipient.text amount currency.asset
    (Memo.ofNumbers merchant.memoLead sequence random) merchant.uri).mapError .invalidAmount

end Merchant

/-- Where a payment is seen on a cluster: at the recipient's address, or at its account for the token. -/
def watchAddress (request : PaymentRequest) (cluster : Cluster) : Except PlaceError Address := do
  let recipient ← (Address.read request.recipient).mapError .invalidAddress
  match request.mint with
  | none => pure recipient
  | some mint =>
    let mint ← (Address.read mint).mapError .invalidAddress
    match Currency.tokenOfMint? cluster mint with
    | none => throw (.unsupportedCurrency ⟨request.currency, cluster⟩)
    | some token => pure (TokenAccount.address recipient mint token.program)

end PayBridge.Solana
