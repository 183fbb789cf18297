import PayBridge.Json.Basic
import PayBridge.Payment.Amount
import PayBridge.Payment.Memo

/-! Payment requests: who is paid how much in which asset, and the memo by which the payment is found. A
request never changes; its amount in minor units is fixed when it is made. -/
namespace PayBridge

/-- What is paid with: a symbol, the decimal places of the amount on the ledger, and the mint of a token.
The ledger's own coin has no mint. -/
structure Asset where
  symbol : String
  places : Nat
  mint : Option String
  deriving DecidableEq, Repr

structure PaymentRequest where
  recipient : String
  amount : Decimal
  currency : String
  minorUnits : Nat
  mint : Option String
  memo : Memo
  qrPayload : String
  deriving DecidableEq, Repr

namespace PaymentRequest

def draft (recipient : String) (amount : Decimal) (asset : Asset) (memo : Memo) (minorUnits : Nat) :
    PaymentRequest where
  recipient
  amount := amount.normalize
  currency := asset.symbol
  minorUnits
  mint := asset.mint
  memo
  qrPayload := ""

/-- Makes a request. `encode` writes its payload, seeing all the rest of it. -/
def make (recipient : String) (amount : Decimal) (asset : Asset) (memo : Memo)
    (encode : PaymentRequest → String) : Except Amount.Error PaymentRequest := do
  let minorUnits ← Amount.minorUnits amount asset.places
  let request := draft recipient amount asset memo minorUnits
  pure { request with qrPayload := encode request }

def isNative (request : PaymentRequest) : Bool := request.mint.isNone

def toJson (request : PaymentRequest) : Json := .object [
  ("amount", .string request.amount.text),
  ("amountMinorUnits", .ofNat request.minorUnits),
  ("currency", .string request.currency),
  ("memo", .string request.memo.text),
  ("qrPayload", .string request.qrPayload),
  ("recipient", .string request.recipient),
  ("tokenMint", (request.mint.map .string).getD .null)]

end PaymentRequest
end PayBridge
