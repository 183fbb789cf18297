import PayBridge.Host.Channel
import PayBridge.Payment.Amount

/-! Connecting a wallet, one attempt at a time. A connected wallet is not a payment: the flow goes on
until the host page reports how the transaction went. With request ids an answer that names another
attempt is ignored. -/
namespace PayBridge

inductive Handshake.State where
  | idle
  | connecting (walletName : String) (requestId : Option String)
  | processing (walletName : String) (accounts : List String)
  | completed (signature : String)
  deriving DecidableEq, Repr

/-- Whether the host page owes an answer. -/
def Handshake.State.isInFlight : Handshake.State → Bool
  | .connecting _ _ => true
  | .processing _ _ => true
  | _ => false

inductive Handshake.Event where
  | ignored
  | failed (walletName error : String)
  | connected (walletName : String) (accounts : List String)
  | paid (signature : String)
  | paymentFailed (error : String)
  deriving DecidableEq, Repr

inductive Handshake.Error where
  | inFlight
  | noOriginContext
  | invalidAmount (cause : Amount.Error)
  | send (cause : Channel.SendError)
  deriving DecidableEq, Repr

def Handshake.Error.message : Handshake.Error → String
  | .inFlight => "a wallet connection is already in progress"
  | .noOriginContext => "no parent origin to send the connect request to"
  | .invalidAmount cause => "invalid amount: " ++ cause.message
  | .send cause => cause.message

-- The number of ids issued is not cut to a word: 64 bits hold it for fewer than `2 ^ 64` requests.
structure Handshake where
  state : Handshake.State
  usesRequestIds : Bool
  issued : Nat
  deriving DecidableEq, Repr

namespace Handshake

def start (usesRequestIds : Bool) : Handshake := ⟨.idle, usesRequestIds, 0⟩

def connectFailureText : String := "Wallet connection failed"

def paymentFailureText : String := "Payment failed"

def issueId (flow : Handshake) : Option String × Handshake :=
  if flow.usesRequestIds then
    (some ("connect-" ++ toString (flow.issued + 1)), { flow with issued := flow.issued + 1 })
  else (none, flow)

/-- What the user wants paid with a wallet: an amount typed in, else the one asked for. -/
structure WalletOrder where
  walletName : String
  typedAmount : Option String
  amount : Decimal
  currency : String

def WalletOrder.amountToPay (order : WalletOrder) : Except Amount.Error Decimal :=
  match order.typedAmount with
  | some typed => Amount.parse typed
  | none => .ok order.amount

/-- Opens an attempt: the flow afterwards, and the request that was posted. A refused request has used up
its id and left the rest as it was. -/
def request (flow : Handshake) (channel : Channel) (port : Port) (order : WalletOrder) :
    Handshake × Except Handshake.Error Posting :=
  if flow.state.isInFlight then (flow, .error .inFlight)
  else if channel.target?.isNone then (flow, .error .noOriginContext)
  else match order.amountToPay with
    | .error cause => (flow, .error (.invalidAmount cause))
    | .ok amount =>
      let (requestId, flow) := flow.issueId
      let message := Message.walletConnect
        { walletName := order.walletName, amount, currency := order.currency, requestId }
      match channel.send port message with
      | .error cause => (flow, .error (.send cause))
      | .ok posting => ({ flow with state := .connecting order.walletName requestId }, .ok posting)

/-- Whether an answer may belong to the attempt: only two ids that differ tell them apart. -/
def belongs (sent received : Option String) : Bool :=
  match sent, received with
  | some sent, some received => sent == received
  | _, _ => true

def applyResult (flow : Handshake) (result : WalletConnectResult) : Handshake × Handshake.Event :=
  match flow.state with
  | .connecting walletName requestId =>
    if !belongs requestId result.requestId then (flow, .ignored)
    else if result.success then
      let accounts := result.accounts.getD []
      ({ flow with state := .processing walletName accounts }, .connected walletName accounts)
    else ({ flow with state := .idle }, .failed walletName (result.error.getD connectFailureText))
  | _ => (flow, .ignored)

def apply (flow : Handshake) : Message → Handshake × Handshake.Event
  | .walletConnectResult result => flow.applyResult result
  | .paymentSuccess signature =>
    if flow.state.isInFlight then ({ flow with state := .completed signature }, .paid signature)
    else (flow, .ignored)
  | .paymentError error =>
    if flow.state.isInFlight then
      ({ flow with state := .idle }, .paymentFailed (error.getD paymentFailureText))
    else (flow, .ignored)
  | .walletConnect _ => (flow, .ignored)

def reset (flow : Handshake) : Handshake := { flow with state := .idle }

end Handshake
end PayBridge
