import PayBridge.Search.Basic
import PayBridge.Text.Quoted

/-! What a payment looks like from outside: the phase it is in, and how it failed. -/
namespace PayBridge

inductive Session.Failure where
  | connectFailed (walletName reason : String)
  | paymentFailed (reason : String)
  | timeout (attempts : Nat)
  deriving DecidableEq, Repr

def Session.Failure.message : Session.Failure → String
  | .connectFailed walletName reason => walletName ++ ": " ++ reason
  | .paymentFailed reason => reason
  | .timeout attempts => "payment not detected after " ++ toString attempts ++ " checks"

/-- The phase of a payment; while scanning, what the last look said. -/
inductive Phase where
  | idle
  | scanning (status : Option String)
  | connecting (walletName : String)
  | processing (walletName : String)
  | success (signature : String)
  | error (failure : Session.Failure)
  deriving DecidableEq, Repr

namespace Phase

def isTerminal : Phase → Bool
  | .success _ => true
  | .error _ => true
  | _ => false

def ofFinding : Finding → Phase
  | .status text => .scanning (some text)
  | .confirmed signature => .success signature
  | .timedOut attempts => .error (.timeout attempts)

end Phase

/-! Developers see phases by name, with named parts in braces. -/

def debugRecord (name : String) (parts : List (String × String)) : String :=
  name ++ " \x7b " ++ String.intercalate ", " (parts.map fun part => part.1 ++ ": " ++ part.2) ++ " \x7d"

def debugOption : Option String → String
  | none => "None"
  | some text => "Some(" ++ Text.quoted text ++ ")"

def Session.Failure.debugText : Session.Failure → String
  | .connectFailed walletName reason =>
    debugRecord "ConnectFailed"
      [("wallet_name", Text.quoted walletName), ("message", Text.quoted reason)]
  | .paymentFailed reason => debugRecord "PaymentFailed" [("message", Text.quoted reason)]
  | .timeout attempts => debugRecord "Timeout" [("attempts", toString attempts)]

def Phase.debugText : Phase → String
  | .idle => "Idle"
  | .scanning status => debugRecord "Scanning" [("status", debugOption status)]
  | .connecting walletName => debugRecord "Connecting" [("wallet_name", Text.quoted walletName)]
  | .processing walletName => debugRecord "Processing" [("wallet_name", Text.quoted walletName)]
  | .success signature => debugRecord "Success" [("signature", Text.quoted signature)]
  | .error failure => "Error(" ++ failure.debugText ++ ")"

end PayBridge
