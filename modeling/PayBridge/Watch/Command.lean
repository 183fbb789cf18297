import PayBridge.Solana.Ledger
import PayBridge.Watch.VariableFile
import PayBridge.Watch.Ending
import PayBridge.Watch.Settings
import PayBridge.Watch.Usage
import PayBridge.Watch.Verbosity

/-! The command: from the arguments, the environment and the configuration it makes a payment request,
shows it, and watches until the payment is seen. -/
namespace PayBridge.Watch

open PayBridge.Solana (BuildError LedgerWatch Merchant PlaceError)

inductive CommandError where
  | arguments (cause : ArgumentError)
  | config (cause : Settings.Error)
  | amount (cause : Amount.Error)
  | request (cause : BuildError)
  | address (cause : PlaceError)
  | duration (cause : DurationOverflow)
  deriving DecidableEq, Repr

structure Invocation where
  arguments : List String
  environment : Environment
  file : String → FileState
  random : Nat

structure Plan where
  config : Settings
  request : PaymentRequest
  watch : LedgerWatch
  deriving DecidableEq, Repr

namespace Settings

def merchant (config : Settings) : Merchant :=
  ⟨config.cluster, config.memoLead, config.label, config.message⟩

end Settings

namespace Invocation

def verbosity (invocation : Invocation) : Verbosity :=
  .ofFilter (invocation.environment.get? "RUST_LOG")

def settings (invocation : Invocation) : Except CommandError (Settings × Decimal) := do
  let arguments ←
    (Arguments.read invocation.environment invocation.arguments).mapError .arguments
  let config ← (Settings.load invocation.environment.get? arguments.config
    (invocation.file arguments.config)).mapError .config
  let amount ← (Amount.parse arguments.amount).mapError .amount
  pure (config.withArguments arguments, amount)

/-- Makes the request and finds where it will be paid. The longest time that polling can take is
computed only if it is logged. -/
def plan (invocation : Invocation) : Except CommandError Plan := do
  let (config, amount) ← invocation.settings
  let payee ← config.payee.mapError .config
  let request ← (config.merchant.build 0 invocation.random payee amount config.currency).mapError
    .request
  let watch ← (LedgerWatch.ofRequest request config.cluster).mapError .address
  if invocation.verbosity.shows .info then
    let _ ← config.schedule.maxDuration.mapError .duration
  pure ⟨config, request, watch⟩

end Invocation

namespace Plan

def text (plan : Plan) : String :=
  "amount: " ++ plan.request.amount.text ++ " " ++ plan.request.currency ++ "\n" ++
    "memo:   " ++ plan.request.memo.text ++ "\n" ++
    "pay:    " ++ plan.request.qrPayload ++ "\n"

/-- Watches a ledger that answers fetches in turn. -/
def run (plan : Plan) (source : Source) (shutdown : Option Nat) : Ending :=
  Watch.run source plan.request.memo plan.config.schedule shutdown

end Plan

namespace CommandError

def exitStatus : CommandError → Nat
  | .arguments .displayHelp => 0
  | .arguments _ => 2
  | .duration _ => 101
  | _ => 1

def text (environment : Environment) : CommandError → String
  | .arguments .displayHelp => Usage.text environment
  | _ => ""

def message? : CommandError → Option String
  | .arguments _ => none
  | .duration _ => none
  | .config cause => some cause.message
  | .amount cause => some ("invalid amount: " ++ cause.message)
  | .request cause => some cause.message
  | .address cause => some cause.message

end CommandError

def Outcome.exitStatus (outcome : Outcome) : Nat := if outcome.isSuccess then 0 else 1

end PayBridge.Watch
