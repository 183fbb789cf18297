import PayBridge.Search.Poller

/-! Watching the ledger for one payment, from the start until the payment is seen, the looks are used up,
the source ends the polling, or a shutdown comes first. -/
namespace PayBridge.Watch

inductive Outcome where
  | confirmed (signature : String)
  | timedOut (attempts : Nat)
  | cancelled
  deriving DecidableEq, Repr

/-- Only a confirmed payment is a success. -/
def Outcome.isSuccess : Outcome → Bool
  | .confirmed _ => true
  | _ => false

structure Ending where
  outcome : Outcome
  time : Nat
  effects : List PollEffect
  deriving DecidableEq, Repr

def outcomeOf? : PollEffect → Option (Outcome × Nat)
  | .reported time (.confirmed signature) => some (.confirmed signature, time)
  | .reported time (.timedOut attempts) => some (.timedOut attempts, time)
  | .died time => some (.cancelled, time)
  | _ => none

/-- Watches for a memo from time zero on. A loop that is not over at the shutdown is cancelled there;
without a shutdown every loop is over at some time. -/
def run (source : Source) (memo : Memo) (config : Schedule) (shutdown : Option Nat) : Ending :=
  let effects := ((PollLoop.start 0 memo config).run source shutdown 0).effects
  let (outcome, time) := (effects.findSome? outcomeOf?).getD (.cancelled, shutdown.getD 0)
  ⟨outcome, time, effects⟩

end PayBridge.Watch
