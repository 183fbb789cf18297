import PayBridge.Search.Basic
import PayBridge.Search.Schedule

/-! Polling in time. A poller runs one loop at most: it waits for the grace delay, then fetches a page at
every tick and judges it. A fetch that outlasts the next tick makes that tick due when the fetch ends, and
the ticks after it count from there. Stopping a loop drops whatever it waits for, a fetch in flight too.
Time is given in milliseconds and passes in `advance` only. -/
namespace PayBridge

/-- How a source answers one fetch: with a page, or by ending the loop. -/
inductive Answer where
  | page (page : Page)
  | death
  deriving DecidableEq, Repr

structure Reply where
  delay : Nat
  answer : Answer
  deriving DecidableEq, Repr

/-- The replies of a source, by the number of fetches before. -/
abbrev Source := Nat → Reply

/-- The source of a script of replies, followed by empty pages that come at once. -/
def Source.ofScript (script : List Reply) : Source := fun asked =>
  script.getD asked ⟨0, .page (.entries [])⟩

inductive Stage where
  | grace (time : Nat)
  | waiting (tick : Nat)
  | fetching (time : Nat) (answer : Answer) (nextTick : Nat)
  deriving DecidableEq, Repr

def Stage.due : Stage → Nat
  | .grace time => time
  | .waiting tick => tick
  | .fetching time _ _ => time

structure PollLoop where
  stage : Stage
  search : Search
  period : Nat
  limit : Nat
  deriving DecidableEq, Repr

/-- What a loop shows outside: a fetch that begins, a finding, or that its source ended it. -/
inductive PollEffect where
  | fetched (time limit : Nat)
  | reported (time : Nat) (finding : Finding)
  | died (time : Nat)
  deriving DecidableEq, Repr

/-- One step of a loop: the loop if it goes on, how many fetches it began, and what it showed. -/
structure PollStep where
  loop : Option PollLoop
  asked : Nat
  effects : List PollEffect

namespace PollLoop

def start (now : Nat) (memo : Memo) (schedule : Schedule) : PollLoop where
  stage := .grace (now + schedule.graceDelay)
  search := Search.start memo schedule.maxAttempts
  period := schedule.period
  limit := schedule.signatureLimit

/-- Judges the answer of a fetch that ends at `time`. -/
def receive (loop : PollLoop) (time nextTick : Nat) : Answer → Option PollLoop × List PollEffect
  | .death => (none, [.died time])
  | .page page =>
    let (search, finding) := loop.search.observe page
    let next := { loop with search, stage := .waiting (max nextTick time) }
    (if finding.isTerminal then none else some next, [.reported time finding])

def fire (source : Source) (asked : Nat) (loop : PollLoop) : PollStep :=
  match loop.stage with
  | .grace time => ⟨some { loop with stage := .waiting (time + loop.period) }, asked, []⟩
  | .waiting tick =>
    let reply := source asked
    let stage := .fetching (tick + reply.delay) reply.answer (tick + loop.period)
    ⟨some { loop with stage }, asked + 1, [.fetched tick loop.limit]⟩
  | .fetching time answer nextTick =>
    let (next, effects) := loop.receive time nextTick answer
    ⟨next, asked, effects⟩

/-- A bound on the steps that are left: two for every look, and one for the grace delay. -/
def stepsLeft (loop : PollLoop) : Nat :=
  let looks := loop.search.budget - loop.search.attempt
  match loop.stage with
  | .grace _ => 2 * looks + 2
  | .waiting _ => 2 * looks + 1
  | .fetching _ _ _ => 2 * looks

/-- Whether the waiting ends before a time; without one it always does. -/
def isDue (before : Option Nat) (loop : PollLoop) : Bool := before.all (loop.stage.due < ·)

/-- Fires what is due before a time, with a bound on the steps. -/
def runSteps (source : Source) (before : Option Nat) : Nat → Nat → PollLoop → PollStep
  | 0, asked, loop => ⟨some loop, asked, []⟩
  | bound + 1, asked, loop =>
    if loop.isDue before then
      let step := loop.fire source asked
      match step.loop with
      | none => step
      | some next =>
        let rest := runSteps source before bound step.asked next
        ⟨rest.loop, rest.asked, step.effects ++ rest.effects⟩
    else ⟨some loop, asked, []⟩

def run (source : Source) (before : Option Nat) (asked : Nat) (loop : PollLoop) : PollStep :=
  loop.runSteps source before (loop.stepsLeft + 1) asked

end PollLoop

structure Poller where
  now : Nat
  asked : Nat
  loop : Option PollLoop
  deriving DecidableEq, Repr

namespace Poller

def idle : Poller := ⟨0, 0, none⟩

def isRunning (poller : Poller) : Bool := poller.loop.isSome

def start (poller : Poller) (memo : Memo) (schedule : Schedule) : Poller :=
  { poller with loop := some (PollLoop.start poller.now memo schedule) }

def stop (poller : Poller) : Poller := { poller with loop := none }

def advance (poller : Poller) (source : Source) (duration : Nat) : Poller × List PollEffect :=
  let time := poller.now + duration
  match poller.loop with
  | none => ({ poller with now := time }, [])
  | some loop =>
    let step := loop.run source (some (time + 1)) poller.asked
    (⟨time, step.asked, step.loop⟩, step.effects)

def debugText (poller : Poller) : String :=
  "ConfirmationPoller \x7b running: " ++ toString poller.isRunning ++ " \x7d"

end Poller
end PayBridge
