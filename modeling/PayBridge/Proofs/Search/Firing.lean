import PayBridge.Search.Poller

/-! One firing of a polling loop at a time. The loop fires when its clock says so, but what a firing does
never depends on the clock, so other things may happen between any two of them. Letting time pass is a
number of firings, and then the clock is set. -/
namespace PayBridge

namespace Search
variable {search : Search} {page : Page} {signature : String}

theorem observe_memo (search : Search) (page : Page) : (search.observe page).1.memo = search.memo := by
  unfold observe
  split <;> rfl

theorem observe_outcome (undecided : search.outcome = none)
    (goesOn : (search.observe page).2.isTerminal = false) :
    (search.observe page).1.outcome = none := by
  simp only [observe, undecided] at goesOn ⊢
  simp only [goesOn, Bool.false_eq_true, ↓reduceIte]

theorem observe_confirmed (undecided : search.outcome = none)
    (confirmed : (search.observe page).2 = .confirmed signature) :
    ∃ found entry, page = .entries found ∧ entry ∈ found ∧ entry.signature = signature ∧
      entry.carries search.memo = true := by
  simp only [observe, undecided, judge] at confirmed
  split at confirmed
  · rename_i entry matched
    cases page with
    | failure reason => cases matched
    | entries found =>
      cases confirmed
      simp only [match?] at matched
      have carries := List.find?_some matched
      exact ⟨found, entry, rfl, List.mem_of_find?_eq_some matched, rfl, carries⟩
  · split at confirmed <;> cases confirmed

end Search

namespace PollLoop

/-- What a firing can do: end the delay, begin a fetch, judge a page and go on, judge the last one, or
find that the source has ended the loop. -/
inductive Fires (source : Source) (asked : Nat) (loop : PollLoop) : PollStep → Prop where
  | delayed {time : Nat} (stage : loop.stage = .grace time) :
      Fires source asked loop ⟨some { loop with stage := .waiting (time + loop.period) }, asked, []⟩
  | fetches {tick : Nat} (stage : loop.stage = .waiting tick) :
      Fires source asked loop ⟨some { loop with
        stage := .fetching (tick + (source asked).delay) (source asked).answer (tick + loop.period) },
        asked + 1, [.fetched tick loop.limit]⟩
  | goesOn {time nextTick : Nat} {page : Page} (stage : loop.stage = .fetching time (.page page) nextTick)
      (undecided : (loop.search.observe page).2.isTerminal = false) :
      Fires source asked loop ⟨some { loop with
        search := (loop.search.observe page).1, stage := .waiting (max nextTick time) },
        asked, [.reported time (loop.search.observe page).2]⟩
  | ends {time nextTick : Nat} {page : Page} (stage : loop.stage = .fetching time (.page page) nextTick)
      (decided : (loop.search.observe page).2.isTerminal = true) :
      Fires source asked loop ⟨none, asked, [.reported time (loop.search.observe page).2]⟩
  | dies {time nextTick : Nat} (stage : loop.stage = .fetching time .death nextTick) :
      Fires source asked loop ⟨none, asked, [.died time]⟩

theorem fire_fires (source : Source) (asked : Nat) (loop : PollLoop) :
    Fires source asked loop (loop.fire source asked) := by
  cases stage : loop.stage with
  | grace time =>
    simp only [fire, stage]
    exact .delayed stage
  | waiting tick =>
    simp only [fire, stage]
    exact .fetches stage
  | fetching time answer nextTick =>
    simp only [fire, stage]
    cases answer with
    | death => exact .dies stage
    | page page =>
      cases decided : (loop.search.observe page).2.isTerminal with
      | false =>
        simp only [receive, decided]
        exact .goesOn stage decided
      | true =>
        simp only [receive, decided]
        exact .ends stage decided

theorem Fires.search {source : Source} {asked : Nat} {loop following : PollLoop} {step : PollStep}
    (fires : Fires source asked loop step) (goesOn : step.loop = some following)
    (undecided : loop.search.outcome = none) :
    following.search.memo = loop.search.memo ∧ following.search.outcome = none := by
  cases fires with
  | delayed | fetches =>
    cases goesOn
    exact ⟨rfl, undecided⟩
  | goesOn _ pending =>
    cases goesOn
    exact ⟨Search.observe_memo .., Search.observe_outcome undecided pending⟩
  | ends | dies => cases goesOn

end PollLoop

namespace Poller

def fire (poller : Poller) (source : Source) : Poller × List PollEffect :=
  match poller.loop with
  | none => (poller, [])
  | some loop =>
    let step := loop.fire source poller.asked
    ({ poller with asked := step.asked, loop := step.loop }, step.effects)

def wait (poller : Poller) (duration : Nat) : Poller := { poller with now := poller.now + duration }

/-- Fires the loop a number of times, and tells all that was shown. -/
def fires (source : Source) : Nat → Poller → Poller × List PollEffect
  | 0, poller => (poller, [])
  | n + 1, poller =>
    let first := poller.fire source
    let rest := fires source n first.1
    (rest.1, first.2 ++ rest.2)

theorem runSteps_fires (source : Source) (before : Option Nat) (now bound asked : Nat) (loop : PollLoop) :
    ∃ n, fires source n ⟨now, asked, some loop⟩ =
      (⟨now, (loop.runSteps source before bound asked).asked,
        (loop.runSteps source before bound asked).loop⟩,
        (loop.runSteps source before bound asked).effects) := by
  induction bound generalizing asked loop with
  | zero => exact ⟨0, rfl⟩
  | succ bound ih =>
    simp only [PollLoop.runSteps]
    cases due : loop.isDue before with
    | false => exact ⟨0, rfl⟩
    | true =>
      cases fired : (loop.fire source asked).loop with
      | none =>
        refine ⟨1, ?_⟩
        simp only [fires, fire, ↓reduceIte, fired, List.append_nil]
      | some following =>
        obtain ⟨n, rest⟩ := ih (loop.fire source asked).asked following
        refine ⟨n + 1, ?_⟩
        simp only [fires, fire, ↓reduceIte, fired, rest]

/-- Letting time pass fires the loop some number of times and sets the clock. -/
theorem advance_fires (poller : Poller) (source : Source) (duration : Nat) :
    ∃ n, poller.advance source duration =
      ((fires source n poller).1.wait duration, (fires source n poller).2) := by
  obtain ⟨now, asked, loop⟩ := poller
  cases loop with
  | none => exact ⟨0, rfl⟩
  | some loop =>
    obtain ⟨n, fired⟩ := runSteps_fires source (some (now + duration + 1)) now
      (loop.stepsLeft + 1) asked loop
    refine ⟨n, ?_⟩
    simp only [advance, fired, PollLoop.run, wait]

end Poller
end PayBridge
