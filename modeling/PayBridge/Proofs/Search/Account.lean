import PayBridge.Proofs.Search.Observing

/-! What a polling loop owes to its search. As far as it has come it has told the findings on the pages it
fetched, in order, all but one at most, and it ends where the search does, or with its source. -/
namespace PayBridge

def PollEffect.finding? : PollEffect → Option Finding
  | .reported _ finding => some finding
  | _ => none

def PollEffect.answer? (answer : Answer) : PollEffect → Option Answer
  | .fetched _ _ => some answer
  | _ => none

def Stage.pending : Stage → List Answer
  | .fetching _ answer _ => [answer]
  | _ => []

namespace PollLoop

def told (shown : List PollEffect) : List Finding := shown.filterMap PollEffect.finding?

theorem told_append (first rest : List PollEffect) : told (first ++ rest) = told first ++ told rest :=
  List.filterMap_append

theorem mem_told {shown : List PollEffect} {finding : Finding} :
    finding ∈ told shown ↔ ∃ time, .reported time finding ∈ shown := by
  refine List.mem_filterMap.trans ⟨?_, fun ⟨time, member⟩ => ⟨_, member, rfl⟩⟩
  rintro ⟨effect, member, tells⟩
  cases effect with
  | reported time =>
    cases tells
    exact ⟨time, member⟩
  | fetched | died => cases tells

/-- What a loop owes to its search, told by what it has shown and how its fetches were answered: it has told
of every page but one at most, and ends with the last finding. -/
structure Accounts (memo : Memo) (schedule : Schedule) (shown : List PollEffect) (answers : List Answer)
    (pages : List Page) (pending : List Answer) : Prop where
  told : told shown = (Search.start memo schedule.maxAttempts).observeAll pages
  single : pending.length ≤ 1
  granted : answers.length ≤ schedule.budget
  undecided : ∀ finding ∈ (PollLoop.told shown).dropLast, finding.isTerminal = false
  answered : answers = pages.map .page ++ pending

/-- What holds of a loop that goes on: its search has judged the pages told of, and is not decided. -/
structure Works (memo : Memo) (schedule : Schedule) (shown : List PollEffect) (answers : List Answer)
    (pages : List Page) (loop : PollLoop) : Prop where
  search : loop.search = (Search.start memo schedule.maxAttempts).after pages
  pending : loop.search.IsPending
  attempt : loop.search.attempt = pages.length
  budget : loop.search.budget = schedule.budget
  told : told shown = (Search.start memo schedule.maxAttempts).observeAll pages
  undecided : ∀ finding ∈ PollLoop.told shown, finding.isTerminal = false
  survives : ∀ time, .died time ∉ shown
  answered : answers = pages.map .page ++ loop.stage.pending

/-- The loop has shown its end: the last finding, or that its source ended it. -/
def Ended (shown : List PollEffect) : Prop :=
  (∃ finding ∈ told shown, finding.isTerminal = true) ∨ ∃ time, .died time ∈ shown

variable {memo : Memo} {schedule : Schedule} {shown : List PollEffect} {answers : List Answer}
  {pages : List Page} {loop following : PollLoop} {source : Source} {asked : Nat} {step : PollStep}

theorem Works.not_ended (works : Works memo schedule shown answers pages loop) : ¬ Ended shown := by
  rintro (⟨finding, member, last⟩ | ⟨time, died⟩)
  · exact absurd ((works.undecided finding member).symm.trans last) (by decide)
  · exact works.survives time died

theorem Ended.mono (ended : Ended shown) (more : List PollEffect) : Ended (shown ++ more) := by
  rcases ended with ⟨finding, member, last⟩ | ⟨time, died⟩
  · refine .inl ⟨finding, ?_, last⟩
    rw [told_append]
    exact List.mem_append_left _ member
  · exact .inr ⟨time, List.mem_append_left _ died⟩

theorem Works.accounts (works : Works memo schedule shown answers pages loop) :
    Accounts memo schedule shown answers pages loop.stage.pending := by
  have single : loop.stage.pending.length ≤ 1 := by
    cases loop.stage <;> simp [Stage.pending]
  refine ⟨works.told, single, ?_, fun finding member => ?_, works.answered⟩
  · have left := works.pending.left
    rw [works.attempt, works.budget] at left
    rw [works.answered, List.length_append, List.length_map]
    omega
  · exact works.undecided finding (List.dropLast_subset _ member)

/-- The findings told so far and the one on the page that is judged next. -/
theorem Works.told_next (works : Works memo schedule shown answers pages loop) (time : Nat) (page : Page) :
    PollLoop.told (shown ++ [.reported time (loop.search.observe page).2]) =
      (Search.start memo schedule.maxAttempts).observeAll (pages ++ [page]) := by
  rw [told_append, works.told, Search.observeAll_append, ← works.search]
  rfl

theorem Works.survives_next (works : Works memo schedule shown answers pages loop) (finding : Finding)
    (time : Nat) : ∀ other, PollEffect.died other ∉ shown ++ [.reported time finding] := by
  intro other member
  rcases List.mem_append.mp member with before | now
  · exact works.survives other before
  · cases List.mem_singleton.mp now

theorem Works.goesOn (works : Works memo schedule shown answers pages loop)
    (fired : loop.Fires source asked step) (goesOn : step.loop = some following) :
    ∃ judged, Works memo schedule (shown ++ step.effects)
      (answers ++ step.effects.filterMap (PollEffect.answer? (source asked).answer)) judged following := by
  have answered := works.answered
  cases fired with
  | delayed stage =>
    cases goesOn
    rw [stage] at answered
    simp only [List.filterMap_nil, List.append_nil]
    exact ⟨pages, works.search, works.pending, works.attempt, works.budget, works.told, works.undecided,
      works.survives, answered⟩
  | @fetches tick stage =>
    cases goesOn
    rw [stage] at answered
    have same : PollLoop.told (shown ++ [.fetched tick loop.limit]) = PollLoop.told shown := by
      rw [told_append]
      exact List.append_nil _
    refine ⟨pages, works.search, works.pending, works.attempt, works.budget, ?_, ?_, ?_, ?_⟩
    · rw [same, works.told]
    · rw [same]
      exact works.undecided
    · intro time member
      rcases List.mem_append.mp member with before | now
      · exact works.survives time before
      · cases List.mem_singleton.mp now
    · simp only [answered, Stage.pending, List.append_nil]
      rfl
  | @goesOn time nextTick page stage more =>
    cases goesOn
    rw [stage] at answered
    obtain ⟨pending, counted, granted⟩ := works.pending.observe more
    refine ⟨pages ++ [page], ?_, pending, ?_, granted.trans works.budget, works.told_next time page, ?_,
      works.survives_next _ time, ?_⟩
    · rw [Search.after_append, ← works.search]
      rfl
    · rw [counted, works.attempt, List.length_append, List.length_singleton]
    · rw [told_append]
      exact List.forall_mem_append.mpr ⟨works.undecided, List.forall_mem_singleton.mpr more⟩
    · simp only [answered, Stage.pending, List.map_append, List.map_cons, List.map_nil, List.append_nil]
      exact List.append_nil _
  | ends | dies => cases goesOn

/-- A loop that does not go on after a firing has shown its end, and owes nothing. -/
theorem Works.ends (works : Works memo schedule shown answers pages loop)
    (fired : loop.Fires source asked step) (ends : step.loop = none) :
    Ended (shown ++ step.effects) ∧ ∃ judged pending, Accounts memo schedule (shown ++ step.effects)
      (answers ++ step.effects.filterMap (PollEffect.answer? (source asked).answer)) judged pending := by
  have accounts := works.accounts
  cases fired with
  | delayed | fetches | goesOn => cases ends
  | @ends time nextTick page stage decided =>
    rw [stage] at accounts
    refine ⟨.inl ⟨(loop.search.observe page).2, ?_, decided⟩, pages ++ [page], [],
      works.told_next time page, Nat.zero_le 1, ?_, ?_, ?_⟩
    · rw [told_append]
      exact List.mem_append_right _ (List.mem_singleton.mpr rfl)
    · exact (congrArg (List.length · ≤ schedule.budget) (List.append_nil answers)).mpr accounts.granted
    · have last : PollLoop.told [.reported time (loop.search.observe page).2] =
          [(loop.search.observe page).2] := rfl
      rw [told_append, last, List.dropLast_concat]
      exact works.undecided
    · rw [List.map_append, List.append_nil]
      exact (List.append_nil _).trans accounts.answered
  | @dies time nextTick stage =>
    rw [stage] at accounts
    have same : PollLoop.told (shown ++ [.died time]) = PollLoop.told shown := by
      rw [told_append]
      exact List.append_nil _
    refine ⟨.inr ⟨time, List.mem_append_right _ (List.mem_singleton.mpr rfl)⟩, pages, [.death], ?_,
      Nat.le_refl 1, ?_, ?_, ?_⟩
    · rw [same, works.told]
    · exact (congrArg (List.length · ≤ schedule.budget) (List.append_nil answers)).mpr accounts.granted
    · rw [same]
      exact accounts.undecided
    · exact (List.append_nil _).trans accounts.answered

end PollLoop
end PayBridge
