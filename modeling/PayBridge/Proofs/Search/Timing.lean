import Mathlib.Data.List.Induction
import Mathlib.Data.List.Pairwise
import PayBridge.Proofs.Search.Observing

/-! When a polling loop looks at the ledger, and what it shows if nobody stops it. A look begins a period after the
one before it, or as soon as that one is answered if its answer takes longer. A loop that is stopped at some time
shows what it would have shown before that time. -/
namespace PayBridge

def PollEffect.time : PollEffect → Nat
  | .fetched time _ => time
  | .reported time _ => time
  | .died time => time

/-- Nothing of what is shown at some time or later comes before it. -/
theorem PollEffect.takeWhile_late {effects : List PollEffect} {stop : Nat}
    (late : ∀ effect ∈ effects, stop ≤ effect.time) : effects.takeWhile (·.time < stop) = [] := by
  cases effects with
  | nil => rfl
  | cons effect rest =>
    refine List.takeWhile_cons_of_neg ?_
    rw [decide_eq_true_eq]
    exact Nat.not_lt.mpr (late effect List.mem_cons_self)

namespace PollLoop
variable {source : Source} {asked : Nat} {loop following : PollLoop} {step : PollStep} {before : Option Nat}

/-- A firing shows things at the time it is due, and what follows it is due no earlier. -/
theorem Fires.due (fires : loop.Fires source asked step) :
    (∀ effect ∈ step.effects, effect.time = loop.stage.due) ∧
      ∀ following ∈ step.loop, loop.stage.due ≤ following.stage.due := by
  cases fires with
  | delayed stage =>
    rw [stage]
    refine ⟨nofun, ?_⟩
    rintro _ ⟨⟩
    exact Nat.le_add_right _ _
  | fetches stage =>
    rw [stage]
    refine ⟨List.forall_mem_singleton.mpr rfl, ?_⟩
    rintro _ ⟨⟩
    exact Nat.le_add_right _ _
  | goesOn stage _ =>
    rw [stage]
    refine ⟨List.forall_mem_singleton.mpr rfl, ?_⟩
    rintro _ ⟨⟩
    exact Nat.le_max_right _ _
  | ends stage _ | dies stage =>
    rw [stage]
    exact ⟨List.forall_mem_singleton.mpr rfl, nofun⟩

theorem Fires.ends_shown (fires : loop.Fires source asked step) (ends : step.loop = none) : step.effects ≠ [] := by
  cases fires with
  | delayed | fetches | goesOn => cases ends
  | ends | dies => exact List.cons_ne_nil _ _

/-- A firing that a loop outlives brings it closer to its end. -/
theorem Fires.comesCloser (fires : loop.Fires source asked step) (pending : loop.search.IsPending)
    (goesOn : step.loop = some following) :
    following.search.IsPending ∧ following.stepsLeft < loop.stepsLeft := by
  have left := pending.left
  cases fires with
  | delayed stage | fetches stage =>
    cases goesOn
    refine ⟨pending, ?_⟩
    simp only [stepsLeft, stage]
    omega
  | goesOn stage undecided =>
    cases goesOn
    obtain ⟨still, counted, granted⟩ := pending.observe undecided
    refine ⟨still, ?_⟩
    simp only [stepsLeft, stage, counted, granted]
    omega
  | ends | dies => cases goesOn

/-- Induction on a loop that is not decided: by what its firing leaves. -/
@[elab_as_elim]
theorem pending_induction {motive : (asked : Nat) → (loop : PollLoop) → loop.search.IsPending → Prop}
    (source : Source) (asked : Nat) (loop : PollLoop) (pending : loop.search.IsPending)
    (fires : ∀ asked loop pending, (∀ following ∈ (loop.fire source asked).loop,
      ∃ still, motive (loop.fire source asked).asked following still) → motive asked loop pending) :
    motive asked loop pending := by
  induction bound : loop.stepsLeft using Nat.strongRecOn generalizing asked loop with
  | ind _ ih =>
    refine fires asked loop pending fun following goesOn => ?_
    obtain ⟨still, closer⟩ := (loop.fire_fires source asked).comesCloser pending goesOn
    exact ⟨still, ih _ (bound ▸ closer) _ following still rfl⟩

theorem runSteps_last {bound : Nat} (due : loop.isDue before = true) (ends : (loop.fire source asked).loop = none) :
    loop.runSteps source before (bound + 1) asked = loop.fire source asked := by
  rw [runSteps, if_pos due]
  simp only [ends]

theorem runSteps_next {bound : Nat} (due : loop.isDue before = true)
    (goesOn : (loop.fire source asked).loop = some following) :
    let step := loop.fire source asked
    let rest := following.runSteps source before bound step.asked
    loop.runSteps source before (bound + 1) asked = ⟨rest.loop, rest.asked, step.effects ++ rest.effects⟩ := by
  intro step rest
  rw [runSteps, if_pos due]
  simp only [goesOn]
  rfl

theorem runSteps_enough {bound other : Nat} (pending : loop.search.IsPending) (enough : loop.stepsLeft < bound)
    (alsoEnough : loop.stepsLeft < other) :
    loop.runSteps source before bound asked = loop.runSteps source before other asked := by
  induction bound generalizing other asked loop with
  | zero => exact absurd enough (Nat.not_lt_zero _)
  | succ bound ih =>
    cases other with
    | zero => exact absurd alsoEnough (Nat.not_lt_zero _)
    | succ other =>
      cases due : loop.isDue before with
      | false => rw [runSteps, runSteps, due, if_neg Bool.false_ne_true, if_neg Bool.false_ne_true]
      | true =>
        cases fired : (loop.fire source asked).loop with
        | none => rw [runSteps_last due fired, runSteps_last due fired]
        | some following =>
          obtain ⟨still, closer⟩ := (loop.fire_fires source asked).comesCloser pending fired
          have same : following.runSteps source before bound (loop.fire source asked).asked =
              following.runSteps source before other (loop.fire source asked).asked :=
            ih still (by omega) (by omega)
          rw [runSteps_next due fired, runSteps_next due fired, same]

/-- What a loop shows before a time, with the fetches that were begun before it. -/
def shows (source : Source) (before : Option Nat) (asked : Nat) (loop : PollLoop) : List PollEffect :=
  (loop.run source before asked).effects

/-- What a loop shows is what its firing shows, and then what the loop shows that is left. -/
theorem shows_due (pending : loop.search.IsPending) (due : loop.isDue before = true) :
    loop.shows source before asked = (loop.fire source asked).effects ++
      ((loop.fire source asked).loop.map (·.shows source before (loop.fire source asked).asked)).getD [] := by
  unfold shows run
  cases fired : (loop.fire source asked).loop with
  | none =>
    rw [runSteps_last due fired]
    exact (List.append_nil _).symm
  | some following =>
    obtain ⟨still, closer⟩ := (loop.fire_fires source asked).comesCloser pending fired
    rw [runSteps_next due fired, runSteps_enough still closer (Nat.lt_succ_self _)]
    rfl

theorem shows_not_due (early : loop.isDue before = false) : loop.shows source before asked = [] := by
  unfold shows run
  rw [runSteps, early]
  rfl

theorem due_le_of_mem_shows (pending : loop.search.IsPending) :
    ∀ effect ∈ loop.shows source none asked, loop.stage.due ≤ effect.time := by
  induction asked, loop, pending using pending_induction source with
  | fires asked loop pending ih =>
    obtain ⟨now, later⟩ := (loop.fire_fires source asked).due
    rw [shows_due pending rfl]
    intro effect member
    rcases List.mem_append.mp member with first | rest
    · exact Nat.le_of_eq (now effect first).symm
    · cases fired : (loop.fire source asked).loop with
      | none =>
        rw [fired] at rest
        cases rest
      | some following =>
        rw [fired] at rest
        exact Nat.le_trans (later following fired) ((ih following fired).2 effect rest)

theorem shows_ne_nil (pending : loop.search.IsPending) : loop.shows source none asked ≠ [] := by
  induction asked, loop, pending using pending_induction source with
  | fires asked loop pending ih =>
    rw [shows_due pending rfl]
    have fired := loop.fire_fires source asked
    generalize loop.fire source asked = step at fired ih
    cases fired with
    | delayed => exact (ih _ rfl).2
    | fetches | goesOn | ends | dies => exact List.cons_ne_nil _ _

theorem shows_sorted (pending : loop.search.IsPending) :
    (loop.shows source none asked).Pairwise (·.time ≤ ·.time) := by
  induction asked, loop, pending using pending_induction source with
  | fires asked loop pending ih =>
    obtain ⟨now, later⟩ := (loop.fire_fires source asked).due
    have single : (loop.fire source asked).effects.Pairwise (·.time ≤ ·.time) :=
      List.pairwise_of_forall_mem_list fun first member second other =>
        Nat.le_of_eq ((now first member).trans (now second other).symm)
    rw [shows_due pending rfl]
    cases fired : (loop.fire source asked).loop with
    | none => exact (List.append_nil _).symm ▸ single
    | some following =>
      obtain ⟨still, sorted⟩ := ih following fired
      refine List.pairwise_append.mpr ⟨single, sorted, fun first member second rest => ?_⟩
      rw [now first member]
      exact Nat.le_trans (later following fired) (due_le_of_mem_shows still second rest)

/-- Until a time, a loop shows just what it shows undisturbed, as far as it comes before that time. -/
theorem shows_some (pending : loop.search.IsPending) (stop : Nat) :
    loop.shows source (some stop) asked = (loop.shows source none asked).takeWhile (·.time < stop) := by
  induction asked, loop, pending using pending_induction source with
  | fires asked loop pending ih =>
    by_cases due : loop.stage.due < stop
    · have early : ∀ effect ∈ (loop.fire source asked).effects, decide (effect.time < stop) = true := by
        intro effect member
        rw [((loop.fire_fires source asked).due).1 effect member]
        exact decide_eq_true due
      have begins : loop.isDue (some stop) = true := decide_eq_true due
      have always : loop.isDue none = true := rfl
      rw [shows_due pending begins, shows_due pending always, List.takeWhile_append_of_pos early]
      cases fired : (loop.fire source asked).loop with
      | none => rfl
      | some following => exact congrArg _ (ih following fired).2
    · have waits : loop.isDue (some stop) = false := decide_eq_false due
      rw [shows_not_due waits, PollEffect.takeWhile_late]
      exact fun effect member => Nat.le_trans (Nat.le_of_not_lt due) (due_le_of_mem_shows pending effect member)

end PollLoop

def Schedule.lookAt (schedule : Schedule) (source : Source) : Nat → Nat
  | 0 => schedule.graceDelay + schedule.period
  | k + 1 => max (schedule.lookAt source k + schedule.period) (schedule.lookAt source k + (source k).delay)

def Schedule.answeredAt (schedule : Schedule) (source : Source) (k : Nat) : Nat :=
  schedule.lookAt source k + (source k).delay

/-- What is shown of looks with these findings, `k` others before them. -/
def Schedule.looks (schedule : Schedule) (source : Source) (k : Nat) : List Finding → List PollEffect
  | [] => []
  | finding :: rest => .fetched (schedule.lookAt source k) schedule.signatureLimit ::
      .reported (schedule.answeredAt source k) finding :: schedule.looks source (k + 1) rest

def Source.Answers (source : Source) (pages : List Page) : Prop :=
  ∀ k page, pages[k]? = some page → (source k).answer = .page page

variable {source : Source} {memo : Memo} {schedule : Schedule} {pages : List Page} {page : Page}

theorem Source.answers_concat :
    source.Answers (pages ++ [page]) ↔ source.Answers pages ∧ (source pages.length).answer = .page page := by
  constructor
  · intro answers
    refine ⟨fun k other found => answers k other ?_, answers _ page List.getElem?_concat_length⟩
    have inside := (List.getElem?_eq_some_iff.mp found).1
    rw [List.getElem?_append_left inside, found]
  · rintro ⟨earlier, last⟩ k other found
    rcases Nat.lt_trichotomy k pages.length with before | rfl | behind
    · rw [List.getElem?_append_left before] at found
      exact earlier k other found
    · rw [List.getElem?_concat_length] at found
      exact Option.some.inj found ▸ last
    · rw [List.getElem?_eq_none (by rw [List.length_append, List.length_singleton]; omega)] at found
      cases found

theorem Schedule.looks_append (schedule : Schedule) (source : Source) (k : Nat) (first rest : List Finding) :
    schedule.looks source k (first ++ rest) =
      schedule.looks source k first ++ schedule.looks source (k + first.length) rest := by
  induction first generalizing k with
  | nil => rfl
  | cons finding first ih =>
    simp only [List.cons_append, Schedule.looks, ih, List.length_cons, Nat.add_comm first.length,
      Nat.add_assoc]

namespace PollLoop

/-- The loop before the look that follows these pages. -/
def beforeLook (memo : Memo) (schedule : Schedule) (source : Source) (pages : List Page) : PollLoop where
  stage := .waiting (schedule.lookAt source pages.length)
  search := (Search.start memo schedule.maxAttempts).after pages
  period := schedule.period
  limit := schedule.signatureLimit

/-- The loop while the look that follows these pages is answered. -/
def duringLook (memo : Memo) (schedule : Schedule) (source : Source) (pages : List Page) : PollLoop :=
  { beforeLook memo schedule source pages with
    stage := .fetching (schedule.answeredAt source pages.length) (source pages.length).answer
      (schedule.lookAt source pages.length + schedule.period) }

def Undecided (memo : Memo) (schedule : Schedule) (pages : List Page) : Prop :=
  ∀ finding ∈ (Search.start memo schedule.maxAttempts).observeAll pages, finding.isTerminal = false

theorem Undecided.pending (undecided : Undecided memo schedule pages) :
    ((Search.start memo schedule.maxAttempts).after pages).IsPending :=
  ((Search.start_pending memo schedule.maxAttempts).after undecided).1

theorem shows_beforeLook (undecided : Undecided memo schedule pages) :
    (beforeLook memo schedule source pages).shows source none pages.length =
      .fetched (schedule.lookAt source pages.length) schedule.signatureLimit ::
        (duringLook memo schedule source pages).shows source none (pages.length + 1) :=
  shows_due undecided.pending rfl

/-- What firing leaves and shows once a look is answered. -/
theorem fire_duringLook (memo : Memo) (schedule : Schedule) (source : Source) (pages : List Page) (asked : Nat) :
    (duringLook memo schedule source pages).fire source asked =
      match (source pages.length).answer with
      | .death => ⟨none, asked, [.died (schedule.answeredAt source pages.length)]⟩
      | .page page =>
        let finding := (((Search.start memo schedule.maxAttempts).after pages).observe page).2
        ⟨if finding.isTerminal then none else some (beforeLook memo schedule source (pages ++ [page])), asked,
          [.reported (schedule.answeredAt source pages.length) finding]⟩ := by
  simp only [fire, duringLook]
  cases (source pages.length).answer with
  | death => rfl
  | page page =>
    have next : beforeLook memo schedule source (pages ++ [page]) =
        { beforeLook memo schedule source pages with
          search := (((Search.start memo schedule.maxAttempts).after pages).observe page).1
          stage := .waiting (max (schedule.lookAt source pages.length + schedule.period)
            (schedule.answeredAt source pages.length)) } := by
      simp only [beforeLook, List.length_append, List.length_singleton, Search.after_append]
      rfl
    simp only [next]
    rfl

/-- What is shown of a look that is over, and of what follows it. -/
theorem shows_duringLook (undecided : Undecided memo schedule pages) :
    (duringLook memo schedule source pages).shows source none (pages.length + 1) =
      match (source pages.length).answer with
      | .death => [.died (schedule.answeredAt source pages.length)]
      | .page page =>
        let finding := (((Search.start memo schedule.maxAttempts).after pages).observe page).2
        .reported (schedule.answeredAt source pages.length) finding ::
          if finding.isTerminal then []
          else (beforeLook memo schedule source (pages ++ [page])).shows source none (pages.length + 1) := by
  have during : (duringLook memo schedule source pages).search.IsPending := undecided.pending
  rw [shows_due during rfl, fire_duringLook]
  cases (source pages.length).answer with
  | death => rfl
  | page page =>
    simp only
    split <;> rfl

theorem undecided_concat : Undecided memo schedule (pages ++ [page]) ↔ Undecided memo schedule pages ∧
    (((Search.start memo schedule.maxAttempts).after pages).observe page).2.isTerminal = false := by
  unfold Undecided
  rw [Search.observeAll_append, List.forall_mem_append]
  exact and_congr_right' List.forall_mem_singleton

/-- As long as pages decide nothing, a loop shows their looks and goes on. -/
theorem shows_start (answers : source.Answers pages) (undecided : Undecided memo schedule pages) :
    (start 0 memo schedule).shows source none 0 =
      schedule.looks source 0 ((Search.start memo schedule.maxAttempts).observeAll pages) ++
        (beforeLook memo schedule source pages).shows source none pages.length := by
  induction pages using List.reverseRecOn with
  | nil =>
    have fresh : (start 0 memo schedule).search.IsPending := Search.start_pending ..
    rw [shows_due fresh rfl]
    simp only [start, fire, beforeLook, Nat.zero_add]
    rfl
  | append_singleton pages page ih =>
    obtain ⟨earlier, answer⟩ := Source.answers_concat.mp answers
    obtain ⟨before, goesOn⟩ := undecided_concat.mp undecided
    rw [ih earlier before, shows_beforeLook before, shows_duringLook before, answer, Search.observeAll_append,
      Schedule.looks_append, Search.length_observeAll, Nat.zero_add, List.append_assoc, List.length_append]
    simp only [goesOn, Search.observeAll]
    rfl

end PollLoop
end PayBridge
