import PayBridge.Proofs.Search.Firing

/-! A polling task, which outlives the interest in it. Stopping it only marks it: it stays where it waits, for
the delay, a tick or a page, or before it reports the page it has judged, and finds the mark when it is woken
next. It may be woken at any time. -/
namespace PayBridge

def PollEffect.isLast : PollEffect → Bool
  | .reported _ finding => finding.isTerminal
  | _ => false

def PollLoop.awaitsPage (loop : PollLoop) : Bool :=
  match loop.stage with
  | .fetching _ (.page _) _ => true
  | _ => false

/-- Where a task stands: it waits, it has judged a page that it is about to report, or it has ended. -/
inductive PollTask.Work where
  | waiting (loop : PollLoop)
  | judged (loop : PollLoop)
  | finished

def PollTask.Work.loop? : PollTask.Work → Option PollLoop
  | .waiting loop => some loop
  | .judged loop => some loop
  | .finished => none

/-- A task with its source. It looks for the first mark where it waits, and for both before it reports. -/
structure PollTask where
  source : Source
  work : PollTask.Work
  isCancelled : Bool
  isAlive : Bool

/-- What waking a task leaves: the task, how many fetches were begun, and what was shown. -/
structure PollTask.Step where
  task : PollTask
  asked : Nat
  effects : List PollEffect

namespace PollTask

def spawn (now : Nat) (source : Source) (memo : Memo) (schedule : Schedule) : PollTask :=
  ⟨source, .waiting (PollLoop.start now memo schedule), false, true⟩

def cancel (task : PollTask) : PollTask := { task with isCancelled := true, isAlive := false }

/-- Fires the loop of a task. The last report marks the task itself. -/
def fire (task : PollTask) (asked : Nat) (loop : PollLoop) : Step :=
  let step := loop.fire task.source asked
  ⟨{ task with
      work := step.loop.elim .finished .waiting
      isCancelled := task.isCancelled || step.effects.any PollEffect.isLast }, step.asked, step.effects⟩

def wake (task : PollTask) (asked : Nat) : Step :=
  match task.work with
  | .finished => ⟨task, asked, []⟩
  | .waiting loop =>
    if task.isCancelled then ⟨{ task with work := .finished }, asked, []⟩
    else if loop.awaitsPage then ⟨{ task with work := .judged loop }, asked, []⟩
    else task.fire asked loop
  | .judged loop =>
    if !task.isAlive || task.isCancelled then ⟨{ task with work := .finished }, asked, []⟩
    else task.fire asked loop

inductive Wakes (task : PollTask) (asked : Nat) : Step → Prop where
  | rests (finished : task.work = .finished) : Wakes task asked ⟨task, asked, []⟩
  | leaves (marked : task.isCancelled = true ∨ task.isAlive = false) :
      Wakes task asked ⟨{ task with work := .finished }, asked, []⟩
  | judges {loop : PollLoop} (waits : task.work = .waiting loop) :
      Wakes task asked ⟨{ task with work := .judged loop }, asked, []⟩
  | fires {loop : PollLoop} (holds : task.work.loop? = some loop) (free : task.isCancelled = false) :
      Wakes task asked (task.fire asked loop)

theorem wake_wakes (task : PollTask) (asked : Nat) : Wakes task asked (task.wake asked) := by
  unfold wake
  split
  · rename_i finished
    exact .rests finished
  · rename_i loop waits
    split
    · rename_i cancelled
      exact .leaves (.inl cancelled)
    · rename_i free
      split
      · exact .judges waits
      · exact .fires (by rw [waits]; rfl) (Bool.not_eq_true _ ▸ free)
  · rename_i loop judged
    split
    · rename_i marked
      rw [Bool.or_eq_true, Bool.not_eq_true'] at marked
      exact .leaves marked.symm
    · rename_i free
      rw [Bool.or_eq_true, not_or, Bool.not_eq_true, Bool.not_eq_true] at free
      exact .fires (by rw [judged]; rfl) free.2

/-- A task that nobody holds any more: it is marked, or it has ended. -/
def IsLeft (task : PollTask) : Prop := task.isCancelled = true ∨ task.work = .finished

/-- Woken after it was left, a task asks for nothing, shows nothing and stays left. -/
theorem IsLeft.wake {task : PollTask} (left : task.IsLeft) (asked : Nat) :
    (task.wake asked).effects = [] ∧ (task.wake asked).asked = asked ∧ (task.wake asked).task.IsLeft := by
  have wakes := task.wake_wakes asked
  generalize task.wake asked = step at wakes ⊢
  cases wakes with
  | rests => exact ⟨rfl, rfl, left⟩
  | leaves => exact ⟨rfl, rfl, .inr rfl⟩
  | judges waits =>
    refine ⟨rfl, rfl, .inl (left.resolve_right ?_)⟩
    rw [waits]
    nofun
  | fires holds free =>
    rcases left with cancelled | finished
    · rw [free] at cancelled
      contradiction
    · rw [finished] at holds
      cases holds

theorem wake_source (task : PollTask) (asked : Nat) : (task.wake asked).task.source = task.source := by
  have wakes := task.wake_wakes asked
  generalize task.wake asked = step at wakes ⊢
  cases wakes <;> rfl

/-- A task that is held: unmarked as long as it goes on. -/
structure IsHeld (task : PollTask) : Prop where
  alive : task.isAlive = true
  marked : task.isCancelled = true → task.work = .finished

theorem IsHeld.free {task : PollTask} (held : task.IsHeld) {loop : PollLoop}
    (holds : task.work.loop? = some loop) : task.isCancelled = false := by
  cases cancelled : task.isCancelled with
  | false => rfl
  | true =>
    rw [held.marked cancelled] at holds
    cases holds

theorem goesOn_unmarked {loop following : PollLoop} {source : Source} {asked : Nat} {step : PollStep}
    (fired : loop.Fires source asked step) (goesOn : step.loop = some following) :
    step.effects.any PollEffect.isLast = false := by
  cases fired with
  | delayed | fetches => rfl
  | goesOn _ undecided =>
    simp only [List.any_cons, PollEffect.isLast, undecided, List.any_nil, Bool.or_self]
  | ends | dies => cases goesOn

theorem IsHeld.wake {task : PollTask} (held : task.IsHeld) (asked : Nat) :
    (task.wake asked).task.IsHeld := by
  have wakes := task.wake_wakes asked
  generalize task.wake asked = step at wakes ⊢
  cases wakes with
  | rests => exact held
  | leaves => exact ⟨held.alive, fun _ => rfl⟩
  | judges waits =>
    refine ⟨held.alive, fun cancelled => ?_⟩
    have free := held.free (by rw [waits]; rfl)
    exact absurd (free.symm.trans cancelled) (by decide)
  | @fires loop _ free =>
    refine ⟨held.alive, fun marked => ?_⟩
    cases goesOn : (loop.fire task.source asked).loop with
    | none => simp only [fire, goesOn, Option.elim_none]
    | some following =>
      simp only [fire, free, Bool.false_or,
        goesOn_unmarked (loop.fire_fires task.source asked) goesOn] at marked
      contradiction

theorem Work.loop?_elim (loop : Option PollLoop) : (loop.elim Work.finished .waiting).loop? = loop := by
  cases loop <;> rfl

theorem wake_finished {task : PollTask} (finished : task.work.loop? = none) (asked : Nat) :
    task.wake asked = ⟨task, asked, []⟩ := by
  cases work : task.work with
  | finished => simp only [wake, work]
  | waiting loop | judged loop =>
    rw [work] at finished
    cases finished

theorem IsHeld.wake_judged {task : PollTask} {loop : PollLoop} (held : task.IsHeld)
    (judged : task.work = .judged loop) (asked : Nat) : task.wake asked = task.fire asked loop := by
  have free : task.isCancelled = false := held.free (by rw [judged]; rfl)
  simp only [PollTask.wake, judged, held.alive, free, Bool.not_true, Bool.or_self, Bool.false_eq_true,
    ↓reduceIte]

/-- A task that is held fires when it is woken, or is about to report afterwards. -/
theorem IsHeld.wake_loop {task : PollTask} {loop : PollLoop} (held : task.IsHeld)
    (holds : task.work.loop? = some loop) (asked : Nat) :
    task.wake asked = task.fire asked loop ∨
    task.wake asked = ⟨{ task with work := .judged loop }, asked, []⟩ := by
  cases work : task.work with
  | finished =>
    rw [work] at holds
    cases holds
  | judged other =>
    rw [work] at holds
    cases holds
    exact .inl (held.wake_judged work asked)
  | waiting other =>
    have free := held.free holds
    rw [work] at holds
    cases holds
    cases awaits : loop.awaitsPage with
    | true =>
      right
      simp only [PollTask.wake, work, free, awaits, Bool.false_eq_true, ↓reduceIte]
    | false =>
      left
      simp only [PollTask.wake, work, free, awaits, Bool.false_eq_true, ↓reduceIte]

end PollTask

end PayBridge
