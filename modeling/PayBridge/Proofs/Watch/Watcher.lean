import PayBridge.Proofs.Run
import PayBridge.Proofs.Search.Account
import PayBridge.Proofs.Search.Task
import PayBridge.Proofs.Watch.Conclusion

/-! Watching as two parties: a polling task that puts what it finds into a queue, and a receiver that takes findings
out of it until one ends the watch, a shutdown is asked for, or the task is gone. Whoever is ready may go first. Time
passes when nobody is ready. -/
namespace PayBridge

namespace PollTask

/-- Whether a task has something to do: to leave, to report, or what it has waited for. -/
def isReady (now : Nat) (task : PollTask) : Bool :=
  match task.work with
  | .finished => false
  | .judged _ => true
  | .waiting loop => task.isCancelled || decide (loop.stage.due ≤ now)

def remaining (task : PollTask) (asked : Nat) : List PollEffect :=
  (task.work.loop?.map (·.shows task.source none asked)).getD []

end PollTask

/-- A watch that runs: its task, what the task has found and the receiver has not yet taken, and how and when the
receiver has returned. -/
structure Watcher where
  now : Nat
  asked : Nat
  task : PollTask
  queue : List Finding
  ending : Option (Watch.Outcome × Nat)

/-- Whose turn it is: the task's, the receiver's, or the clock's. -/
inductive Watcher.Action where
  | poll
  | receive
  | pass

namespace Watcher

def start (source : Source) (memo : Memo) (schedule : Schedule) : Watcher :=
  ⟨0, 0, PollTask.spawn 0 source memo schedule, [], none⟩

def finish (watcher : Watcher) (outcome : Watch.Outcome) : Watcher :=
  { watcher with task := watcher.task.cancel, ending := some (outcome, watcher.now) }

def poll (watcher : Watcher) : Watcher × List PollEffect :=
  if watcher.task.isReady watcher.now then
    let step := watcher.task.wake watcher.asked
    ({ watcher with
        asked := step.asked
        task := step.task
        queue := watcher.queue ++ PollLoop.told step.effects }, step.effects)
  else (watcher, [])

def isShutDown (shutdown : Option Nat) (watcher : Watcher) : Bool := shutdown.any (· ≤ watcher.now)

theorem isShutDown_iff {shutdown : Option Nat} {watcher : Watcher} :
    watcher.isShutDown shutdown = true ↔ ∃ stop ∈ shutdown, stop ≤ watcher.now := by
  cases shutdown <;> simp [isShutDown]

/-- The receiver looks for the shutdown first, then takes a finding. A queue that is empty and whose task is gone
ends the watch too. -/
def receive (shutdown : Option Nat) (watcher : Watcher) : Watcher :=
  if watcher.ending.isSome then watcher
  else if watcher.isShutDown shutdown then watcher.finish .cancelled
  else match watcher.queue with
    | .status _ :: rest => { watcher with queue := rest }
    | .confirmed signature :: rest => { watcher with queue := rest }.finish (.confirmed signature)
    | .timedOut attempts :: rest => { watcher with queue := rest }.finish (.timedOut attempts)
    | [] => if watcher.task.work.loop?.isNone then watcher.finish .cancelled else watcher

def isReady (shutdown : Option Nat) (watcher : Watcher) : Bool :=
  watcher.ending.isNone &&
    (watcher.isShutDown shutdown || !watcher.queue.isEmpty || watcher.task.work.loop?.isNone)

def perform (shutdown : Option Nat) (watcher : Watcher) : Action → Watcher × List PollEffect
  | .poll => watcher.poll
  | .receive => (watcher.receive shutdown, [])
  | .pass =>
    if watcher.task.isReady watcher.now || watcher.isReady shutdown then (watcher, [])
    else ({ watcher with now := watcher.now + 1 }, [])

def next (shutdown : Option Nat) (watcher : Watcher) (action : Action) : Watcher :=
  (watcher.perform shutdown action).1

def after (shutdown : Option Nat) (watcher : Watcher) (actions : List Action) : Watcher :=
  Run.after (next shutdown) watcher actions

def shown (shutdown : Option Nat) (watcher : Watcher) (actions : List Action) : List PollEffect :=
  (Run.history (next shutdown) watcher actions).flatMap fun moment =>
    (moment.before.perform shutdown moment.action).2

variable {source : Source} {memo : Memo} {schedule : Schedule} {shutdown : Option Nat} {look : Nat}
  {outcome : Watch.Outcome} {shown : List PollEffect} {watcher : Watcher}

/-- What the receiver of a watch that goes on can do: wait, obey the shutdown, take a finding that decides nothing or
one that decides, or find that the task has gone without one. -/
inductive Receives (shutdown : Option Nat) (watcher : Watcher) : Watcher → Prop where
  | rests (idle : watcher.isReady shutdown = false) : Receives shutdown watcher watcher
  | obeys {stop : Nat} (asked : stop ∈ shutdown) (reached : stop ≤ watcher.now) :
      Receives shutdown watcher (watcher.finish .cancelled)
  | takes {text : String} {rest : List Finding} (head : watcher.queue = .status text :: rest) :
      Receives shutdown watcher { watcher with queue := rest }
  | returns {finding : Finding} {rest : List Finding} {outcome : Watch.Outcome}
      (undisturbed : ∀ stop ∈ shutdown, watcher.now < stop) (head : watcher.queue = finding :: rest)
      (decides : ∀ time, Watch.outcomeOf? (.reported time finding) = some (outcome, time)) :
      Receives shutdown watcher ({ watcher with queue := rest }.finish outcome)
  | gives (undisturbed : ∀ stop ∈ shutdown, watcher.now < stop) (empty : watcher.queue = [])
      (gone : watcher.task.work.loop? = none) : Receives shutdown watcher (watcher.finish .cancelled)

theorem receive_receives (goesOn : watcher.ending = none) :
    Receives shutdown watcher (watcher.receive shutdown) := by
  unfold Watcher.receive
  rw [if_neg (by rw [goesOn]; exact Bool.false_ne_true)]
  by_cases called : watcher.isShutDown shutdown = true
  · rw [if_pos called]
    obtain ⟨stop, asked, due⟩ := isShutDown_iff.mp called
    exact .obeys asked due
  · have undisturbed : ∀ stop ∈ shutdown, watcher.now < stop := fun stop asked =>
      Nat.lt_of_not_le fun due => called (isShutDown_iff.mpr ⟨stop, asked, due⟩)
    rw [if_neg called]
    cases head : watcher.queue with
    | nil =>
      cases works : watcher.task.work.loop? with
      | none => exact .gives undisturbed head works
      | some loop =>
        refine .rests ?_
        rw [isReady, Bool.eq_false_iff.mpr called, head, works, Bool.and_comm]
        rfl
    | cons finding rest =>
      cases finding with
      | status text => exact .takes head
      | confirmed signature => exact .returns undisturbed head fun time => rfl
      | timedOut attempts => exact .returns undisturbed head fun time => rfl

theorem receive_idle (idle : watcher.isReady shutdown = false) : watcher.receive shutdown = watcher := by
  unfold receive
  cases ending : watcher.ending with
  | some returned => rfl
  | none =>
    simp only [isReady, ending, Option.isNone_none, Bool.true_and, Bool.or_eq_false_iff, Bool.not_eq_false',
      List.isEmpty_iff] at idle
    obtain ⟨⟨calm, empty⟩, works⟩ := idle
    simp only [calm, empty, works, Option.isSome_none, Bool.false_eq_true, ↓reduceIte]

/-- A watch that goes on: the task has shown the beginning of its story, and is not late. What it has told is in the
queue, but for findings that decide nothing. The clock is not ahead of the task, of the answer that decides, or of the
shutdown. -/
structure Watching (source : Source) (memo : Memo) (schedule : Schedule) (shutdown : Option Nat) (look : Nat)
    (shown : List PollEffect) (watcher : Watcher) : Prop where
  goesOn : watcher.ending = none
  held : watcher.task.IsHeld
  fed : watcher.task.source = source
  story : Watch.story source memo schedule = shown ++ watcher.task.remaining watcher.asked
  waits : ∀ loop ∈ watcher.task.work.loop?, loop.search.IsPending ∧ watcher.now ≤ loop.stage.due
  prompt : ∀ loop, watcher.task.work = .judged loop → loop.stage.due = watcher.now
  past : ∀ effect ∈ shown, effect.time ≤ watcher.now
  received : ∃ statuses, PollLoop.told shown = statuses ++ watcher.queue ∧
    ∀ status ∈ statuses, status.isTerminal = false
  decided : watcher.task.work.loop? = none → watcher.now = schedule.answeredAt source look
  early : ∀ stop ∈ shutdown, watcher.now ≤ stop

/-- A watch that has returned, as it is told of: nothing more is shown. -/
structure Returned (ending : Watch.Ending) (shown : List PollEffect) (watcher : Watcher) : Prop where
  returned : watcher.ending = some (ending.outcome, ending.time)
  shown : shown = ending.effects
  left : watcher.task.IsLeft

theorem start_watching (source : Source) (memo : Memo) (schedule : Schedule) (shutdown : Option Nat) (look : Nat) :
    Watching source memo schedule shutdown look [] (start source memo schedule) where
  goesOn := rfl
  held := ⟨rfl, nofun⟩
  fed := rfl
  story := rfl
  waits := by
    rintro loop ⟨⟩
    exact ⟨Search.start_pending .., Nat.zero_le _⟩
  prompt := nofun
  past := nofun
  received := ⟨[], rfl, nofun⟩
  decided := nofun
  early := fun _ _ => Nat.zero_le _

namespace Watching

/-- What a task that goes on will show comes later, and the answer that decides is part of it. -/
theorem ahead (watching : Watching source memo schedule shutdown look shown watcher)
    (concludes : Watch.Concludes source memo schedule look outcome) {loop : PollLoop}
    (works : watcher.task.work.loop? = some loop) :
    (∀ effect ∈ watcher.task.remaining watcher.asked, watcher.now ≤ effect.time) ∧
      (∀ effect ∈ shown, Watch.outcomeOf? effect = none) ∧
      loop.stage.due ≤ schedule.answeredAt source look := by
  obtain ⟨pending, due⟩ := watching.waits loop works
  have remaining : watcher.task.remaining watcher.asked = loop.shows source none watcher.asked := by
    rw [PollTask.remaining, works, watching.fed]
    rfl
  have later : ∀ effect ∈ loop.shows source none watcher.asked, loop.stage.due ≤ effect.time :=
    PollLoop.due_le_of_mem_shows pending
  rw [remaining]
  refine ⟨fun effect member => Nat.le_trans due (later effect member), ?_⟩
  obtain ⟨⟨last, member, decides⟩, nothing⟩ :=
    concludes.parts (remaining ▸ watching.story) (PollLoop.shows_ne_nil pending)
  exact ⟨nothing, Watch.time_of_outcomeOf? decides ▸ later last member⟩

/-- A task that is gone has shown its whole story. -/
theorem gone (watching : Watching source memo schedule shutdown look shown watcher)
    (gone : watcher.task.work.loop? = none) : shown = Watch.story source memo schedule := by
  rw [watching.story, PollTask.remaining, gone]
  exact (List.append_nil shown).symm

theorem due_now (watching : Watching source memo schedule shutdown look shown watcher) {loop : PollLoop}
    (works : watcher.task.work.loop? = some loop) (ready : watcher.task.isReady watcher.now = true) :
    loop.stage.due = watcher.now := by
  have due := (watching.waits loop works).2
  cases work : watcher.task.work with
  | finished =>
    rw [work] at works
    cases works
  | judged other =>
    rw [work] at works
    cases works
    exact watching.prompt loop work
  | waiting other =>
    have free := watching.held.free works
    rw [work] at works
    cases works
    simp only [PollTask.isReady, work, free, Bool.false_or, decide_eq_true_eq] at ready
    exact Nat.le_antisymm ready due

theorem fires (watching : Watching source memo schedule shutdown look shown watcher)
    (concludes : Watch.Concludes source memo schedule look outcome) {loop : PollLoop}
    (works : watcher.task.work.loop? = some loop) (due : loop.stage.due = watcher.now)
    (woken : watcher.task.wake watcher.asked = watcher.task.fire watcher.asked loop) :
    let step := watcher.task.fire watcher.asked loop
    Watching source memo schedule shutdown look (shown ++ step.effects) { watcher with
      asked := step.asked
      task := step.task
      queue := watcher.queue ++ PollLoop.told step.effects } := by
  intro step
  have held := watching.held.wake watcher.asked
  rw [woken] at held
  have pending := (watching.waits loop works).1
  have fired := loop.fire_fires watcher.task.source watcher.asked
  have rest : step.task.work.loop? = (loop.fire watcher.task.source watcher.asked).loop := PollTask.Work.loop?_elim _
  have remaining : watcher.task.remaining watcher.asked = step.effects ++ step.task.remaining step.asked := by
    rw [PollTask.remaining, PollTask.remaining, works, rest]
    exact PollLoop.shows_due pending rfl
  have story : Watch.story source memo schedule =
      (shown ++ step.effects) ++ step.task.remaining step.asked := by
    rw [List.append_assoc, ← remaining, watching.story]
  have past : ∀ effect ∈ step.effects, effect.time = watcher.now :=
    fun effect member => (fired.due.1 effect member).trans due
  obtain ⟨statuses, told, undecided⟩ := watching.received
  refine ⟨watching.goesOn, held, watching.fed, story, ?_, ?_, ?_, ?_, ?_, watching.early⟩
  · intro following goesOn
    have goesOn := rest.symm.trans goesOn
    exact ⟨(fired.comesCloser pending goesOn).1, due ▸ fired.due.2 following goesOn⟩
  · intro following judged
    change (loop.fire watcher.task.source watcher.asked).loop.elim _ _ = _ at judged
    cases goesOn : (loop.fire watcher.task.source watcher.asked).loop <;> rw [goesOn] at judged <;> cases judged
  · exact List.forall_mem_append.mpr ⟨watching.past, fun effect member => Nat.le_of_eq (past effect member)⟩
  · exact ⟨statuses, by rw [PollLoop.told_append, told, List.append_assoc], undecided⟩
  · intro gone
    have ends := rest.symm.trans gone
    have shows : step.effects ≠ [] := fired.ends_shown ends
    rw [PollTask.remaining, gone] at story
    obtain ⟨⟨last, member, decides⟩, -⟩ := concludes.parts (story.trans (List.append_nil _)) shows
    exact (past last member).symm.trans (Watch.time_of_outcomeOf? decides)

/-- What polling a watch that goes on can do: nothing, judge the page that has come, or fire the loop that is due. -/
inductive Polls (watcher : Watcher) : Watcher × List PollEffect → Prop where
  | rests (busy : watcher.task.isReady watcher.now = false) : Polls watcher (watcher, [])
  | judges {loop : PollLoop} (waits : watcher.task.work = .waiting loop) (due : loop.stage.due = watcher.now) :
      Polls watcher ({ watcher with task := { watcher.task with work := .judged loop } }, [])
  | fires {loop : PollLoop} (works : watcher.task.work.loop? = some loop) (due : loop.stage.due = watcher.now)
      (woken : watcher.task.wake watcher.asked = watcher.task.fire watcher.asked loop) :
      Polls watcher ({ watcher with
        asked := (watcher.task.fire watcher.asked loop).asked
        task := (watcher.task.fire watcher.asked loop).task
        queue := watcher.queue ++ PollLoop.told (watcher.task.fire watcher.asked loop).effects },
        (watcher.task.fire watcher.asked loop).effects)

theorem poll_polls (watching : Watching source memo schedule shutdown look shown watcher) :
    Polls watcher watcher.poll := by
  unfold Watcher.poll
  cases ready : watcher.task.isReady watcher.now with
  | false => exact .rests ready
  | true =>
    rw [if_pos rfl]
    cases work : watcher.task.work with
    | finished =>
      rw [PollTask.isReady, work] at ready
      cases ready
    | judged loop =>
      have works : watcher.task.work.loop? = some loop := by rw [work]; rfl
      have woken := watching.held.wake_judged work watcher.asked
      rw [woken]
      exact .fires works (watching.due_now works ready) woken
    | waiting loop =>
      have works : watcher.task.work.loop? = some loop := by rw [work]; rfl
      have due := watching.due_now works ready
      rcases watching.held.wake_loop works watcher.asked with woken | judged
      · rw [woken]
        exact .fires works due woken
      · simp only [judged, PollLoop.told, List.filterMap_nil, List.append_nil]
        exact .judges work due

theorem poll (watching : Watching source memo schedule shutdown look shown watcher)
    (concludes : Watch.Concludes source memo schedule look outcome) :
    Watching source memo schedule shutdown look (shown ++ watcher.poll.2) watcher.poll.1 := by
  have polls := watching.poll_polls
  generalize watcher.poll = polled at polls ⊢
  cases polls with
  | rests => rwa [List.append_nil]
  | @judges loop waits due =>
    have works : watcher.task.work.loop? = some loop := by rw [waits]; rfl
    have free := watching.held.free works
    rw [List.append_nil]
    refine ⟨watching.goesOn, ⟨watching.held.alive, fun cancelled => ?_⟩, watching.fed, ?_, ?_, ?_, watching.past,
      watching.received, nofun, watching.early⟩
    · exact absurd (free.symm.trans cancelled) (by decide)
    · rw [watching.story, PollTask.remaining, works]
      rfl
    · rintro following ⟨⟩
      exact watching.waits loop works
    · rintro following ⟨⟩
      exact due
  | fires works due woken => exact watching.fires concludes works due woken

theorem now_le (watching : Watching source memo schedule shutdown look shown watcher)
    (concludes : Watch.Concludes source memo schedule look outcome) :
    watcher.now ≤ schedule.answeredAt source look ∧
      ∀ effect ∈ watcher.task.remaining watcher.asked, watcher.now ≤ effect.time := by
  cases works : watcher.task.work.loop? with
  | none =>
    refine ⟨Nat.le_of_eq (watching.decided works), ?_⟩
    rw [PollTask.remaining, works]
    nofun
  | some loop =>
    obtain ⟨later, -, due⟩ := watching.ahead concludes works
    exact ⟨Nat.le_trans (watching.waits loop works).2 due, later⟩

/-- What decides among the things shown is the last of the story, and the task is gone. -/
theorem decisive (watching : Watching source memo schedule shutdown look shown watcher)
    (concludes : Watch.Concludes source memo schedule look outcome) {effect : PollEffect} (member : effect ∈ shown)
    (decides : Watch.outcomeOf? effect ≠ none) :
    watcher.task.work.loop? = none ∧
      Watch.outcomeOf? effect = some (outcome, schedule.answeredAt source look) := by
  cases works : watcher.task.work.loop? with
  | some loop => exact absurd ((watching.ahead concludes works).2.1 effect member) decides
  | none =>
    obtain ⟨earlier, last, story, nothing, final⟩ := concludes.ends
    rw [watching.gone works, story] at member
    rcases List.mem_append.mp member with before | now
    · exact absurd (nothing effect before) decides
    · exact ⟨rfl, List.mem_singleton.mp now ▸ final⟩

theorem run_now (watching : Watching source memo schedule shutdown look shown watcher)
    (concludes : Watch.Concludes source memo schedule look outcome)
    (apart : ∀ stop ∈ shutdown, ∀ effect ∈ Watch.story source memo schedule, effect.time ≠ stop) {stop : Nat}
    (asked : stop ∈ shutdown) (reached : stop ≤ watcher.now) :
    Watch.run source memo schedule shutdown = ⟨.cancelled, watcher.now, shown⟩ := by
  obtain rfl : shutdown = some stop := asked
  obtain rfl : watcher.now = stop := Nat.le_antisymm (watching.early stop rfl) reached
  obtain ⟨decided, later⟩ := watching.now_le concludes
  have before : ∀ effect ∈ shown, decide (effect.time < watcher.now) = true := by
    intro effect member
    have other := apart watcher.now rfl effect (watching.story ▸ List.mem_append_left _ member)
    exact decide_eq_true (Nat.lt_of_le_of_ne (watching.past effect member) other)
  rw [concludes.run_shutdown decided, watching.story, List.takeWhile_append_of_pos before,
    PollEffect.takeWhile_late later, List.append_nil]

/-- A task that is gone has decided the watch, if no shutdown came first. -/
theorem run_gone (watching : Watching source memo schedule shutdown look shown watcher)
    (concludes : Watch.Concludes source memo schedule look outcome) (gone : watcher.task.work.loop? = none)
    (undisturbed : ∀ stop ∈ shutdown, watcher.now < stop) :
    Watch.run source memo schedule shutdown = ⟨outcome, watcher.now, shown⟩ := by
  have now := watching.decided gone
  rw [concludes.run_undisturbed fun stop asked => now ▸ undisturbed stop asked, now, watching.gone gone]

/-- A task that is gone and has left nothing in the queue has died. -/
theorem died (watching : Watching source memo schedule shutdown look shown watcher)
    (concludes : Watch.Concludes source memo schedule look outcome) (gone : watcher.task.work.loop? = none)
    (empty : watcher.queue = []) : outcome = .cancelled := by
  obtain ⟨statuses, told, undecided⟩ := watching.received
  obtain ⟨earlier, last, story, -, final⟩ := concludes.ends
  have member : last ∈ shown := by
    rw [watching.gone gone, story]
    exact List.mem_append_right _ (List.mem_singleton.mpr rfl)
  cases last with
  | fetched => cases final
  | died => exact (Prod.mk.inj (Option.some.inj final)).1.symm
  | reported time finding =>
    have listed := PollLoop.mem_told.mpr ⟨time, member⟩
    rw [told, empty, List.append_nil] at listed
    rw [Watch.outcomeOf?_status time (undecided finding listed)] at final
    cases final

theorem receive (watching : Watching source memo schedule shutdown look shown watcher)
    (concludes : Watch.Concludes source memo schedule look outcome)
    (apart : ∀ stop ∈ shutdown, ∀ effect ∈ Watch.story source memo schedule, effect.time ≠ stop) :
    Watching source memo schedule shutdown look shown (watcher.receive shutdown) ∨
      Returned (Watch.run source memo schedule shutdown) shown (watcher.receive shutdown) := by
  have receives : Receives shutdown watcher _ := receive_receives watching.goesOn
  generalize watcher.receive shutdown = received at receives ⊢
  obtain ⟨statuses, told, undecided⟩ := watching.received
  cases receives with
  | rests => exact .inl watching
  | obeys asked reached =>
    right
    rw [watching.run_now concludes apart asked reached]
    exact ⟨rfl, rfl, .inl rfl⟩
  | @takes text rest head =>
    left
    refine ⟨watching.goesOn, watching.held, watching.fed, watching.story, watching.waits, watching.prompt,
      watching.past, ⟨statuses ++ [.status text], ?_, ?_⟩, watching.decided, watching.early⟩
    · rw [told, head, List.append_assoc]
      rfl
    · exact List.forall_mem_append.mpr ⟨undecided, List.forall_mem_singleton.mpr rfl⟩
  | @returns finding rest outcome undisturbed head decides =>
    right
    have listed : finding ∈ PollLoop.told shown := by
      rw [told, head]
      exact List.mem_append_right _ List.mem_cons_self
    obtain ⟨time, member⟩ := PollLoop.mem_told.mp listed
    obtain ⟨gone, last⟩ := watching.decisive concludes member (by rw [decides]; nofun)
    obtain ⟨rfl, -⟩ := Prod.mk.inj (Option.some.inj ((decides time).symm.trans last))
    rw [watching.run_gone concludes gone undisturbed]
    exact ⟨rfl, rfl, .inl rfl⟩
  | gives undisturbed empty gone =>
    right
    rw [watching.run_gone concludes gone undisturbed, watching.died concludes gone empty]
    exact ⟨rfl, rfl, .inl rfl⟩

/-- When nobody is ready, the task waits for a later time, and so does the shutdown. -/
theorem idle (watching : Watching source memo schedule shutdown look shown watcher)
    (resting : watcher.task.isReady watcher.now = false) (empty : watcher.isReady shutdown = false) :
    ∃ loop, watcher.task.work = .waiting loop ∧ watcher.now < loop.stage.due ∧
      ∀ stop ∈ shutdown, watcher.now < stop := by
  simp only [isReady, watching.goesOn, Option.isNone_none, Bool.true_and, Bool.or_eq_false_iff] at empty
  obtain ⟨⟨calm, -⟩, works⟩ := empty
  have undisturbed : ∀ stop ∈ shutdown, watcher.now < stop := fun stop asked =>
    Nat.lt_of_not_le fun due => Bool.eq_false_iff.mp calm (isShutDown_iff.mpr ⟨stop, asked, due⟩)
  cases work : watcher.task.work with
  | finished =>
    rw [work] at works
    cases works
  | judged loop =>
    rw [PollTask.isReady, work] at resting
    cases resting
  | waiting loop =>
    simp only [PollTask.isReady, work, Bool.or_eq_false_iff, decide_eq_false_iff_not, Nat.not_le] at resting
    exact ⟨loop, rfl, resting.2, undisturbed⟩

theorem pass (watching : Watching source memo schedule shutdown look shown watcher)
    (resting : watcher.task.isReady watcher.now = false) (empty : watcher.isReady shutdown = false) :
    Watching source memo schedule shutdown look shown { watcher with now := watcher.now + 1 } := by
  obtain ⟨loop, work, later, undisturbed⟩ := watching.idle resting empty
  refine ⟨watching.goesOn, watching.held, watching.fed, watching.story, ?_, ?_,
    fun effect member => Nat.le_succ_of_le (watching.past effect member), watching.received, ?_, undisturbed⟩
  · intro following works
    obtain rfl : loop = following := by
      rw [work] at works
      exact Option.some.inj works
    exact ⟨(watching.waits loop works).1, later⟩
  · intro following judged
    rw [work] at judged
    cases judged
  · intro gone
    rw [work] at gone
    cases gone

end Watching

theorem Returned.next {ending : Watch.Ending} (returned : Returned ending shown watcher) (action : Action) :
    (watcher.perform shutdown action).2 = [] ∧ Returned ending shown (watcher.perform shutdown action).1 := by
  cases action with
  | receive =>
    refine ⟨rfl, ?_⟩
    simp only [perform, Watcher.receive, returned.returned, Option.isSome_some, ↓reduceIte]
    exact returned
  | pass =>
    simp only [perform]
    split
    · exact ⟨rfl, returned⟩
    · exact ⟨rfl, returned.returned, returned.shown, returned.left⟩
  | poll =>
    obtain ⟨silent, -, left⟩ := returned.left.wake watcher.asked
    simp only [perform, Watcher.poll]
    split
    · exact ⟨silent, returned.returned, returned.shown, left⟩
    · exact ⟨rfl, returned⟩

end Watcher
end PayBridge
