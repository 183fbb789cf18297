import PayBridge.Proofs.Watch.Watcher

/-! A watch reports what the ledger showed. However its task and its receiver take turns, it returns what the answers
decide, when they decide it, unless a shutdown comes first; and then nothing more is fetched. -/
namespace PayBridge

/-- How far the work of a task is from its end, with room for a finding told at each step. -/
def PollTask.Work.distance : PollTask.Work → Nat
  | .waiting loop => 3 * loop.stepsLeft + 2
  | .judged loop => 3 * loop.stepsLeft + 1
  | .finished => 0

namespace Watcher

/-- How far a watch is from its return: the time that is left, the work of the task, and what lies in the queue. -/
def distance (limit : Nat) (watcher : Watcher) : Nat :=
  limit - watcher.now + watcher.task.work.distance + watcher.queue.length

variable {source : Source} {memo : Memo} {schedule : Schedule} {shutdown : Option Nat} {look : Nat}
  {outcome : Watch.Outcome} {shown : List PollEffect} {watcher : Watcher}

/-- What holds of a watch that began: it goes on, or it has returned as it had to. -/
def Stands (source : Source) (memo : Memo) (schedule : Schedule) (shutdown : Option Nat) (look : Nat)
    (shown : List PollEffect) (watcher : Watcher) : Prop :=
  Watching source memo schedule shutdown look shown watcher ∨
    Returned (Watch.run source memo schedule shutdown) shown watcher

theorem told_length {loop : PollLoop} {step : PollStep} {asked : Nat} (fires : loop.Fires source asked step) :
    (PollLoop.told step.effects).length ≤ 1 := by
  cases fires with
  | delayed | fetches | dies => exact Nat.zero_le 1
  | goesOn | ends => exact Nat.le_refl 1

theorem stepsLeft_pos {loop : PollLoop} (pending : loop.search.IsPending) : 0 < loop.stepsLeft := by
  have left := pending.left
  unfold PollLoop.stepsLeft
  cases loop.stage <;> simp only <;> omega

theorem distance_ge {work : PollTask.Work} {loop : PollLoop} (works : work.loop? = some loop) :
    3 * loop.stepsLeft + 1 ≤ work.distance := by
  cases work with
  | finished => cases works
  | judged other =>
    cases works
    exact Nat.le_refl _
  | waiting other =>
    cases works
    exact Nat.le_succ _

namespace Watching

theorem poll_closer (watching : Watching source memo schedule shutdown look shown watcher)
    (ready : watcher.task.isReady watcher.now = true) (limit : Nat) :
    watcher.poll.1.distance limit < watcher.distance limit := by
  have polls := watching.poll_polls
  generalize watcher.poll = polled at polls ⊢
  cases polls with
  | rests busy => exact absurd (busy.symm.trans ready) (by decide)
  | judges waits due =>
    simp only [distance, waits, PollTask.Work.distance]
    omega
  | @fires loop works due woken =>
    have pending := (watching.waits loop works).1
    have fired := loop.fire_fires watcher.task.source watcher.asked
    have before := distance_ge works
    have left := stepsLeft_pos pending
    have told : (PollLoop.told (watcher.task.fire watcher.asked loop).effects).length ≤ 1 := told_length fired
    have work : (watcher.task.fire watcher.asked loop).task.work.distance + 3 ≤ 3 * loop.stepsLeft + 2 := by
      simp only [PollTask.fire]
      cases goesOn : (loop.fire watcher.task.source watcher.asked).loop with
      | none =>
        simp only [Option.elim_none, PollTask.Work.distance]
        omega
      | some following =>
        have closer := (fired.comesCloser pending goesOn).2
        simp only [Option.elim_some, PollTask.Work.distance]
        omega
    simp only [distance, List.length_append]
    omega

theorem receive_closer (watching : Watching source memo schedule shutdown look shown watcher)
    (ready : watcher.isReady shutdown = true) (limit : Nat) :
    (watcher.receive shutdown).ending ≠ none ∨
      (watcher.receive shutdown).distance limit < watcher.distance limit := by
  have receives : Receives shutdown watcher _ := receive_receives watching.goesOn
  generalize watcher.receive shutdown = received at receives ⊢
  cases receives with
  | rests idle => exact absurd (idle.symm.trans ready) (by decide)
  | takes head =>
    right
    simp only [distance, head, List.length_cons]
    omega
  | obeys | returns | gives => exact .inl nofun

theorem now_lt (watching : Watching source memo schedule shutdown look shown watcher)
    (concludes : Watch.Concludes source memo schedule look outcome)
    (resting : watcher.task.isReady watcher.now = false) (empty : watcher.isReady shutdown = false) :
    watcher.now < (Watch.run source memo schedule shutdown).time := by
  obtain ⟨loop, work, later, undisturbed⟩ := watching.idle resting empty
  have due := (watching.ahead concludes (by rw [work]; rfl)).2.2
  rcases concludes.run_cases shutdown with ⟨-, ends⟩ | ⟨stop, asked, -, ends⟩
  · rw [ends]
    exact Nat.lt_of_lt_of_le later due
  · rw [ends]
    exact undisturbed stop asked

end Watching

theorem Stands.next (concludes : Watch.Concludes source memo schedule look outcome)
    (apart : ∀ stop ∈ shutdown, ∀ effect ∈ Watch.story source memo schedule, effect.time ≠ stop)
    (stands : Stands source memo schedule shutdown look shown watcher) (action : Action) :
    Stands source memo schedule shutdown look (shown ++ (watcher.perform shutdown action).2)
      (watcher.perform shutdown action).1 := by
  rcases stands with watching | returned
  · cases action with
    | poll => exact .inl (watching.poll concludes)
    | receive =>
      simp only [perform, List.append_nil]
      exact watching.receive concludes apart
    | pass =>
      simp only [perform]
      split
      · rw [List.append_nil]
        exact .inl watching
      · rename_i idle
        rw [Bool.or_eq_true, not_or, Bool.not_eq_true, Bool.not_eq_true] at idle
        rw [List.append_nil]
        exact .inl (watching.pass idle.1 idle.2)
  · obtain ⟨silent, still⟩ : (watcher.perform shutdown action).2 = [] ∧ _ := returned.next action
    rw [silent, List.append_nil]
    exact .inr still

/-- Whether an action finds something to do. -/
def acts (shutdown : Option Nat) (watcher : Watcher) : Action → Bool
  | .poll => watcher.task.isReady watcher.now
  | .receive => watcher.isReady shutdown
  | .pass => !(watcher.task.isReady watcher.now || watcher.isReady shutdown)

theorem exists_acts (shutdown : Option Nat) (watcher : Watcher) : ∃ action, watcher.acts shutdown action = true := by
  cases ready : watcher.task.isReady watcher.now with
  | true => exact ⟨.poll, ready⟩
  | false =>
    cases wanted : watcher.isReady shutdown with
    | true => exact ⟨.receive, wanted⟩
    | false => exact ⟨.pass, by rw [acts, ready, wanted]; rfl⟩

theorem next_idle {action : Action} (idle : watcher.acts shutdown action = false) :
    watcher.next shutdown action = watcher := by
  cases action with
  | poll =>
    rw [acts] at idle
    simp only [next, perform, poll, idle, Bool.false_eq_true, ↓reduceIte]
  | receive =>
    rw [acts] at idle
    exact receive_idle idle
  | pass =>
    rw [acts, Bool.not_eq_false'] at idle
    simp only [next, perform, idle, ↓reduceIte]

/-- An action that finds something to do makes a watch return, or brings it closer to that. -/
theorem Watching.next_closer (watching : Watching source memo schedule shutdown look shown watcher)
    (concludes : Watch.Concludes source memo schedule look outcome) {action : Action}
    (acts : watcher.acts shutdown action = true) :
    let limit := (Watch.run source memo schedule shutdown).time
    (watcher.next shutdown action).ending ≠ none ∨
      (watcher.next shutdown action).distance limit < watcher.distance limit := by
  intro limit
  cases action with
  | poll => exact .inr (watching.poll_closer acts limit)
  | receive => exact watching.receive_closer acts limit
  | pass =>
    simp only [Watcher.acts, Bool.not_eq_true', Bool.or_eq_false_iff] at acts
    have later := watching.now_lt concludes acts.1 acts.2
    right
    simp only [next, perform, acts, Bool.or_self, Bool.false_eq_true, ↓reduceIte, distance]
    omega

/-- Whatever is done, a watch that began goes on, or has returned as it had to. -/
theorem after_stands (concludes : Watch.Concludes source memo schedule look outcome)
    (apart : ∀ stop ∈ shutdown, ∀ effect ∈ Watch.story source memo schedule, effect.time ≠ stop)
    (actions : List Action) :
    Stands source memo schedule shutdown look ((start source memo schedule).shown shutdown actions)
      ((start source memo schedule).after shutdown actions) := by
  refine Run.invariant (P := fun past now => Stands source memo schedule shutdown look
    (past.flatMap fun moment => (moment.before.perform shutdown moment.action).2) now) ?_ ?_ actions
  · exact .inl (start_watching source memo schedule shutdown look)
  · intro past now action stands
    rw [List.flatMap_append, List.flatMap_singleton]
    exact stands.next concludes apart action

theorem Returned.stays {ending : Watch.Ending} (returned : Returned ending shown watcher) (actions : List Action) :
    watcher.shown shutdown actions = [] ∧ Returned ending shown (watcher.after shutdown actions) := by
  induction actions generalizing watcher with
  | nil => exact ⟨rfl, returned⟩
  | cons action rest ih =>
    obtain ⟨silent, still⟩ : (watcher.perform shutdown action).2 = [] ∧ _ := returned.next action
    obtain ⟨later, stays⟩ := ih still
    exact ⟨List.append_eq_nil_iff.mpr ⟨silent, later⟩, stays⟩

/-- As long as task, receiver and clock get their turns, a watch returns. -/
theorem returns (concludes : Watch.Concludes source memo schedule look outcome)
    (apart : ∀ stop ∈ shutdown, ∀ effect ∈ Watch.story source memo schedule, effect.time ≠ stop)
    {order : Nat → Action} (fair : Run.IsFair order) :
    ∃ n, (Run.state (next shutdown) (start source memo schedule) order n).ending ≠ none := by
  refine Run.reaches fair (fun now => ∃ shown, Stands source memo schedule shutdown look shown now)
    (fun now => now.ending ≠ none) (distance (Watch.run source memo schedule shutdown).time)
    ⟨[], .inl (start_watching source memo schedule shutdown look)⟩ ?_ ?_ ?_
  · rintro now action ⟨shown, stands⟩
    exact ⟨_, stands.next concludes apart action⟩
  · rintro now action ⟨shown, watching | returned⟩
    · cases acts : now.acts shutdown action with
      | false => exact .inl (next_idle acts)
      | true => exact .inr (watching.next_closer concludes acts)
    · refine .inr (.inl ?_)
      obtain ⟨-, still⟩ : (now.perform shutdown action).2 = [] ∧ _ := returned.next action
      rw [next, still.returned]
      nofun
  · rintro now ⟨shown, watching | returned⟩
    · obtain ⟨action, acts⟩ := now.exists_acts shutdown
      exact .inr ⟨action, watching.next_closer concludes acts⟩
    · refine .inl ?_
      rw [returned.returned]
      nofun

end Watcher

namespace Watch

/-- For all answers of a source, delays and shutdowns, a watch returns what the ledger showed: what its answers decide
when they decide it, or that it was cancelled at a shutdown before that, after which nothing is fetched. A success
names an entry of a page that was fetched, and the entry carries the memo. This is the one ending that task and
receiver can come to, however they take turns, and they come to it; then they show nothing more. -/
theorem reports_what_the_ledger_showed (source : Source) (memo : Memo) (schedule : Schedule)
    (shutdown : Option Nat) :
    let ending := run source memo schedule shutdown
    (∃ look outcome, Concludes source memo schedule look outcome) ∧
    (∀ look outcome, Concludes source memo schedule look outcome →
      ((∀ stop ∈ shutdown, schedule.answeredAt source look < stop) →
        ending.outcome = outcome ∧ ending.time = schedule.answeredAt source look) ∧
      ∀ stop ∈ shutdown, stop < schedule.answeredAt source look →
        ending.outcome = .cancelled ∧ ending.time = stop) ∧
    (∀ effect ∈ ending.effects, effect.time ≤ ending.time ∧ ∀ stop ∈ shutdown, effect.time < stop) ∧
    (ending.outcome.isSuccess = true → ∃ look found entry,
      .fetched (schedule.lookAt source look) schedule.signatureLimit ∈ ending.effects ∧
      schedule.answeredAt source look ≤ ending.time ∧ (source look).answer = .page (.entries found) ∧
      entry ∈ found ∧ entry.carries memo = true ∧ ending.outcome = .confirmed entry.signature) ∧
    ((∀ stop ∈ shutdown, ∀ effect ∈ (run source memo schedule none).effects, effect.time ≠ stop) →
      let watcher := Watcher.start source memo schedule
      (∀ actions, let now := watcher.after shutdown actions
        now.ending = none ∨
        now.ending = some (ending.outcome, ending.time) ∧ watcher.shown shutdown actions = ending.effects ∧
          ∀ more, now.shown shutdown more = [] ∧ (now.after shutdown more).ending = now.ending) ∧
      ∀ order, Run.IsFair order →
        ∃ n, (Run.state (Watcher.next shutdown) watcher order n).ending = some (ending.outcome, ending.time)) := by
  intro ending
  refine ⟨exists_concludes source memo schedule, fun look outcome concludes => ⟨fun early => ?_, ?_⟩,
    run_effects_time source memo schedule shutdown, run_success source memo schedule shutdown, fun apart => ?_⟩
  · rw [show ending = _ from concludes.run_undisturbed early]
    exact ⟨rfl, rfl⟩
  · rintro stop asked late
    obtain rfl : shutdown = some stop := asked
    rw [show ending = _ from concludes.run_shutdown (Nat.le_of_lt late)]
    exact ⟨rfl, rfl⟩
  · intro watcher
    obtain ⟨look, outcome, concludes⟩ := exists_concludes source memo schedule
    have stands (actions : List Watcher.Action) := Watcher.after_stands concludes apart actions
    refine ⟨fun actions => ?_, fun order fair => ?_⟩
    · rcases stands actions with watching | returned
      · exact .inl watching.goesOn
      · refine .inr ⟨returned.returned, returned.shown, fun more => ?_⟩
        obtain ⟨silent, still⟩ : (watcher.after shutdown actions).shown shutdown more = [] ∧ _ := returned.stays more
        exact ⟨silent, still.returned.trans returned.returned.symm⟩
    · obtain ⟨n, done⟩ := Watcher.returns concludes apart fair
      rcases stands ((List.range n).map order) with watching | returned
      · exact absurd watching.goesOn done
      · exact ⟨n, returned.returned⟩

/-- The second look finds the payment, and a shutdown while that look is answered comes before it. Receiver, task and
clock take turns. -/
theorem second_look_confirms_unless_shut_down :
    let source := Source.ofScript [⟨1, .page (.failure "429")⟩, ⟨4, .page (.entries [⟨"sig", some "[6] pl-0-1"⟩])⟩]
    let memo : Memo := ⟨"pl-0-1"⟩
    let schedule : Schedule := ⟨1, 2, 3, 10⟩
    let order (n : Nat) : Watcher.Action := if n % 3 = 0 then .receive else if n % 3 = 1 then .poll else .pass
    Concludes source memo schedule 1 (.confirmed "sig") ∧ Run.IsFair order ∧
      ((run source memo schedule none).outcome = .confirmed "sig" ∧ (run source memo schedule none).time = 9) ∧
      ((run source memo schedule (some 7)).outcome = .cancelled ∧ (run source memo schedule (some 7)).time = 7) ∧
      (∃ n, (Run.state (Watcher.next none) (Watcher.start source memo schedule) order n).ending =
        some (.confirmed "sig", 9)) ∧
      ∃ n, (Run.state (Watcher.next (some 7)) (Watcher.start source memo schedule) order n).ending =
        some (.cancelled, 7) := by
  intro source memo schedule order
  have concludes : Concludes source memo schedule 1 (.confirmed "sig") := by
    let page : Page := .entries [⟨"sig", some "[6] pl-0-1"⟩]
    have first : source.Answers ([] ++ [.failure "429"]) := Source.answers_concat.mpr ⟨nofun, rfl⟩
    have answers : source.Answers ([.failure "429"] ++ [page]) := Source.answers_concat.mpr ⟨first, rfl⟩
    have told : (Search.start memo schedule.maxAttempts).observeAll ([.failure "429"] ++ [page]) =
        ((Search.start memo schedule.maxAttempts).observeAll [.failure "429"]) ++ [.confirmed "sig"] := by
      decide +kernel
    exact .confirmed answers told (List.forall_mem_singleton.mpr rfl)
  have fair : Run.IsFair order := by
    intro n action
    cases action with
    | receive => exact ⟨3 * n, by omega, by simp only [order]; rw [if_pos (by omega)]⟩
    | poll => exact ⟨3 * n + 1, by omega, by simp only [order]; rw [if_neg (by omega), if_pos (by omega)]⟩
    | pass => exact ⟨3 * n + 2, by omega, by simp only [order]; rw [if_neg (by omega), if_neg (by omega)]⟩
  have answered : schedule.answeredAt source 1 = 9 := by decide +kernel
  have apart : ∀ stop ∈ some 7, ∀ effect ∈ (run source memo schedule none).effects, effect.time ≠ stop := by
    decide +kernel
  obtain ⟨-, decided, -, -, undisturbed⟩ := reports_what_the_ledger_showed source memo schedule none
  obtain ⟨-, cancelled, -, -, stopped⟩ := reports_what_the_ledger_showed source memo schedule (some 7)
  obtain ⟨confirmed, time⟩ := (decided 1 _ concludes).1 nofun
  obtain ⟨early, stop⟩ := (cancelled 1 _ concludes).2 7 rfl (by rw [answered]; decide)
  have returns := (undisturbed nofun).2 order fair
  have gives := (stopped apart).2 order fair
  rw [confirmed, time, answered] at returns
  rw [early, stop] at gives
  exact ⟨concludes, fair, ⟨confirmed, time.trans answered⟩, ⟨early, stop⟩, returns, gives⟩

end Watch
end PayBridge
