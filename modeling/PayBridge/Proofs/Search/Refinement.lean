import PayBridge.Proofs.Search.Account
import PayBridge.Proofs.Search.TaskTime

/-! What a polling task shows over its life, whatever else is done and whichever tasks are woken when: the
findings of a search on the pages it fetched, in order and no further than the last one, and nothing at all
once it is stopped or replaced. -/
namespace PayBridge

open PollLoop (Works Accounts Ended)

structure PollTask.Follows (memo : Memo) (schedule : Schedule) (shown : List PollEffect)
    (answers : List Answer) (task : PollTask) : Prop where
  accounts : ∃ pages pending, Accounts memo schedule shown answers pages pending
  works : ∀ loop, task.work.loop? = some loop → ∃ pages, Works memo schedule shown answers pages loop

namespace PollTask
variable {memo : Memo} {schedule : Schedule} {shown : List PollEffect} {answers : List Answer}
  {task : PollTask}

theorem Follows.wake (follows : task.Follows memo schedule shown answers) (asked : Nat) :
    (task.wake asked).task.Follows memo schedule (shown ++ (task.wake asked).effects)
      (answers ++ (task.wake asked).effects.filterMap
        (PollEffect.answer? (task.source asked).answer)) := by
  have wakes := task.wake_wakes asked
  generalize task.wake asked = step at wakes ⊢
  cases wakes with
  | rests =>
    simpa only [List.filterMap_nil, List.append_nil] using follows
  | leaves =>
    simp only [List.filterMap_nil, List.append_nil]
    exact ⟨follows.accounts, nofun⟩
  | judges waits =>
    simp only [List.filterMap_nil, List.append_nil]
    exact ⟨follows.accounts, fun loop holds => follows.works loop (by rw [waits]; exact holds)⟩
  | @fires loop holds =>
    obtain ⟨pages, works⟩ := follows.works loop holds
    have fired := loop.fire_fires task.source asked
    cases goesOn : (loop.fire task.source asked).loop with
    | some following =>
      obtain ⟨judged, works⟩ := works.goesOn fired goesOn
      refine ⟨⟨judged, _, works.accounts⟩, fun other same => ⟨judged, ?_⟩⟩
      simp only [fire, Work.loop?_elim, goesOn, Option.some.injEq] at same
      subst same
      exact works
    | none =>
      refine ⟨(works.ends fired goesOn).2, fun other same => ?_⟩
      simp only [fire, Work.loop?_elim, goesOn] at same
      contradiction

theorem IsHeld.ended (held : task.IsHeld) (follows : task.Follows memo schedule shown answers)
    (ended : task.work = .finished → Ended shown) (asked : Nat)
    (finished : (task.wake asked).task.work = .finished) :
    Ended (shown ++ (task.wake asked).effects) := by
  have wakes := task.wake_wakes asked
  generalize task.wake asked = step at wakes finished ⊢
  cases wakes with
  | rests was => exact (ended was).mono _
  | leaves marked =>
    rcases marked with cancelled | dead
    · exact (ended (held.marked cancelled)).mono _
    · exact absurd (dead.symm.trans held.alive) (by decide)
  | judges => cases finished
  | @fires loop holds =>
    obtain ⟨pages, works⟩ := follows.works loop holds
    cases goesOn : (loop.fire task.source asked).loop with
    | some following =>
      simp only [fire, goesOn, Option.elim_some] at finished
      cases finished
    | none => exact (works.ends (loop.fire_fires task.source asked) goesOn).1

end PollTask

namespace TaskPool

def showing (number : Nat) (moment : Moment TaskPool Action) : List PollEffect :=
  match moment.action with
  | .wake woken => if woken = number then (moment.before.wake woken).2 else []
  | _ => []

/-- The answers to the fetches that one of the tasks begins in a step: what its own source says to them. -/
def answering (number : Nat) (moment : Moment TaskPool Action) : List Answer :=
  match moment.before.tasks[number]? with
  | none => []
  | some task => (showing number moment).filterMap
      (PollEffect.answer? (task.source moment.before.asked).answer)

def shownBy (number : Nat) (past : List (Moment TaskPool Action)) : List PollEffect :=
  past.flatMap (showing number)

/-- How the fetches of one of the tasks were answered, or will be. -/
def answersTo (number : Nat) (past : List (Moment TaskPool Action)) : List Answer :=
  past.flatMap (answering number)

variable {pool : TaskPool} {number : Nat} {task : PollTask} {action : Action}

/-- What is not the waking of a task leaves it as it is, but for its marks, and shows nothing of it. -/
theorem next_other (found : pool.tasks[number]? = some task) (action : Action) :
    action = .wake number ∨
    showing number ⟨pool, action⟩ = [] ∧
      ((pool.next action).tasks[number]? = some task ∨
        (pool.next action).tasks[number]? = some task.cancel) := by
  have stopped : pool.stop.tasks[number]? = some task ∨ pool.stop.tasks[number]? = some task.cancel := by
    unfold stop
    split
    · exact .inl found
    · rename_i held _
      simp only [List.getElem?_modify, found, Option.map_eq_map, Option.map_some]
      split
      · exact .inr rfl
      · exact .inl rfl
  cases action with
  | stop | drop => exact .inr ⟨rfl, stopped⟩
  | wait duration => exact .inr ⟨rfl, .inl found⟩
  | start source memo schedule =>
    have inside : number < pool.stop.tasks.length := by
      rw [length_stop]
      exact (List.getElem?_eq_some_iff.mp found).1
    refine .inr ⟨rfl, ?_⟩
    simpa only [next, perform, start, List.getElem?_append_left inside] using stopped
  | wake woken =>
    by_cases same : woken = number
    · exact .inl (by rw [same])
    · refine .inr ⟨if_neg same, .inl ?_⟩
      simp only [next, perform]
      cases other : pool.tasks[woken]? with
      | none => rw [wake_missing other, found]
      | some _ => rw [wake_getElem? other, if_neg same, found]

theorem left_next (found : pool.tasks[number]? = some task) (left : task.IsLeft) (action : Action) :
    showing number ⟨pool, action⟩ = [] ∧
      ∃ following, (pool.next action).tasks[number]? = some following ∧ following.IsLeft := by
  rcases next_other found action with rfl | ⟨silent, same | marked⟩
  · obtain ⟨silent, _, stays⟩ := left.wake pool.asked
    refine ⟨?_, _, (wake_getElem? found number).trans (if_pos rfl), stays⟩
    simpa only [showing, ↓reduceIte, wake_found found] using silent
  · exact ⟨silent, task, same, left⟩
  · exact ⟨silent, task.cancel, marked, .inl rfl⟩

theorem left_silent (found : pool.tasks[number]? = some task) (left : task.IsLeft) (actions : List Action) :
    shownBy number (pool.history actions) = [] := by
  induction actions generalizing pool task with
  | nil => rfl
  | cons action rest ih =>
    obtain ⟨silent, following, present, stays⟩ := left_next found left action
    exact List.append_eq_nil_iff.mpr ⟨silent, ih present stays⟩

/-- What is known of a task by what it has shown since it was spawned. -/
structure Tracks (number : Nat) (source : Source) (memo : Memo) (schedule : Schedule)
    (past : List (Moment TaskPool Action)) (now : TaskPool) (task : PollTask) : Prop where
  found : now.tasks[number]? = some task
  source : task.source = source
  follows : task.Follows memo schedule (shownBy number past) (answersTo number past)
  ended : now.current = some number → task.work = .finished → Ended (shownBy number past)

variable {source : Source} {memo : Memo} {schedule : Schedule} {past : List (Moment TaskPool Action)}

theorem shownBy_concat (number : Nat) (past : List (Moment TaskPool Action)) (moment : Moment TaskPool Action) :
    shownBy number (past ++ [moment]) = shownBy number past ++ showing number moment := by
  simp only [shownBy, List.flatMap_append, List.flatMap_cons, List.flatMap_nil, List.append_nil]

theorem answersTo_concat (number : Nat) (past : List (Moment TaskPool Action))
    (moment : Moment TaskPool Action) :
    answersTo number (past ++ [moment]) = answersTo number past ++ answering number moment := by
  simp only [answersTo, List.flatMap_append, List.flatMap_cons, List.flatMap_nil, List.append_nil]

theorem answering_eq (found : pool.tasks[number]? = some task) (action : Action) :
    answering number ⟨pool, action⟩ = (showing number ⟨pool, action⟩).filterMap
      (PollEffect.answer? (task.source pool.asked).answer) := by
  simp only [answering, found]

/-- Only a task that was held before, or is spawned in the step, is held after it. -/
theorem next_current (inside : number < pool.tasks.length) (holds : (pool.next action).current = some number) :
    pool.current = some number := by
  cases action with
  | stop | drop =>
    have free := stop_current pool
    exact absurd (free.symm.trans holds) nofun
  | wait duration => exact holds
  | wake woken => exact (wake_current pool woken).symm.trans holds
  | start source memo schedule =>
    have same : pool.stop.tasks.length = number := Option.some.inj holds
    rw [length_stop] at same
    omega

theorem Tracks.next (tracks : Tracks number source memo schedule past pool task) (sound : pool.Sound)
    (action : Action) :
    ∃ following, Tracks number source memo schedule (past ++ [⟨pool, action⟩]) (pool.next action) following := by
  have inside : number < pool.tasks.length := (List.getElem?_eq_some_iff.mp tracks.found).1
  rcases next_other tracks.found action with rfl | ⟨silent, same⟩
  · have shown : showing number ⟨pool, .wake number⟩ = (task.wake pool.asked).effects := by
      simp only [showing, ↓reduceIte, wake_found tracks.found]
    refine ⟨(task.wake pool.asked).task, (wake_getElem? tracks.found number).trans (if_pos rfl),
      (task.wake_source pool.asked).trans tracks.source, ?_, fun holds finished => ?_⟩
    · rw [shownBy_concat, answersTo_concat, answering_eq tracks.found, shown]
      exact tracks.follows.wake pool.asked
    · have held := next_current inside holds
      obtain ⟨_, present, isHeld⟩ := sound.held number held
      obtain rfl := Option.some.inj (tracks.found.symm.trans present)
      rw [shownBy_concat, shown]
      exact isHeld.ended tracks.follows (tracks.ended held) pool.asked finished
  · have unanswered : answering number ⟨pool, action⟩ = [] := by
      rw [answering_eq tracks.found, silent]
      rfl
    have kept : ∀ following, (pool.next action).tasks[number]? = some following →
        following.source = task.source → following.work = task.work →
        Tracks number source memo schedule (past ++ [⟨pool, action⟩]) (pool.next action) following := by
      intro following found source work
      refine ⟨found, source.trans tracks.source, ?_, fun holds finished => ?_⟩
      · rw [shownBy_concat, answersTo_concat, silent, unanswered, List.append_nil, List.append_nil]
        exact ⟨tracks.follows.accounts, by rw [work]; exact tracks.follows.works⟩
      · rw [shownBy_concat, silent, List.append_nil]
        exact tracks.ended (next_current inside holds) (work.symm.trans finished)
    rcases same with same | marked
    · exact ⟨task, kept task same rfl rfl⟩
    · exact ⟨task.cancel, kept task.cancel marked rfl rfl⟩

theorem Tracks.isRunning (tracks : Tracks number source memo schedule past pool task) (sound : pool.Sound)
    (current : pool.current = some number) :
    pool.isRunning = true ↔ ¬ Ended (shownBy number past) := by
  have holds : pool.Holds number task := ⟨current, tracks.found⟩
  simp only [sound.isRunning, Poller.isRunning, poller, holds.loop?]
  cases work : task.work.loop? with
  | none =>
    constructor
    · intro running
      cases running
    · intro going
      refine absurd (tracks.ended current ?_) going
      cases stands : task.work with
      | finished => rfl
      | waiting | judged =>
        rw [stands] at work
        cases work
  | some loop =>
    obtain ⟨pages, works⟩ := tracks.follows.works loop work
    exact ⟨fun _ => works.not_ended, fun _ => rfl⟩

/-- A task that the poller has let go of shows nothing any more. -/
theorem Tracks.released (tracks : Tracks number source memo schedule past pool task) (sound : pool.Sound)
    (releases : action.releases = true) (rest : List Action) :
    shownBy number ((pool.next action).history rest) = [] := by
  have inside : number < pool.tasks.length := (List.getElem?_eq_some_iff.mp tracks.found).1
  have other : (pool.next action).current ≠ some number := by
    cases action with
    | start source memo schedule =>
      have different : pool.stop.tasks.length ≠ number := by
        rw [length_stop]
        omega
      exact fun same => different (Option.some.inj same)
    | stop | drop =>
      have free := stop_current pool
      exact fun same => absurd (free.symm.trans same) nofun
    | wake | wait => cases releases
  obtain ⟨following, stays⟩ := tracks.next sound action
  exact left_silent stays.found ((sound.next action).left number following stays.found other) rest

-- A page that arrives after the stop is never reported, although the fetch was in flight.
example :
    let source := Source.ofScript [⟨500, .page (.entries [⟨"sig", some "[6] pl-0-1"⟩])⟩]
    let begun := idle.after [.start source ⟨"pl-0-1"⟩ .standard, .wake 0, .wake 0]
    shownBy 0 (begun.history [.stop, .wait 600, .wake 0, .wake 0]) = [] ∧
      PollLoop.told (shownBy 0 (begun.history [.wait 600, .wake 0, .wake 0])) = [.confirmed "sig"] := by
  decide +kernel

end TaskPool
end PayBridge
