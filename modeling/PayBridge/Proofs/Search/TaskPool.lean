import PayBridge.Proofs.Run
import PayBridge.Proofs.Search.Task

/-! Polling by tasks. Every start spawns one, and stopping or starting again marks the one that was held. Tasks
are woken in any order, the marked ones too. To the poller that runs one loop at most, and forgets a stopped
loop at once, the marked tasks make no difference. -/
namespace PayBridge

/-- All tasks that were ever spawned, by number, and the one that the poller holds, if any. -/
structure TaskPool where
  now : Nat
  asked : Nat
  tasks : List PollTask
  current : Option Nat

namespace TaskPool

def idle : TaskPool := ⟨0, 0, [], none⟩

/-- Marks the task that is held, and lets go of it. -/
def stop (pool : TaskPool) : TaskPool :=
  match pool.current with
  | none => pool
  | some number => { pool with tasks := pool.tasks.modify number PollTask.cancel, current := none }

def start (pool : TaskPool) (source : Source) (memo : Memo) (schedule : Schedule) : TaskPool :=
  { pool.stop with
    tasks := pool.stop.tasks ++ [PollTask.spawn pool.now source memo schedule]
    current := some pool.stop.tasks.length }

def wake (pool : TaskPool) (number : Nat) : TaskPool × List PollEffect :=
  match pool.tasks[number]? with
  | none => (pool, [])
  | some task =>
    let step := task.wake pool.asked
    ({ pool with tasks := pool.tasks.set number step.task, asked := step.asked }, step.effects)

def wait (pool : TaskPool) (duration : Nat) : TaskPool := { pool with now := pool.now + duration }

def isRunning (pool : TaskPool) : Bool :=
  match pool.current with
  | none => false
  | some number => pool.tasks[number]?.any fun task => !task.isCancelled && task.work.loop?.isSome

def loop? (pool : TaskPool) : Option PollLoop :=
  pool.current.bind fun number => pool.tasks[number]?.bind (·.work.loop?)

def poller (pool : TaskPool) : Poller := ⟨pool.now, pool.asked, pool.loop?⟩

/-- What is asked of a poller with tasks, or happens to it. Dropping it is the last that is asked of it. -/
inductive Action where
  | start (source : Source) (memo : Memo) (schedule : Schedule)
  | stop
  | drop
  | wake (number : Nat)
  | wait (duration : Nat)

/-- Whether the poller lets go of the task that it held before. -/
def Action.releases : Action → Bool
  | .start _ _ _ | .stop | .drop => true
  | _ => false

def Action.starts : Action → Bool
  | .start _ _ _ => true
  | _ => false

def perform (pool : TaskPool) : Action → TaskPool × List PollEffect
  | .start source memo schedule => (pool.start source memo schedule, [])
  | .stop | .drop => (pool.stop, [])
  | .wake number => pool.wake number
  | .wait duration => (pool.wait duration, [])

def next (pool : TaskPool) (action : Action) : TaskPool := (pool.perform action).1

abbrev after (pool : TaskPool) (actions : List Action) : TaskPool := Run.after next pool actions

abbrev history (pool : TaskPool) (actions : List Action) : List (Moment TaskPool Action) :=
  Run.history next pool actions

theorem after_append (pool : TaskPool) (first rest : List Action) :
    pool.after (first ++ rest) = (pool.after first).after rest :=
  Run.after_append ..

theorem history_append (pool : TaskPool) (first rest : List Action) :
    pool.history (first ++ rest) = pool.history first ++ (pool.after first).history rest :=
  Run.history_append ..

/-- The task that is held is unmarked as long as it goes on, and all others are left. -/
structure Sound (pool : TaskPool) : Prop where
  left : ∀ number task, pool.tasks[number]? = some task → pool.current ≠ some number → task.IsLeft
  held : ∀ number, pool.current = some number → ∃ task, pool.tasks[number]? = some task ∧ task.IsHeld

variable {pool : TaskPool}

theorem stop_current (pool : TaskPool) : pool.stop.current = none := by
  unfold stop
  split
  · assumption
  · rfl

theorem Sound.stop (sound : pool.Sound) : pool.stop.Sound := by
  unfold TaskPool.stop
  split
  · exact sound
  · rename_i number holds
    refine ⟨fun other task found _ => ?_, nofun⟩
    rw [List.getElem?_modify, Option.map_eq_map, Option.map_eq_some_iff] at found
    obtain ⟨was, present, rfl⟩ := found
    split
    · exact .inl rfl
    · rename_i different
      refine sound.left other was present ?_
      rw [holds]
      exact fun same => different (Option.some.inj same)

theorem length_stop (pool : TaskPool) : pool.stop.tasks.length = pool.tasks.length := by
  unfold stop
  split
  · rfl
  · exact List.length_modify ..

theorem stop_now (pool : TaskPool) : pool.stop.now = pool.now := by
  unfold stop
  split <;> rfl

theorem stop_asked (pool : TaskPool) : pool.stop.asked = pool.asked := by
  unfold stop
  split <;> rfl

theorem Sound.start (sound : pool.Sound) (source : Source) (memo : Memo) (schedule : Schedule) :
    (pool.start source memo schedule).Sound := by
  refine ⟨fun number task found other => ?_, ?_⟩
  · have inside : number < (pool.stop.tasks ++ [PollTask.spawn pool.now source memo schedule]).length :=
      (List.getElem?_eq_some_iff.mp found).1
    have different : number ≠ pool.stop.tasks.length := fun same => other (by rw [same]; rfl)
    rw [List.length_append, List.length_singleton] at inside
    simp only [TaskPool.start, List.getElem?_append_left (by omega : number < pool.stop.tasks.length)]
      at found
    refine sound.stop.left number task found ?_
    rw [stop_current]
    nofun
  · rintro number ⟨⟩
    refine ⟨PollTask.spawn pool.now source memo schedule, ?_, ⟨rfl, nofun⟩⟩
    simp only [TaskPool.start, List.getElem?_concat_length]

variable {number : Nat} {task : PollTask} {loop : PollLoop}

theorem wake_missing (missing : pool.tasks[number]? = none) : pool.wake number = (pool, []) := by
  simp only [wake, missing]

theorem wake_found (found : pool.tasks[number]? = some task) : pool.wake number =
    ({ pool with
        tasks := pool.tasks.set number (task.wake pool.asked).task
        asked := (task.wake pool.asked).asked }, (task.wake pool.asked).effects) := by
  simp only [wake, found]

theorem wake_getElem? (found : pool.tasks[number]? = some task) (other : Nat) :
    (pool.wake number).1.tasks[other]? =
      if number = other then some (task.wake pool.asked).task else pool.tasks[other]? := by
  have inside := (List.getElem?_eq_some_iff.mp found).1
  simp only [wake_found found, List.getElem?_set, inside, ↓reduceIte]

theorem wake_current (pool : TaskPool) (number : Nat) : (pool.wake number).1.current = pool.current := by
  unfold wake
  split <;> rfl

theorem Sound.wake (sound : pool.Sound) (number : Nat) : (pool.wake number).1.Sound := by
  cases found : pool.tasks[number]? with
  | none =>
    rw [wake_missing found]
    exact sound
  | some task =>
    constructor
    · intro other following present released
      rw [wake_current] at released
      rw [wake_getElem? found] at present
      split at present
      · rename_i same
        obtain rfl := Option.some.inj present
        exact ((sound.left number task found (same ▸ released)).wake pool.asked).2.2
      · exact sound.left other following present released
    · intro other holds
      rw [wake_current] at holds
      obtain ⟨was, present, held⟩ := sound.held other holds
      rw [wake_getElem? found]
      split
      · rename_i same
        subst same
        obtain rfl := Option.some.inj (found.symm.trans present)
        exact ⟨_, rfl, held.wake pool.asked⟩
      · exact ⟨was, present, held⟩

theorem Sound.next (sound : pool.Sound) (action : Action) : (pool.next action).Sound := by
  cases action with
  | start source memo schedule => exact sound.start source memo schedule
  | stop | drop => exact sound.stop
  | wake number => exact sound.wake number
  | wait duration => exact ⟨sound.left, sound.held⟩

theorem idle_sound : idle.Sound := ⟨nofun, nofun⟩

theorem after_sound (sound : pool.Sound) (actions : List Action) : (pool.after actions).Sound :=
  Run.keeps (P := Sound) (fun _ action sound => sound.next action) sound actions

/-- What an action on the pool is to the poller of one loop. Waking is a firing of the loop that is held, or
nothing at all. -/
def Mirrors (pool : TaskPool) (action : Action) : Prop :=
  let outcome := ((pool.perform action).1.poller, (pool.perform action).2)
  match action with
  | .start _ memo schedule => outcome = (pool.poller.start memo schedule, [])
  | .stop | .drop => outcome = (pool.poller.stop, [])
  | .wake number => outcome = (pool.poller, []) ∨ ∃ task, pool.current = some number ∧
      pool.tasks[number]? = some task ∧ outcome = pool.poller.fire task.source
  | .wait duration => outcome = (pool.poller.wait duration, [])

theorem stop_poller (pool : TaskPool) : pool.stop.poller = pool.poller.stop := by
  simp only [poller, loop?, stop_current, stop_now, stop_asked]
  rfl

theorem start_poller (pool : TaskPool) (source : Source) (memo : Memo) (schedule : Schedule) :
    (pool.start source memo schedule).poller = pool.poller.start memo schedule := by
  have new : (pool.start source memo schedule).loop? = some (PollLoop.start pool.now memo schedule) := by
    simp only [loop?, start, Option.bind_some, List.getElem?_concat_length]
    rfl
  simp only [poller, new, Poller.start]
  simp only [start, stop_now, stop_asked]

/-- Waking a task that was left makes no difference to the poller of one loop. -/
theorem Sound.wake_left (sound : pool.Sound) (released : pool.current ≠ some number) :
    ((pool.wake number).1.poller, (pool.wake number).2) = (pool.poller, []) := by
  cases found : pool.tasks[number]? with
  | none => rw [wake_missing found]
  | some task =>
    obtain ⟨silent, unasked, _⟩ := (sound.left number task found released).wake pool.asked
    have same : (pool.wake number).1.loop? = pool.loop? := by
      simp only [loop?, wake_current]
      cases holds : pool.current with
      | none => rfl
      | some other =>
        have different : number ≠ other := fun same => released (by rw [holds, same])
        simp only [Option.bind_some, wake_getElem? found, different, ↓reduceIte]
    simp only [poller, same]
    simp only [wake_found found, silent, unasked]

structure Holds (pool : TaskPool) (number : Nat) (task : PollTask) : Prop where
  current : pool.current = some number
  found : pool.tasks[number]? = some task

theorem Holds.isHeld (holds : pool.Holds number task) (sound : pool.Sound) : task.IsHeld := by
  obtain ⟨_, present, held⟩ := sound.held number holds.current
  obtain rfl := Option.some.inj (holds.found.symm.trans present)
  exact held

theorem Holds.wake (holds : pool.Holds number task) :
    (pool.next (.wake number)).Holds number (task.wake pool.asked).task :=
  ⟨(wake_current pool number).trans holds.current, (wake_getElem? holds.found number).trans (if_pos rfl)⟩

theorem Holds.loop? (holds : pool.Holds number task) : pool.loop? = task.work.loop? := by
  simp only [TaskPool.loop?, holds.current, holds.found, Option.bind_some]

theorem Holds.fires (holds : pool.Holds number task) (running : task.work.loop? = some loop)
    (fired : task.wake pool.asked = task.fire pool.asked loop) :
    ((pool.next (.wake number)).poller, (pool.perform (.wake number)).2) =
      pool.poller.fire task.source := by
  have moved : (pool.next (.wake number)).loop? = (loop.fire task.source pool.asked).loop := by
    rw [holds.wake.loop?, fired]
    exact PollTask.Work.loop?_elim _
  simp only [poller, moved, Poller.fire, holds.loop?, running]
  simp only [next, perform, wake_found holds.found, fired]
  rfl

theorem Holds.idles (holds : pool.Holds number task) {step : PollTask.Step}
    (woken : task.wake pool.asked = step) (same : step.task.work.loop? = task.work.loop?)
    (unasked : step.asked = pool.asked) (silent : step.effects = []) :
    ((pool.next (.wake number)).poller, (pool.perform (.wake number)).2) = (pool.poller, []) := by
  have kept : (pool.next (.wake number)).loop? = pool.loop? := by
    rw [holds.wake.loop?, woken, same, holds.loop?]
  simp only [poller, kept]
  simp only [next, perform, wake_found holds.found, woken, unasked, silent]

theorem Holds.judges (holds : pool.Holds number task) (running : task.work.loop? = some loop)
    (judged : task.wake pool.asked = ⟨{ task with work := .judged loop }, pool.asked, []⟩) :
    ((pool.next (.wake number)).poller, (pool.perform (.wake number)).2) = (pool.poller, []) :=
  holds.idles judged running.symm rfl rfl

theorem Sound.mirrors (sound : pool.Sound) (action : Action) : pool.Mirrors action := by
  cases action with
  | start source memo schedule => exact congrArg (·, []) (start_poller pool source memo schedule)
  | stop | drop => exact congrArg (·, []) (stop_poller pool)
  | wait duration => rfl
  | wake number =>
    by_cases current : pool.current = some number
    · obtain ⟨task, found, held⟩ := sound.held number current
      have holds : pool.Holds number task := ⟨current, found⟩
      cases running : task.work.loop? with
      | none => exact .inl (holds.idles (PollTask.wake_finished running pool.asked) rfl rfl rfl)
      | some loop =>
        rcases held.wake_loop running pool.asked with fired | judged
        · exact .inr ⟨task, current, found, holds.fires running fired⟩
        · exact .inl (holds.judges running judged)
    · exact .inl (sound.wake_left current)

theorem Sound.isRunning (sound : pool.Sound) : pool.isRunning = pool.poller.isRunning := by
  unfold TaskPool.isRunning
  split
  · rename_i free
    simp only [poller, loop?, free, Poller.isRunning]
    rfl
  · rename_i number current
    obtain ⟨task, found, held⟩ := sound.held number current
    have holds : pool.Holds number task := ⟨current, found⟩
    simp only [poller, Poller.isRunning, holds.loop?, found, Option.any_some]
    cases work : task.work.loop? with
    | none => exact Bool.and_false _
    | some loop => simp only [held.free work, Bool.not_false, Option.isSome_some, Bool.and_self]

end TaskPool
end PayBridge
