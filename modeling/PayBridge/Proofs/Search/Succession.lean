import PayBridge.Proofs.Search.TaskPool

/-! Tasks that were left take no part any more. A pool in which all the first tasks were left does what the pool does
that never had them, with its own tasks counted after theirs. -/
namespace PayBridge.TaskPool

def behind (old : List PollTask) (pool : TaskPool) : TaskPool :=
  { pool with tasks := old ++ pool.tasks, current := pool.current.map (old.length + ·) }

/-- The action on a pool without as many of the first tasks. Waking one of those comes to nothing. -/
def Action.without (count : Nat) : Action → Action
  | .wake number => if number < count then .wait 0 else .wake (number - count)
  | action => action

variable {old : List PollTask} {pool trailing : TaskPool} {count : Nat}

theorem behind_stop (old : List PollTask) (pool : TaskPool) : (pool.behind old).stop = pool.stop.behind old := by
  obtain ⟨now, asked, tasks, current⟩ := pool
  cases current with
  | none => rfl
  | some number => simp only [stop, behind, Option.map_some, List.modify, List.modifyTailIdx_add, Option.map_none]

theorem behind_start (old : List PollTask) (pool : TaskPool) (source : Source) (memo : Memo) (schedule : Schedule) :
    (pool.behind old).start source memo schedule = (pool.start source memo schedule).behind old := by
  simp only [start, behind_stop]
  simp only [behind, List.append_assoc, List.length_append, Option.map_some]

theorem behind_loop? (old : List PollTask) (pool : TaskPool) : (pool.behind old).loop? = pool.loop? := by
  obtain ⟨now, asked, tasks, current⟩ := pool
  cases current with
  | none => rfl
  | some number =>
    simp only [loop?, behind, Option.map_some, Option.bind_some]
    rw [List.getElem?_append_right (Nat.le_add_right ..), Nat.add_sub_cancel_left]

theorem behind_poller (old : List PollTask) (pool : TaskPool) : (pool.behind old).poller = pool.poller := by
  simp only [poller, behind_loop?]
  rfl

theorem behind_wake (old : List PollTask) (pool : TaskPool) (number : Nat) :
    (pool.behind old).wake (old.length + number) = ((pool.wake number).1.behind old, (pool.wake number).2) := by
  have same : (pool.behind old).tasks[old.length + number]? = pool.tasks[number]? := by
    rw [behind, List.getElem?_append_right (Nat.le_add_right ..), Nat.add_sub_cancel_left]
  cases found : pool.tasks[number]? with
  | none => rw [wake_missing found, wake_missing (same.trans found)]
  | some task =>
    rw [wake_found found, wake_found (same.trans found)]
    simp only [behind]
    rw [List.set_append_right _ _ (Nat.le_add_right ..), Nat.add_sub_cancel_left]

/-- Waking one of the first tasks, which was left, shows nothing and changes only that task. -/
theorem behind_wake_left (left : ∀ task ∈ old, task.IsLeft) (pool : TaskPool) {number : Nat}
    (early : number < old.length) : ∃ woken : List PollTask, woken.length = old.length ∧
      (∀ task ∈ woken, task.IsLeft) ∧ (pool.behind old).wake number = (pool.behind woken, []) := by
  have found : (pool.behind old).tasks[number]? = some old[number] := by
    rw [behind, List.getElem?_append_left early, List.getElem?_eq_getElem early]
  obtain ⟨silent, unasked, stays⟩ := (left _ (List.getElem_mem early)).wake pool.asked
  refine ⟨old.set number (old[number].wake pool.asked).task, List.length_set .., fun task member => ?_, ?_⟩
  · rcases List.mem_or_eq_of_mem_set member with was | rfl
    · exact left task was
    · exact stays
  · rw [wake_found found]
    simp only [behind, List.set_append_left _ _ early, List.length_set, silent, unasked]

/-- The pool is another one behind tasks that were left. -/
def Trails (count : Nat) (trailing pool : TaskPool) : Prop :=
  ∃ old : List PollTask, old.length = count ∧ (∀ task ∈ old, task.IsLeft) ∧ trailing = pool.behind old

theorem Trails.poller (trails : Trails count trailing pool) : trailing.poller = pool.poller := by
  obtain ⟨old, _, _, rfl⟩ := trails
  exact behind_poller old pool

theorem Trails.perform (trails : Trails count trailing pool) (action : Action) :
    (trailing.perform action).2 = (pool.perform (action.without count)).2 ∧
    Trails count (trailing.next action) (pool.next (action.without count)) := by
  obtain ⟨old, rfl, left, rfl⟩ := trails
  unfold TaskPool.next
  cases action with
  | start source memo schedule => exact ⟨rfl, old, rfl, left, behind_start old pool source memo schedule⟩
  | stop | drop => exact ⟨rfl, old, rfl, left, behind_stop old pool⟩
  | wait duration => exact ⟨rfl, old, rfl, left, rfl⟩
  | wake number =>
    simp only [Action.without]
    split
    · rename_i early
      obtain ⟨woken, length, stays, wakes⟩ := behind_wake_left left pool early
      rw [TaskPool.perform, wakes]
      exact ⟨rfl, woken, length, stays, rfl⟩
    · rename_i late
      have wakes := behind_wake old pool (number - old.length)
      rw [Nat.add_sub_cancel' (Nat.le_of_not_lt late)] at wakes
      rw [TaskPool.perform, wakes]
      exact ⟨rfl, old, rfl, left, rfl⟩

theorem Trails.after (trails : Trails count trailing pool) (actions : List Action) :
    Trails count (trailing.after actions) (pool.after (actions.map (Action.without count))) := by
  induction actions generalizing trailing pool with
  | nil => exact trails
  | cons action rest ih => exact ih (trails.perform action).2

theorem stop_eq (pool : TaskPool) : pool.stop = ⟨pool.now, pool.asked, pool.stop.tasks, none⟩ := by
  obtain ⟨now, asked, tasks, current⟩ := pool
  cases current <;> rfl

/-- A pool that was stopped trails one that begins. -/
theorem Sound.stop_trails (sound : pool.Sound) :
    Trails pool.tasks.length pool.stop ⟨pool.now, pool.asked, [], none⟩ := by
  refine ⟨pool.stop.tasks, length_stop pool, fun task member => ?_, ?_⟩
  · obtain ⟨number, found⟩ := List.getElem?_of_mem member
    refine sound.stop.left number task found ?_
    rw [stop_current]
    nofun
  · rw [behind, List.append_nil]
    exact stop_eq pool

end PayBridge.TaskPool
