/-! Runs of a machine whose next state is a function of its state and of what is done. A run is told by
what was done, oldest first; its history also holds the state in which each thing was done. -/
namespace PayBridge

structure Moment (S A : Type) where
  before : S
  action : A

/-- `first` held at a moment of the past, and at every moment after that one `kept` did. -/
def Since {S A : Type} (kept first : Moment S A → Prop) (past : List (Moment S A)) : Prop :=
  ∃ earlier moment later, past = earlier ++ moment :: later ∧ first moment ∧ ∀ m ∈ later, kept m

namespace Since
variable {S A : Type} {kept first : Moment S A → Prop} {past : List (Moment S A)} {moment : Moment S A}

theorem now (holds : first moment) : Since kept first (past ++ [moment]) :=
  ⟨past, moment, [], rfl, holds, fun _ member => absurd member List.not_mem_nil⟩

theorem keep (since : Since kept first past) (holds : kept moment) :
    Since kept first (past ++ [moment]) := by
  obtain ⟨earlier, opening, later, rfl, opened, kept⟩ := since
  refine ⟨earlier, opening, later ++ [moment], by simp, opened, ?_⟩
  exact List.forall_mem_append.mpr ⟨kept, List.forall_mem_singleton.mpr holds⟩

end Since

namespace Run
variable {S A : Type} (next : S → A → S)

def after (start : S) (actions : List A) : S := actions.foldl next start

def history (start : S) : List A → List (Moment S A)
  | [] => []
  | action :: rest => ⟨start, action⟩ :: history (next start action) rest

theorem after_append (start : S) (first rest : List A) :
    after next start (first ++ rest) = after next (after next start first) rest :=
  List.foldl_append

theorem history_append (start : S) (first rest : List A) :
    history next start (first ++ rest) =
      history next start first ++ history next (after next start first) rest := by
  induction first generalizing start with
  | nil => rfl
  | cons action first ih => exact congrArg (_ :: ·) (ih (next start action))

variable {next} {start : S}

/-- What holds at the start and is kept by every step, whatever the past was, holds of every run. -/
theorem invariant {P : List (Moment S A) → S → Prop} (initial : P [] start)
    (preserves : ∀ past now action, P past now → P (past ++ [⟨now, action⟩]) (next now action))
    (actions : List A) : P (history next start actions) (after next start actions) := by
  suffices general : ∀ past now, P past now →
      P (past ++ history next now actions) (after next now actions) by
    simpa only [List.nil_append] using general [] start initial
  induction actions with
  | nil =>
    intro past now holds
    simpa only [history, after, List.foldl_nil, List.append_nil] using holds
  | cons action rest ih =>
    intro past now holds
    simpa only [history, after, List.foldl_cons, List.append_assoc, List.singleton_append] using
      ih _ _ (preserves past now action holds)

theorem keeps {P : S → Prop} (preserves : ∀ now action, P now → P (next now action))
    (initial : P start) (actions : List A) : P (after next start actions) :=
  invariant (P := fun _ now => P now) initial (fun _ => preserves) actions

/-- A moment of the history parts the run into what came before it and what came after. -/
theorem of_mem_history {moment : Moment S A} {actions : List A}
    (member : moment ∈ history next start actions) :
    ∃ earlier later, actions = earlier ++ moment.action :: later ∧
      moment.before = after next start earlier ∧
      after next start actions = after next (next moment.before moment.action) later := by
  induction actions generalizing start with
  | nil => exact absurd member List.not_mem_nil
  | cons action rest ih =>
    rcases List.mem_cons.mp member with rfl | passed
    · exact ⟨[], rest, rfl, rfl, rfl⟩
    · obtain ⟨earlier, later, rfl, before, now⟩ := ih passed
      exact ⟨action :: earlier, later, rfl, before, now⟩

/-- Every action is taken again and again. -/
def IsFair (order : Nat → A) : Prop := ∀ n action, ∃ m, n ≤ m ∧ order m = action

def state (next : S → A → S) (start : S) (order : Nat → A) (n : Nat) : S :=
  after next start ((List.range n).map order)

theorem state_succ (next : S → A → S) (start : S) (order : Nat → A) (n : Nat) :
    state next start order (n + 1) = next (state next start order n) (order n) := by
  rw [state, List.range_succ, List.map_append, after_append]
  rfl

/-- Where each action leaves the state alone or comes closer to the goal, and some action always comes closer, every
fair run gets there. -/
theorem reaches {order : Nat → A} (fair : IsFair order) (holds goal : S → Prop) (distance : S → Nat)
    (initial : holds start) (preserves : ∀ now action, holds now → holds (next now action))
    (moves : ∀ now action, holds now → next now action = now ∨ goal (next now action) ∨
      distance (next now action) < distance now)
    (enabled : ∀ now, holds now → goal now ∨ ∃ action, goal (next now action) ∨
      distance (next now action) < distance now) :
    ∃ n, goal (state next start order n) := by
  have keeps (n : Nat) : holds (state next start order n) := Run.keeps preserves initial _
  -- until the action that comes closer is taken, others leave the state alone or come closer themselves
  have closer (wait : Nat) : ∀ n action, order (n + wait) = action →
      (goal (next (state next start order n) action) ∨
        distance (next (state next start order n) action) < distance (state next start order n)) →
      ∃ m, goal (state next start order m) ∨
        distance (state next start order m) < distance (state next start order n) := by
    induction wait with
    | zero =>
      rintro n action rfl nearer
      refine ⟨n + 1, ?_⟩
      rw [state_succ]
      exact nearer
    | succ wait ih =>
      intro n action later nearer
      have step := state_succ next start order n
      rcases moves _ (order n) (keeps n) with same | done
      · rw [← step.trans same] at nearer ⊢
        exact ih (n + 1) action (by rw [← later, Nat.add_right_comm, Nat.add_assoc]) nearer
      · exact ⟨n + 1, step ▸ done⟩
  suffices general : ∀ left n, distance (state next start order n) = left → ∃ m, goal (state next start order m) from
    general _ 0 rfl
  intro left
  induction left using Nat.strongRecOn with
  | ind left ih =>
    rintro n rfl
    rcases enabled _ (keeps n) with done | ⟨action, nearer⟩
    · exact ⟨n, done⟩
    · obtain ⟨m, later, taken⟩ := fair n action
      obtain ⟨k, done | less⟩ := closer (m - n) n action (by rw [Nat.add_sub_cancel' later, taken]) nearer
      · exact ⟨k, done⟩
      · exact ih _ less k rfl

end Run
end PayBridge
