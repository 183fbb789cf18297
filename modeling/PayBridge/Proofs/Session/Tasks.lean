import PayBridge.Proofs.Search.TaskPool
import PayBridge.Proofs.Session.Time

/-! A session whose polling is done by tasks. The session only asks for starts and stops. A task tells the phase
what it finds whenever it is woken, and never asks whether the session is still open. Tasks that were let go of
stay silent all the same, so that the session does what the session with one loop does. -/
namespace PayBridge

/-- Whether the action is a firing of the one loop. With tasks, it is they that fire. -/
def Session.Action.isFiring : Session.Action → Bool
  | .fire _ => true
  | _ => false

/-- What an action asks of the poller. An action that is refused asks for nothing. -/
def Session.orders (session : Session) (source : Source) (action : Session.Action) :
    List TaskPool.Action :=
  let start := TaskPool.Action.start source session.request.memo session.schedule
  match action, (session.perform action).result with
  | .showQr, .answered (.ok _) => [start]
  | .connectWallet _ _ _, .answered (.ok _) | .replace _, .answered (.ok _) => [.stop]
  | .handle _, .heard (.paid _) => [.stop]
  | .retry, _ =>
    if session.isClosed then []
    else match session.phase with
      | .error (.timeout _) => [.stop, start]
      | _ => [.stop]
  | .close, _ => [.stop]
  | .wait duration, _ => [.wait duration]
  | _, _ => []

namespace Session
variable {session : Session} (source : Source)

theorem orders_replace (opened : session.isClosed = false) (replacement : PaymentRequest) :
    session.orders source (.replace replacement) = [.stop] := by
  simp only [orders, perform_replace opened]

theorem orders_showQr (opened : session.isClosed = false) :
    session.orders source .showQr = [.start source session.request.memo session.schedule] := by
  simp only [orders, perform_showQr opened]

theorem orders_retry (opened : session.isClosed = false) : session.orders source .retry =
    .stop :: if session.hasTimedOut then [.start source session.request.memo session.schedule] else [] := by
  obtain ⟨_, _, _, _, _, _, phase, isClosed⟩ := session
  cases opened
  cases phase with
  | error failure => cases failure <;> rfl
  | _ => rfl

theorem orders_closed (shut : session.isClosed = true) {action : Action} (needs : action.needsOpen = true) :
    session.orders source action = [] := by
  unfold orders
  rw [perform_closed shut needs]
  cases action with
  | close | fire | wait => cases needs
  | retry => simp only [shut, ↓reduceIte]
  | _ => rfl

end Session

/-- A session with the tasks that poll for it, and the source that they ask. -/
structure TaskedSession where
  session : Session
  source : Source
  pool : TaskPool

namespace TaskedSession

def start (frame : Frame) (host : HostPage) (request : PaymentRequest) (settings : Session.Settings)
    (source : Source) : TaskedSession :=
  ⟨.start frame host request settings, source, .idle⟩

inductive Deed where
  | act (action : Session.Action) (own : action.isFiring = false)
  | wake (number : Nat)

abbrev Deed.close : Deed := .act .close rfl

abbrev Deed.showQr : Deed := .act .showQr rfl

abbrev Deed.retry : Deed := .act .retry rfl

abbrev Deed.replace (request : PaymentRequest) : Deed := .act (.replace request) rfl

def perform (tasked : TaskedSession) : Deed → Session.Step Session.Result
  | .act action _ => tasked.session.perform action
  | .wake number =>
    let (pool, polled) := tasked.pool.wake number
    let effects := polled.filterMap Session.effectOf?
    ⟨{ tasked.session with
        poller := pool.poller
        phase := Session.phaseAfter tasked.session.phase effects }, .nothing, effects⟩

def orders (tasked : TaskedSession) : Deed → List TaskPool.Action
  | .act action _ => tasked.session.orders tasked.source action
  | .wake number => [.wake number]

def next (tasked : TaskedSession) (deed : Deed) : TaskedSession where
  session := (tasked.perform deed).session
  source := tasked.source
  pool := tasked.pool.after (tasked.orders deed)

abbrev after (tasked : TaskedSession) (deeds : List Deed) : TaskedSession := Run.after next tasked deeds

abbrev history (tasked : TaskedSession) (deeds : List Deed) : List (Moment TaskedSession Deed) :=
  Run.history next tasked deeds

def steps (tasked : TaskedSession) (deeds : List Deed) : List (Session.Step Session.Result) :=
  (tasked.history deeds).map fun moment => moment.before.perform moment.action

theorem after_source (tasked : TaskedSession) (deeds : List Deed) : (tasked.after deeds).source = tasked.source := by
  induction deeds generalizing tasked with
  | nil => rfl
  | cons deed rest ih => exact ih (tasked.next deed)

theorem perform_wake (tasked : TaskedSession) (number : Nat) : tasked.perform (.wake number) =
    let effects := (tasked.pool.perform (.wake number)).2.filterMap Session.effectOf?
    ⟨{ tasked.session with
        poller := (tasked.pool.next (.wake number)).poller
        phase := Session.phaseAfter tasked.session.phase effects }, .nothing, effects⟩ := rfl

theorem next_act (tasked : TaskedSession) (action : Session.Action) (own : action.isFiring = false) :
    tasked.next (.act action own) = ⟨(tasked.session.perform action).session, tasked.source,
      tasked.pool.after (tasked.session.orders tasked.source action)⟩ := rfl

/-- The session knows of its tasks what a session with one loop knows of that loop. -/
structure Synced (tasked : TaskedSession) : Prop where
  sound : tasked.pool.Sound
  poller : tasked.session.poller = tasked.pool.poller

variable {tasked : TaskedSession}

theorem next_replace (opened : tasked.session.isClosed = false) (replacement : PaymentRequest) :
    tasked.next (.replace replacement) = ⟨tasked.session.cleared replacement, tasked.source, tasked.pool.stop⟩ := by
  refine (tasked.next_act (.replace replacement) rfl).trans ?_
  rw [Session.perform_replace opened, Session.orders_replace tasked.source opened]
  rfl

theorem next_closed (shut : tasked.session.isClosed = true) {action : Session.Action} (own : action.isFiring = false)
    (needs : action.needsOpen = true) : tasked.next (.act action own) = tasked := by
  rw [next_act, Session.perform_closed shut needs, Session.orders_closed tasked.source shut needs]
  rfl

/-- What an action asks of the pool comes to what the action does to the one loop. -/
theorem orders_poller {session : Session} {pool : TaskPool} (synced : session.poller = pool.poller)
    (source : Source) {action : Session.Action} (own : action.isFiring = false) :
    (session.next action).poller = (pool.after (session.orders source action)).poller := by
  have stopped : session.poller.stop = pool.stop.poller := by rw [synced, TaskPool.stop_poller]
  have moves := session.perform_moves action
  unfold Session.next Session.orders
  generalize session.perform action = step at moves ⊢
  cases moves with
  | closed shut needs =>
    cases action with
    | close | fire | wait => cases needs
    | retry =>
      simp only [shut, ↓reduceIte]
      exact synced
    | _ => exact synced
  | scans => exact (congrArg (Poller.start · _ _) synced).trans (TaskPool.start_poller ..).symm
  | rescans opened late =>
    simp only [opened, late, Bool.false_eq_true, ↓reduceIte]
    exact (congrArg (Poller.start · _ _) stopped).trans (TaskPool.start_poller ..).symm
  | clears opened other =>
    simp only [opened, Bool.false_eq_true, ↓reduceIte]
    exact stopped
  | replaces | closes | posts | pays => exact stopped
  | refuses | fails | drops | ignores | connects => exact synced
  | @breaks _ _ _ outcome _ _ _ _ _ tells =>
    cases outcome with
    | paid => cases tells
    | _ => exact synced
  | rests | fires => cases own
  | waits => exact congrArg (Poller.wait · _) synced

theorem Synced.wake (synced : tasked.Synced) (number : Nat) :
    tasked.perform (.wake number) = tasked.session.unchanged .nothing ∨
    ∃ task, tasked.pool.tasks[number]? = some task ∧
      tasked.perform (.wake number) = tasked.session.perform (.fire task.source) := by
  rcases synced.sound.mirrors (.wake number) with idles | ⟨task, _, found, fires⟩
  · obtain ⟨poller, silent⟩ := Prod.mk.inj idles
    left
    simp only [TaskPool.perform] at poller silent
    simp only [perform, silent, poller, ← synced.poller]
    rfl
  · refine .inr ⟨task, found, ?_⟩
    rw [← synced.poller] at fires
    simp only [Session.perform, Session.fire, ← fires]
    rfl

theorem Synced.next (synced : tasked.Synced) (deed : Deed) : (tasked.next deed).Synced := by
  refine ⟨TaskPool.after_sound synced.sound _, ?_⟩
  cases deed with
  | act action own => exact orders_poller synced.poller tasked.source own
  | wake number => rfl

theorem start_synced (frame : Frame) (host : HostPage) (request : PaymentRequest)
    (settings : Session.Settings) (source : Source) :
    (start frame host request settings source).Synced :=
  ⟨TaskPool.idle_sound, rfl⟩

theorem Synced.after (synced : tasked.Synced) (deeds : List Deed) : (tasked.after deeds).Synced :=
  Run.keeps (P := Synced) (fun _ deed synced => synced.next deed) synced deeds

/-- What a deed does is some run of the session with one loop, of one action at most. -/
theorem Synced.perform_refines (synced : tasked.Synced) (deed : Deed) :
    ∃ actions, (tasked.next deed).session = tasked.session.after actions ∧
      (tasked.perform deed).effects = tasked.session.shown actions := by
  cases deed with
  | act action own => exact ⟨[action], rfl, (List.append_nil _).symm⟩
  | wake number =>
    rcases synced.wake number with idles | ⟨task, _, fires⟩
    · exact ⟨[], congrArg Session.Step.session idles, congrArg Session.Step.effects idles⟩
    · refine ⟨[.fire task.source], congrArg Session.Step.session fires, ?_⟩
      exact (congrArg Session.Step.effects fires).trans (List.append_nil _).symm

def shown (tasked : TaskedSession) (deeds : List Deed) : List SessionEffect :=
  (tasked.history deeds).flatMap fun moment => (moment.before.perform moment.action).effects

/-- Whatever a session with tasks does, the session with one loop does in some run of its own. -/
theorem Synced.run_refines (synced : tasked.Synced) (deeds : List Deed) :
    ∃ actions, (tasked.after deeds).session = tasked.session.after actions ∧
      tasked.shown deeds = tasked.session.shown actions := by
  induction deeds generalizing tasked with
  | nil => exact ⟨[], rfl, rfl⟩
  | cons deed rest ih =>
    obtain ⟨first, once, showing⟩ := synced.perform_refines deed
    obtain ⟨later, ends, shows⟩ := ih (synced.next deed)
    refine ⟨first ++ later, ?_, ?_⟩
    · rw [Session.after_append, ← once]
      exact ends
    · rw [Session.shown_append, ← once, ← showing, ← shows]
      rfl

/-- What every step of the session with one loop keeps, a session with tasks keeps in all its runs. -/
theorem Synced.keeps {P : Session → Prop} (preserves : ∀ session action, P session → P (session.next action))
    (synced : tasked.Synced) (initial : P tasked.session) (deeds : List Deed) : P (tasked.after deeds).session := by
  obtain ⟨actions, same, _⟩ := synced.run_refines deeds
  rw [same]
  exact Run.keeps (P := P) preserves initial actions

end TaskedSession
end PayBridge
