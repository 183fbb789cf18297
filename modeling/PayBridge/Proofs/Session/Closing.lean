import PayBridge.Proofs.Session.Outbound
import PayBridge.Proofs.Session.Tasks

/-! What comes after closing: nothing. What is asked of a closed session is refused, and a page that was still
on its way finds its task marked. -/
namespace PayBridge

namespace Session

structure IsShut (session : Session) : Prop where
  closed : session.isClosed = true
  still : session.poller.loop = none

/-- The payment, its phase, whom the channel trusts and how often the ledger was asked are as before. -/
structure Stays (before now : Session) : Prop where
  phase : now.phase = before.phase
  request : now.request = before.request
  channel : now.channel = before.channel
  asked : now.poller.asked = before.poller.asked

variable {s : Session}

theorem Stays.trans {first second third : Session} (stays : first.Stays second) (later : second.Stays third) :
    first.Stays third :=
  ⟨later.phase.trans stays.phase, later.request.trans stays.request, later.channel.trans stays.channel,
    later.asked.trans stays.asked⟩

theorem close_shut (s : Session) : s.Stays (s.next .close) ∧ (s.next .close).IsShut :=
  ⟨⟨rfl, rfl, rfl, rfl⟩, ⟨rfl, rfl⟩⟩

/-- Whatever is done to a session that is shut is refused, shows nothing and changes nothing. -/
theorem IsShut.perform (shut : s.IsShut) (action : Action) :
    (s.perform action).result = action.refusal ∧ (s.perform action).effects = [] ∧
    s.Stays (s.next action) ∧ (s.next action).IsShut := by
  have moves := s.perform_moves action
  unfold Session.next
  generalize s.perform action = step at moves ⊢
  cases moves with
  | closed | rests | waits => exact ⟨rfl, rfl, ⟨rfl, rfl, rfl, rfl⟩, ⟨shut.closed, shut.still⟩⟩
  | closes => exact ⟨rfl, rfl, s.close_shut⟩
  | fires running =>
    rw [shut.still] at running
    cases running
  | scans opened | rescans opened | clears opened | replaces opened | refuses opened | fails opened
  | posts opened | drops opened | ignores opened | connects opened | pays opened | breaks opened =>
    rw [shut.closed] at opened
    cases opened

theorem IsShut.run (shut : s.IsShut) (actions : List Action) :
    s.Stays (s.after actions) ∧ (s.after actions).IsShut ∧ s.shown actions = [] := by
  induction actions generalizing s with
  | nil => exact ⟨⟨rfl, rfl, rfl, rfl⟩, shut, rfl⟩
  | cons action rest ih =>
    obtain ⟨_, silent, stays, still⟩ := shut.perform action
    obtain ⟨later, ends, shows⟩ := ih still
    exact ⟨stays.trans later, ends, List.append_eq_nil_iff.mpr ⟨silent, shows⟩⟩

theorem Hands.isOpen {action : Action} {posting : Posting} (hands : Hands ⟨s, action⟩ posting) :
    s.isClosed = false := by
  cases action with
  | connectWallet _ walletName typedAmount =>
    obtain ⟨port, port', _, differs⟩ := hands
    rcases s.connectWallet_cases walletName typedAmount with ⟨cause, _, refused⟩ | ⟨_, _, _, opened, _⟩
    · exact absurd ((refused port).trans (refused port').symm) differs
    · exact opened
  | _ => exact hands.elim

theorem advance_still (still : s.poller.loop = none) (source : Source) (duration : Nat) :
    s.advance source duration = s.wait duration := by
  simp only [Session.advance, Poller.advance, Session.wait, Poller.wait, still]
  rfl

theorem IsShut.advance (shut : s.IsShut) (source : Source) (duration : Nat) :
    s.advance source duration = s.wait duration :=
  advance_still shut.still source duration

end Session

namespace TaskedSession

def Deed.refusal : Deed → Session.Result
  | .act action _ => action.refusal
  | .wake _ => .nothing

/-- The deed hands the posting to the port, whatever the port makes of it. -/
def Hands (moment : Moment TaskedSession Deed) (posting : Posting) : Prop :=
  match moment.action with
  | .act action _ => Session.Hands ⟨moment.before.session, action⟩ posting
  | .wake _ => False

/-- Whatever was done before, and whatever is done after closing, to whichever of the tasks: phase, request and
channel stay as they were, nothing is shown, posted or even handed to the port, and nothing is asked of the
ledger. What can be refused is refused, and time that passes only sets the clock. -/
theorem close_is_final (frame : Frame) (host : HostPage) (request : PaymentRequest)
    (settings : Session.Settings) (source : Source) (earlier later : List Deed) :
    let before := (start frame host request settings source).after earlier
    let shut := before.next .close
    let now := shut.after later
    (now.session.phase = before.session.phase ∧ now.session.request = before.session.request ∧
      now.session.channel = before.session.channel) ∧
    now.pool.asked = before.pool.asked ∧
    (before.perform .close).effects = [] ∧ shut.shown later = [] ∧
    (∀ moment ∈ shut.history later,
      (moment.before.perform moment.action).result = moment.action.refusal ∧
      ∀ posting, ¬ Hands moment posting) ∧
    ∀ other duration, now.session.advance other duration = now.session.wait duration := by
  intro before shut now
  have synced : before.Synced := (start_synced frame host request settings source).after earlier
  obtain ⟨closes, isShut⟩ := before.session.close_shut
  have run : ∀ deeds, shut.session.Stays (shut.after deeds).session ∧ (shut.after deeds).session.IsShut ∧
      shut.shown deeds = [] := by
    intro deeds
    obtain ⟨actions, ends, shows⟩ := (synced.next .close).run_refines deeds
    rw [ends, shows]
    exact isShut.run actions
  obtain ⟨stays, still, silent⟩ := run later
  have same := closes.trans stays
  refine ⟨⟨same.phase, same.request, same.channel⟩, ?_, rfl, silent, ?_, still.advance⟩
  · have ends := congrArg Poller.asked ((synced.next .close).after later).poller
    have begins := congrArg Poller.asked synced.poller
    exact ends.symm.trans (same.asked.trans begins)
  · intro moment member
    obtain ⟨first, _, _, state, _⟩ := Run.of_mem_history member
    have still : moment.before.session.IsShut := by
      rw [state]
      exact (run first).2.1
    cases action : moment.action with
    | act operation own =>
      refine ⟨(still.perform operation).1, fun posting hands => ?_⟩
      simp only [Hands, action] at hands
      exact absurd (still.closed.symm.trans hands.isOpen) (by decide)
    | wake number =>
      refine ⟨rfl, fun posting hands => ?_⟩
      simp only [Hands, action] at hands

-- The page with the memo of the request is on its way when the session closes.
example :
    let source := Source.ofScript [⟨500, .page (.entries [⟨"sig", some "[6] pl-0-1"⟩])⟩]
    let asking := (start ⟨"null", none, none, []⟩ .scanOnly Session.twoCoins .standard source).after
      [.act .showQr rfl, .wake 0, .wake 0]
    (asking.after [.wake 0, .wake 0]).session.phase = .success "sig" ∧
      (asking.after [.close, .wake 0, .wake 0]).session.phase = .scanning none := by
  decide +kernel

end TaskedSession
end PayBridge
