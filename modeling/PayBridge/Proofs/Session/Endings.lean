import PayBridge.Proofs.Session.Closing
import PayBridge.Proofs.Session.Settled

/-! What stays once a payment has ended, well or badly. Every way to the end leaves neither a loop nor an attempt
behind, so nothing that the host page still says, and no page of the ledger that still comes, finds anybody who
waits for it. -/
namespace PayBridge

namespace Session

structure IsQuiet (session : Session) : Prop where
  still : session.poller.loop = none
  free : session.handshake.state.isInFlight = false

/-- Whether the user begins something with the action. Closing begins nothing. -/
def Action.begins : Action → Bool
  | .showQr | .connectWallet _ _ _ | .retry | .replace _ => true
  | _ => false

variable {s : Session}

/-- Where nothing goes on, an action that begins nothing shows nothing and leaves the phase as it is, and so does
every message: it is ignored. -/
theorem IsQuiet.perform (quiet : s.IsQuiet) {action : Action} (idle : action.begins = false) :
    (s.perform action).effects = [] ∧ (s.next action).phase = s.phase ∧
    (s.next action).poller.asked = s.poller.asked ∧ (s.next action).IsQuiet ∧
    ∀ outcome, (s.perform action).result = .heard outcome → outcome = .ignored := by
  have moves := s.perform_moves action
  unfold Session.next
  generalize s.perform action = step at moves ⊢
  cases moves with
  | scans | rescans | clears | replaces | refuses | fails | posts => cases idle
  | closed shut needs =>
    refine ⟨rfl, rfl, rfl, quiet, fun outcome heard => ?_⟩
    cases action <;> cases heard
    rfl
  | closes => exact ⟨rfl, rfl, rfl, ⟨rfl, rfl⟩, nofun⟩
  | drops | ignores =>
    refine ⟨rfl, rfl, rfl, ⟨quiet.still, quiet.free⟩, ?_⟩
    rintro _ ⟨⟩
    rfl
  | rests | waits => exact ⟨rfl, rfl, rfl, ⟨quiet.still, quiet.free⟩, nofun⟩
  | connects _ _ state =>
    have free := quiet.free
    rw [state] at free
    cases free
  | pays _ _ inFlight | breaks _ _ inFlight => exact absurd (quiet.free.symm.trans inFlight) (by decide)
  | fires running =>
    rw [quiet.still] at running
    cases running

end Session

namespace TaskedSession

def Deed.begins : Deed → Bool
  | .act action _ => action.begins
  | .wake _ => false

variable {tasked : TaskedSession}

/-- Where nothing goes on, a task that is woken late does what firing no loop does. -/
theorem quiet_perform (synced : tasked.Synced) (quiet : tasked.session.IsQuiet) {deed : Deed}
    (idle : deed.begins = false) :
    (tasked.perform deed).effects = [] ∧ (tasked.next deed).session.phase = tasked.session.phase ∧
    (tasked.next deed).session.poller.asked = tasked.session.poller.asked ∧
    (tasked.next deed).session.IsQuiet ∧
    ∀ outcome, (tasked.perform deed).result = .heard outcome → outcome = .ignored := by
  cases deed with
  | act action own => exact quiet.perform idle
  | wake number =>
    unfold TaskedSession.next
    rcases synced.wake number with idles | ⟨task, _, fires⟩
    · simp only [idles]
      exact ⟨rfl, rfl, rfl, quiet, nofun⟩
    · simp only [fires]
      exact quiet.perform rfl

theorem quiet_run (synced : tasked.Synced) (quiet : tasked.session.IsQuiet) {deeds : List Deed}
    (idle : ∀ deed ∈ deeds, deed.begins = false) :
    tasked.shown deeds = [] ∧ (tasked.after deeds).session.phase = tasked.session.phase ∧
    (tasked.after deeds).session.poller.asked = tasked.session.poller.asked ∧
    (tasked.after deeds).session.IsQuiet ∧
    ∀ moment ∈ tasked.history deeds, ∀ outcome,
      (moment.before.perform moment.action).result = .heard outcome → outcome = .ignored := by
  induction deeds generalizing tasked with
  | nil => exact ⟨rfl, rfl, rfl, quiet, List.forall_mem_nil _⟩
  | cons deed rest ih =>
    obtain ⟨first, others⟩ := List.forall_mem_cons.mp idle
    obtain ⟨silent, phase, asked, still, ignored⟩ := quiet_perform synced quiet first
    obtain ⟨silence, stays, unasked, ends, unheard⟩ := ih (synced.next deed) still others
    exact ⟨List.append_eq_nil_iff.mpr ⟨silent, silence⟩, stays.trans phase, unasked.trans asked, ends,
      List.forall_mem_cons.mpr ⟨ignored, unheard⟩⟩

theorem Hands.begins {moment : Moment TaskedSession Deed} {posting : Posting} (hands : Hands moment posting) :
    moment.action.begins = true := by
  obtain ⟨before, deed⟩ := moment
  cases deed with
  | act action own =>
    cases action with
    | connectWallet => rfl
    | _ => exact hands.elim
  | wake number => exact hands.elim

/-- However a payment came to its end, and whatever the host page says then, however much time passes and whichever
of the tasks is woken with whatever page: until the user begins something, the phase stays as it is, nothing is
shown, posted or handed to the port, nothing is asked of the ledger, and every message is ignored. -/
theorem only_the_user_leaves_an_end (frame : Frame) (host : HostPage) (request : PaymentRequest)
    (settings : Session.Settings) (source : Source) (earlier later : List Deed)
    (ended : ((start frame host request settings source).after earlier).session.phase.isTerminal = true)
    (idle : ∀ deed ∈ later, deed.begins = false) :
    let before := (start frame host request settings source).after earlier
    let now := before.after later
    now.session.phase = before.session.phase ∧ before.shown later = [] ∧ now.pool.asked = before.pool.asked ∧
    (∀ moment ∈ before.history later,
      (∀ outcome, (moment.before.perform moment.action).result = .heard outcome → outcome = .ignored) ∧
      ∀ posting, ¬ Hands moment posting) ∧
    ∀ other duration, now.session.advance other duration = now.session.wait duration := by
  intro before now
  have begun := start_synced frame host request settings source
  have synced : before.Synced := begun.after earlier
  have occupied : before.session.Occupied :=
    begun.keeps (fun _ action occupied => occupied.next action)
      (Session.start_occupied frame host request settings) earlier
  obtain ⟨still, free⟩ := occupied.ended ended
  obtain ⟨silent, phase, asked, quiet, ignored⟩ := quiet_run synced ⟨still, free⟩ idle
  refine ⟨phase, silent, ?_, fun moment member => ⟨ignored moment member, fun posting hands => ?_⟩, ?_⟩
  · have ends := congrArg Poller.asked (synced.after later).poller
    have begins := congrArg Poller.asked synced.poller
    exact ends.symm.trans (asked.trans begins)
  · obtain ⟨_, _, shape, _⟩ := Run.of_mem_history member
    have none := idle moment.action (by rw [shape]; simp)
    exact absurd (none.symm.trans hands.begins) (by decide)
  · exact Session.advance_still quiet.still

/-- A scan is given up, while its page is on its way, for a wallet that then fails to pay. The page holds the memo of
the request, and the host page takes back what it said. -/
theorem failed_payment_stays_failed :
    let source := Source.ofScript [⟨500, .page (.entries [⟨"late", some "[6] pl-0-1"⟩])⟩]
    let session := start ⟨"null", none, none, []⟩ ⟨[⟨"Phantom", none, true, none⟩], true⟩ Session.twoCoins
      .standard source
    let message (fields : List (String × Json)) := Deed.act (.handle ⟨"https://shop.example", true, .object fields⟩) rfl
    let paid := message [("signature", .string "sig"), ("type", .string "paymentSuccess")]
    let earlier := [.act .showQr rfl, .wake 0, .wake 0, .act (.connectWallet (fun _ => .ok ()) "Phantom" none) rfl,
      message [("type", .string "paymentError")]]
    let later := [.wake 0, paid, .act (.wait 600) rfl, .wake 0, paid]
    (session.after earlier).session.phase.isTerminal = true ∧ (∀ deed ∈ later, deed.begins = false) ∧
      ((session.after earlier).after later).session.phase =
        .error (.paymentFailed Handshake.paymentFailureText) := by
  intro source session message paid earlier later
  have failed : (session.after earlier).session.phase = .error (.paymentFailed Handshake.paymentFailureText) := by
    decide +kernel
  have ended : (session.after earlier).session.phase.isTerminal = true := by rw [failed]; rfl
  have idle : ∀ deed ∈ later, deed.begins = false := by simp [later, paid, message, Deed.begins, Session.Action.begins]
  have begun : session = start ⟨"null", none, none, []⟩ ⟨[⟨"Phantom", none, true, none⟩], true⟩ Session.twoCoins
    .standard source := rfl
  rw [begun] at ended
  obtain ⟨stays, _⟩ := only_the_user_leaves_an_end _ _ _ _ _ earlier later ended idle
  rw [← begun] at stays ended
  exact ⟨ended, idle, stays.trans failed⟩

end TaskedSession
end PayBridge
