import PayBridge.Proofs.Host.Channel
import PayBridge.Proofs.Session.Moves

/-! What a session hands to its port, taken or refused, and where it goes. The targets of a whole run keep
to one origin, and a message for every origin leaves only before the host page was ever heard. -/
namespace PayBridge.Session

/-- Whether what is done with a port hangs on the port's word on this posting. -/
def Consults {α : Type} (ask : Port → α) (posting : Posting) : Prop :=
  ∃ port port' : Port, (∀ other, other ≠ posting → port other = port' other) ∧ ask port ≠ ask port'

/-- The step hands the posting to the port, whatever the port makes of it. -/
def Hands (moment : Moment Session Action) (posting : Posting) : Prop :=
  match moment.action with
  | .connectWallet _ walletName typedAmount =>
    Consults (moment.before.connectWallet · walletName typedAmount) posting
  | _ => False

def Accepts (moment : Moment Session Action) (event : Arrival) : Prop :=
  moment.action = .handle event ∧ moment.before.isClosed = false ∧
    ∃ message channel, moment.before.channel.accept event = .ok (message, channel)

variable {past : List (Moment Session Action)} {now : Session} {action : Action} {posting : Posting}
  {event : Arrival} {frame : Frame} {settings : Channel.Settings}

theorem Hands.opening (hands : Hands ⟨now, action⟩ posting) :
    ∃ walletName typedAmount amount target, now.channel.target? = some target ∧
      posting = now.handshake.opening (now.order walletName typedAmount) amount target := by
  cases action with
  | connectWallet _ walletName typedAmount =>
    obtain ⟨port, port', same, differs⟩ := hands
    rcases now.connectWallet_cases walletName typedAmount with
      ⟨cause, _, refused⟩ | ⟨_, amount, target, _, _, trusted, _, settled⟩
    · exact absurd ((refused port).trans (refused port').symm) differs
    · refine ⟨walletName, typedAmount, amount, target, trusted, ?_⟩
      -- two ports that agree on the opening lead to the same step
      by_cases handed : posting = now.handshake.opening (now.order walletName typedAmount) amount target
      · exact handed
      · exact absurd (by simp only [settled, same _ (Ne.symm handed)]) differs
  | _ => exact hands.elim

theorem posted_connects (posted : .posted posting ∈ (now.perform action).effects) :
    ∃ port walletName typedAmount, action = .connectWallet port walletName typedAmount := by
  have moves := now.perform_moves action
  generalize now.perform action = step at moves posted
  cases moves with
  | posts => exact ⟨_, _, _, rfl⟩
  | fires => exact absurd posted (posted_not_polled _ _)
  | _ => simp at posted

/-- What is shown as posted was handed to the port: had the port refused it, the step would have failed. -/
theorem posted_hands (posted : .posted posting ∈ (now.perform action).effects) :
    Hands ⟨now, action⟩ posting := by
  classical
  obtain ⟨port, walletName, typedAmount, rfl⟩ := posted_connects posted
  simp only [perform, Step.map] at posted
  rcases now.connectWallet_cases walletName typedAmount with
    ⟨cause, _, refused⟩ | ⟨_, amount, target, _, _, _, _, settled⟩
  · rw [refused] at posted
    exact absurd posted List.not_mem_nil
  · have handed : posting = now.handshake.opening (now.order walletName typedAmount) amount target := by
      rw [settled] at posted
      cases said : port (now.handshake.opening (now.order walletName typedAmount) amount target) with
      | error reason =>
        rw [said] at posted
        exact absurd posted List.not_mem_nil
      | ok =>
        rw [said] at posted
        simpa using posted
    -- a port that takes everything, and one that refuses just this posting
    refine ⟨fun _ => .ok (), fun other => if other = posting then .error "" else .ok (), ?_, ?_⟩
    · intro other different
      simp only [if_neg different]
    · intro same
      have results := congrArg Step.result same
      simp only [settled, ← handed, ↓reduceIte] at results
      cases results

theorem next_channel (now : Session) (action : Action) :
    (now.next action).channel = now.channel ∧ (∀ event, ¬ Accepts ⟨now, action⟩ event) ∨
    ∃ event message, action = .handle event ∧
      now.channel.accept event = .ok (message, (now.next action).channel) := by
  have moves := now.perform_moves action
  unfold next
  generalize now.perform action = step at moves ⊢
  cases moves with
  | closed shut =>
    refine .inl ⟨rfl, ?_⟩
    rintro event ⟨_, opened, _⟩
    exact absurd (shut.symm.trans opened) (by decide)
  | drops _ dropped =>
    refine .inl ⟨rfl, ?_⟩
    rintro event ⟨asked, _, message, channel, accepted⟩
    cases asked
    rw [dropped] at accepted
    cases accepted
  | ignores _ accepted | connects _ accepted | pays _ accepted | breaks _ accepted =>
    exact .inr ⟨_, _, rfl, accepted⟩
  | _ => exact .inl ⟨rfl, fun _ accepts => nomatch accepts.1⟩

/-- What the channel of a session has kept to since the frame was mounted. -/
structure Guarded (frame : Frame) (settings : Channel.Settings) (past : List (Moment Session Action))
    (now : Session) : Prop where
  mayInfer : now.channel.mayInfer = (Channel.ofFrame frame settings).mayInfer
  free : now.channel.locked = none → (Channel.ofFrame frame settings).locked = none ∧
    ∀ moment ∈ past, ∀ event, ¬ Accepts moment event
  web : ∀ origin, now.channel.locked = some origin → Origin.IsWebText origin
  source : ∀ origin, now.channel.locked = some origin →
    (Channel.ofFrame frame settings).locked = some origin ∨
    (Channel.ofFrame frame settings).mayInfer = true
  handed : ∀ moment ∈ past, ∀ posting, Hands moment posting → posting.target ≠ Channel.anyOrigin →
    now.channel.locked = some posting.target

theorem Guarded.keep (guarded : Guarded frame settings past now)
    (same : (now.next action).channel = now.channel) (silent : ∀ event, ¬ Accepts ⟨now, action⟩ event) :
    Guarded frame settings (past ++ [⟨now, action⟩]) (now.next action) where
  mayInfer := by
    rw [same]
    exact guarded.mayInfer
  free := by
    rw [same]
    intro free
    obtain ⟨unlocked, unheard⟩ := guarded.free free
    exact ⟨unlocked, List.forall_mem_append.mpr ⟨unheard, List.forall_mem_singleton.mpr silent⟩⟩
  web := by
    rw [same]
    exact guarded.web
  source := by
    rw [same]
    exact guarded.source
  handed := by
    rw [same]
    refine List.forall_mem_append.mpr ⟨guarded.handed, List.forall_mem_singleton.mpr ?_⟩
    -- a posting of this very step goes where the channel says, and it says the same afterwards
    intro posting hands concrete
    obtain ⟨_, _, _, target, trusted, rfl⟩ := hands.opening
    rcases Channel.target?_cases trusted with locked | ⟨_, _, any⟩
    · exact locked
    · exact absurd any concrete

theorem Guarded.adopt (guarded : Guarded frame settings past now) {message : Message}
    (accepted : now.channel.accept event = .ok (message, (now.next (.handle event)).channel)) :
    Guarded frame settings (past ++ [⟨now, .handle event⟩]) (now.next (.handle event)) := by
  have step := Channel.next_accept accepted
  obtain ⟨_, locked, _⟩ := Channel.accept_trusted accepted
  have adopts := Channel.next_cases now.channel (.accept event)
  rw [step] at adopts
  refine ⟨?_, ?_, ?_, ?_, ?_⟩
  · rw [← step, Channel.next_mayInfer]
    exact guarded.mayInfer
  · intro free
    rw [locked] at free
    contradiction
  · intro origin trusted
    rcases adopts with same | ⟨_, _, _, _, canonical, adopted⟩
    · rw [same] at trusted
      exact guarded.web origin trusted
    · rw [adopted] at trusted
      obtain rfl := Option.some.inj trusted
      exact Origin.parse?_web canonical
  · intro origin trusted
    rcases adopts with same | ⟨_, _, _, infers, _, _⟩
    · rw [same] at trusted
      exact guarded.source origin trusted
    · exact .inr (guarded.mayInfer.symm.trans infers)
  · refine List.forall_mem_append.mpr ⟨?_, List.forall_mem_singleton.mpr fun _ hands => hands.elim⟩
    intro moment member posting hands concrete
    rw [← step]
    exact Channel.next_locked (guarded.handed moment member posting hands concrete) _

theorem Guarded.next (guarded : Guarded frame settings past now) (action : Action) :
    Guarded frame settings (past ++ [⟨now, action⟩]) (now.next action) := by
  rcases next_channel now action with ⟨same, silent⟩ | ⟨event, message, rfl, accepted⟩
  · exact guarded.keep same silent
  · exact guarded.adopt accepted

theorem start_guarded (frame : Frame) (host : HostPage) (request : PaymentRequest)
    (settings : Session.Settings)
    (pinned : ∀ expected, settings.channel.expectedOrigin = some expected → expected.IsRead) :
    Guarded frame settings.channel [] (start frame host request settings) where
  mayInfer := rfl
  free unlocked := ⟨unlocked, fun _ member => absurd member List.not_mem_nil⟩
  web _ locked := Channel.ofFrame_web pinned locked
  source _ locked := .inl locked
  handed _ member := absurd member List.not_mem_nil

theorem run_guarded (frame : Frame) (host : HostPage) (request : PaymentRequest)
    (settings : Session.Settings)
    (pinned : ∀ expected, settings.channel.expectedOrigin = some expected → expected.IsRead)
    (actions : List Action) :
    Guarded frame settings.channel ((start frame host request settings).history actions)
      ((start frame host request settings).after actions) :=
  Run.invariant (start_guarded frame host request settings pinned)
    (fun _ _ action guarded => guarded.next action) actions

/-- All that a session ever hands to its port asks to connect a wallet and goes to the trusted origin. While
there is none it goes to every origin, and only from an inline frame that knows of no origin and has not
heard its host page yet. A concrete origin that was written to once is the only one from then on. -/
theorem postings_keep_to_one_origin (frame : Frame) (host : HostPage) (request : PaymentRequest)
    (settings : Session.Settings)
    (pinned : ∀ expected, settings.channel.expectedOrigin = some expected → expected.IsRead)
    (actions : List Action) (action : Action) (posting : Posting)
    (hands : Hands ⟨(start frame host request settings).after actions, action⟩ posting) :
    (∃ asked, posting.message = (Message.walletConnect asked).toJson) ∧
    posting.target =
      ((start frame host request settings).after actions).channel.locked.getD Channel.anyOrigin ∧
    (posting.target = Channel.anyOrigin →
      frame.isInline = true ∧ settings.channel.pinned? = none ∧ Channel.mountedOrigin? frame = none ∧
      ∀ moment ∈ (start frame host request settings).history actions, ∀ event,
        ¬ Accepts moment event) ∧
    posting.target ≠ Origin.opaqueText ∧
    (∀ moment ∈ (start frame host request settings).history actions, ∀ earlier,
      Hands moment earlier → earlier.target ≠ Channel.anyOrigin → posting.target = earlier.target) ∧
    ¬ (frame.isInline = false ∧ settings.channel.pinned? = none ∧ Channel.mountedOrigin? frame = none) := by
  have guarded := run_guarded frame host request settings pinned actions
  generalize (start frame host request settings).after actions = now at *
  generalize (start frame host request settings).history actions = past at *
  obtain ⟨walletName, typedAmount, amount, target, trusted, rfl⟩ := hands.opening
  refine ⟨⟨_, rfl⟩, ?_⟩
  rcases Channel.target?_cases trusted with locked | ⟨unlocked, infers, rfl⟩
  · have web := guarded.web target locked
    refine ⟨by rw [locked]; rfl, fun any => absurd any web.ne_any, web.ne_opaque, ?_, ?_⟩
    · intro moment member earlier hands concrete
      exact Option.some.inj (locked.symm.trans (guarded.handed moment member earlier hands concrete))
    · rintro ⟨framed, unpinned, unfound⟩
      rcases guarded.source target locked with known | infers
      · simp [Channel.ofFrame, unpinned, unfound] at known
      · simp [Channel.mayInfer, Channel.ofFrame, framed] at infers
  · obtain ⟨free, unheard⟩ := guarded.free unlocked
    rw [guarded.mayInfer] at infers
    obtain ⟨isInline, unpinned, unfound⟩ := Channel.ofFrame_free free infers
    refine ⟨by rw [unlocked]; rfl, fun _ => ⟨isInline, unpinned, unfound, unheard⟩, ?_, ?_, ?_⟩
    · exact show Channel.anyOrigin ≠ Origin.opaqueText by decide
    · intro moment member earlier hands concrete
      have locked := guarded.handed moment member earlier hands concrete
      rw [unlocked] at locked
      contradiction
    · rintro ⟨framed, _⟩
      rw [isInline] at framed
      contradiction

/-- The first posting of an inline frame that knows of no origin. -/
theorem first_posting_goes_to_every_origin :
    let session :=
      start ⟨"null", none, none, []⟩ ⟨[⟨"Phantom", none, true, none⟩], true⟩ twoCoins .standard
    let action := Action.connectWallet (fun _ => .ok ()) "Phantom" none
    ∃ posting, Hands ⟨session.after [.showQr], action⟩ posting ∧ posting.target = Channel.anyOrigin := by
  intro session action
  have posts : ∃ posting, .posted posting ∈ ((session.after [.showQr]).perform action).effects :=
    ⟨_, List.mem_cons_self⟩
  obtain ⟨posting, posted⟩ := posts
  have hands := posted_hands posted
  obtain ⟨_, target, _⟩ := postings_keep_to_one_origin _ _ _ _ (by rintro _ ⟨⟩) _ _ _ hands
  have free : (session.after [.showQr]).channel.locked = none := by decide +kernel
  rw [free] at target
  exact ⟨posting, hands, target⟩

end PayBridge.Session
