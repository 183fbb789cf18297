import PayBridge.Proofs.Session.Success

/-! What leads out of success. Nothing that the host page or the ledger says does, but showing the code,
connecting a wallet and retrying never ask whether the request was paid: each begins anew with it. -/
namespace PayBridge.Session

/-- A loop runs only while the code is shown, and an attempt is in flight only while its wallet is named. -/
structure Occupied (session : Session) : Prop where
  polling : session.poller.isRunning = true → ∃ status, session.phase = .scanning status
  attempt : session.handshake.state.isInFlight = true →
    ∃ walletName, session.phase = .connecting walletName ∨ session.phase = .processing walletName

variable {s : Session}

theorem Occupied.stopped (occupied : s.Occupied) (inFlight : s.handshake.state.isInFlight = true) :
    s.poller.isRunning = false := by
  cases running : s.poller.isRunning with
  | false => rfl
  | true =>
    obtain ⟨status, scanning⟩ := occupied.polling running
    obtain ⟨walletName, connecting | processing⟩ := occupied.attempt inFlight
    · cases scanning.symm.trans connecting
    · cases scanning.symm.trans processing

theorem Occupied.next (occupied : s.Occupied) (action : Action) : (s.next action).Occupied := by
  have moves := s.perform_moves action
  unfold Session.next
  generalize s.perform action = step at moves ⊢
  cases moves with
  | closed | refuses | drops | ignores | rests | waits => exact ⟨occupied.polling, occupied.attempt⟩
  | scans | rescans => exact ⟨fun _ => ⟨none, rfl⟩, nofun⟩
  | clears | replaces | closes | pays => exact ⟨nofun, nofun⟩
  | fails =>
    refine ⟨occupied.polling, fun inFlight => occupied.attempt ?_⟩
    simpa only [Handshake.issueId_state] using inFlight
  | posts => exact ⟨nofun, fun _ => ⟨_, .inl rfl⟩⟩
  | connects _ _ state =>
    have stopped := occupied.stopped (by rw [state]; rfl)
    exact ⟨fun running => absurd (stopped.symm.trans running) (by decide), fun _ => ⟨_, .inr rfl⟩⟩
  | breaks _ _ inFlight =>
    have stopped := occupied.stopped inFlight
    exact ⟨fun running => absurd (stopped.symm.trans running) (by decide), nofun⟩
  | @fires _ loop _ running fired =>
    have isRunning : s.poller.isRunning = true := by simp only [Poller.isRunning, running, Option.isSome_some]
    refine ⟨fun goesOn => ?_, fun inFlight => ?_⟩
    · cases fired with
      | delayed | fetches => exact occupied.polling isRunning
      | @goesOn _ _ page _ more =>
        -- the phase is that of the finding, which is no last one
        show ∃ status, Phase.ofFinding (loop.search.observe page).2 = .scanning status
        cases finding : (loop.search.observe page).2 with
        | status text => exact ⟨some text, rfl⟩
        | confirmed | timedOut =>
          rw [finding] at more
          cases more
      | ends | dies => cases goesOn
    · exact absurd ((occupied.stopped inFlight).symm.trans isRunning) (by decide)

theorem start_occupied (frame : Frame) (host : HostPage) (request : PaymentRequest)
    (settings : Session.Settings) : (start frame host request settings).Occupied :=
  ⟨nofun, nofun⟩

theorem after_occupied (occupied : s.Occupied) (actions : List Action) : (s.after actions).Occupied :=
  Run.keeps (P := Occupied) (fun _ action occupied => occupied.next action) occupied actions

theorem Occupied.ended (occupied : s.Occupied) (ended : s.phase.isTerminal = true) :
    s.poller.loop = none ∧ s.handshake.state.isInFlight = false := by
  constructor
  · cases running : s.poller.loop with
    | none => rfl
    | some loop =>
      obtain ⟨status, scanning⟩ := occupied.polling (by simp only [Poller.isRunning, running, Option.isSome_some])
      rw [scanning] at ended
      cases ended
  · cases inFlight : s.handshake.state.isInFlight with
    | false => rfl
    | true =>
      obtain ⟨walletName, connecting | processing⟩ := occupied.attempt inFlight
      · rw [connecting] at ended
        cases ended
      · rw [processing] at ended
        cases ended

theorem Occupied.settled (occupied : s.Occupied) {signature : String} (settled : s.phase = .success signature) :
    s.poller.loop = none ∧ s.handshake.state.isInFlight = false :=
  occupied.ended (by rw [settled]; rfl)

/-- The phase after an action that found the session in success, by what the action answered. -/
def phaseAfterSuccess (signature : String) : Action → Result → Phase
  | .showQr, _ => .scanning none
  | .retry, _ | .replace _, _ => .idle
  | .connectWallet _ walletName _, .answered (.ok _) => .connecting walletName
  | _, _ => .success signature

/-- The action connects a wallet, and the port takes its message. -/
def Connects (moment : Moment Session Action) : Prop :=
  (∃ port walletName typedAmount, moment.action = .connectWallet port walletName typedAmount) ∧
  (moment.before.perform moment.action).result = .answered (.ok ())

/-- Whatever finds a session in success while nothing goes on in it: what it leaves there and what it posts. -/
theorem leaves_success {signature : String} (opened : s.isClosed = false) (settled : s.phase = .success signature)
    (still : s.poller.loop = none) (free : s.handshake.state.isInFlight = false) (action : Action) :
    (s.next action).phase = phaseAfterSuccess signature action (s.perform action).result ∧
    ((∃ posting, .posted posting ∈ (s.perform action).effects) → Connects ⟨s, action⟩) ∧
    (Connects ⟨s, action⟩ → PostsFor s.request ⟨s, action⟩) := by
  have moves := s.perform_moves action
  unfold Session.next Connects
  generalize performed : s.perform action = step at moves ⊢
  cases moves with
  | closed shut =>
    rw [opened] at shut
    cases shut
  | scans | clears | replaces => exact ⟨rfl, by simp, nofun⟩
  | rescans _ late => cases settled.symm.trans late
  | closes | drops | ignores | rests | waits => exact ⟨settled, by simp, nofun⟩
  | refuses | fails => exact ⟨settled, by simp, nofun⟩
  | @posts port walletName typedAmount _ _ _ _ _ priced =>
    have posted : PostsFor s.request ⟨s, .connectWallet port walletName typedAmount⟩ :=
      posts_for priced (by rw [performed]; exact List.mem_cons_self)
    exact ⟨rfl, fun _ => ⟨⟨_, _, _, rfl⟩, rfl⟩, fun _ => posted⟩
  | connects _ _ state =>
    rw [state] at free
    cases free
  | pays _ _ inFlight | breaks _ _ inFlight =>
    rw [inFlight] at free
    cases free
  | fires running =>
    rw [still] at running
    cases running

/-- However a session came to succeed, and whatever is done to it while it is open: message events, polling and
time leave it there. Showing the code, retrying and replacing the request always lead out of it, and so does
connecting a wallet if the port takes the message, which then asks to pay the request that was paid. -/
theorem success_yields_to_the_user (frame : Frame) (host : HostPage) (request : PaymentRequest)
    (settings : Session.Settings) (actions : List Action) (action : Action) (signature : String)
    (opened : ((start frame host request settings).after actions).isClosed = false)
    (settled : ((start frame host request settings).after actions).phase = .success signature) :
    let now := (start frame host request settings).after actions
    (now.next action).phase = phaseAfterSuccess signature action (now.perform action).result ∧
    ((∃ posting, .posted posting ∈ (now.perform action).effects) → Connects ⟨now, action⟩) ∧
    (Connects ⟨now, action⟩ → PostsFor now.request ⟨now, action⟩) := by
  intro now
  have occupied : now.Occupied := after_occupied (start_occupied frame host request settings) actions
  obtain ⟨still, free⟩ := occupied.settled settled
  exact leaves_success opened settled still free action

/-- A payment that the host page has reported, and one that a scan has found. Both are begun anew on demand,
without another request. -/
theorem paid_requests_are_paid_again :
    let source := Source.ofScript [⟨0, .page (.entries [⟨"sig", some "[6] pl-0-1"⟩])⟩]
    let session :=
      start ⟨"null", none, none, []⟩ ⟨[⟨"Phantom", none, true, none⟩], true⟩ twoCoins .standard
    let connect := Action.connectWallet (fun _ => .ok ()) "Phantom" none
    let report := Action.handle ⟨"https://shop.example", true,
      .object [("signature", .string "sig"), ("type", .string "paymentSuccess")]⟩
    ∀ paid ∈ [session.after [connect, report],
        session.after [.showQr, .fire source, .fire source, .fire source]],
      paid.phase = .success "sig" ∧ paid.isClosed = false ∧
      (paid.next .showQr).phase = .scanning none ∧ (paid.next .retry).phase = .idle ∧
      (paid.next connect).phase = .connecting "Phantom" ∧
      ∃ posting, .posted posting ∈ (paid.perform connect).effects := by
  intro source session connect report
  refine List.forall_mem_cons.mpr ⟨?_, List.forall_mem_singleton.mpr ?_⟩
  · exact ⟨by decide +kernel, by decide +kernel, rfl, by decide +kernel, by decide +kernel, _,
      List.mem_cons_self⟩
  · exact ⟨by decide +kernel, by decide +kernel, rfl, by decide +kernel, by decide +kernel, _,
      List.mem_cons_self⟩

/-- The wallet that paid is asked to pay again. -/
theorem paying_again_posts_again :
    let session :=
      start ⟨"null", none, none, []⟩ ⟨[⟨"Phantom", none, true, none⟩], true⟩ twoCoins .standard
    let connect := Action.connectWallet (fun _ => .ok ()) "Phantom" none
    let report := Action.handle ⟨"https://shop.example", true,
      .object [("signature", .string "sig"), ("type", .string "paymentSuccess")]⟩
    let paid := session.after [connect, report]
    paid.phase = .success "sig" ∧ Connects ⟨paid, connect⟩ ∧ PostsFor paid.request ⟨paid, connect⟩ := by
  intro session connect report paid
  have settled : paid.phase = .success "sig" := by decide +kernel
  have opened : paid.isClosed = false := by decide +kernel
  have connects : Connects ⟨paid, connect⟩ := ⟨⟨_, _, _, rfl⟩, rfl⟩
  obtain ⟨_, _, posts⟩ := success_yields_to_the_user _ _ _ _ _ connect _ opened settled
  exact ⟨settled, connects, posts connects⟩

end PayBridge.Session
