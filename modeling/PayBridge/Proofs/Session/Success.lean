import PayBridge.Proofs.Host.Channel
import PayBridge.Proofs.Session.Moves

/-! A session succeeds only where a payment was seen: the host page reports one for the request that was
posted to it, or a page of the ledger holds the memo of the request. What is in flight and what the
polling looks for belong to the request that the session holds, whatever was done before. -/
namespace PayBridge.Session

/-- Whether an operation starts over: what was in flight and what was polled for is given up. -/
def Action.startsOver : Action → Bool
  | .showQr | .retry | .replace _ | .close => true
  | _ => false

def PostsFor (request : PaymentRequest) (moment : Moment Session Action) : Prop :=
  moment.before.request = request ∧
  ∃ port walletName typedAmount amount requestId posting,
    moment.action = .connectWallet port walletName typedAmount ∧
    (moment.before.order walletName typedAmount).amountToPay = .ok amount ∧
    posting.message =
      (Message.walletConnect ⟨walletName, amount, request.currency, requestId⟩).toJson ∧
    .posted posting ∈ (moment.before.perform moment.action).effects

/-- The step neither gives the attempt up, nor answers it for good, nor opens another one. -/
def KeepsAttempt (moment : Moment Session Action) : Prop :=
  moment.action.startsOver = false ∧
  (∀ outcome, (moment.before.perform moment.action).result = .heard outcome → outcome.isFinal = false) ∧
  ∀ posting, .posted posting ∉ (moment.before.perform moment.action).effects

/-- The step shows the code of the request and starts the loop that looks for its memo. -/
def StartsLoopFor (request : PaymentRequest) (moment : Moment Session Action) : Prop :=
  moment.before.request = request ∧ (moment.action = .showQr ∨ moment.action = .retry) ∧
  (moment.before.next moment.action).poller.loop =
    some (PollLoop.start moment.before.poller.now request.memo moment.before.schedule)

def KeepsLoop (moment : Moment Session Action) : Prop :=
  moment.action.startsOver = false ∧ (moment.before.next moment.action).poller.isRunning = true

/-- The phase becomes this one in the step, or is set to it once more. -/
def Enters (phase : Phase) (moment : Moment Session Action) : Prop :=
  moment.before.phase ≠ phase ∧ (moment.before.next moment.action).phase = phase ∨
  .phase phase ∈ (moment.before.perform moment.action).effects

/-- What is under way in a session has its beginning in the past, and has been for the request that the
session holds ever since. -/
structure Backed (past : List (Moment Session Action)) (now : Session) : Prop where
  attempt : now.handshake.state.isInFlight = true → Since KeepsAttempt (PostsFor now.request) past
  loop : now.poller.isRunning = true → Since KeepsLoop (StartsLoopFor now.request) past
  search : ∀ loop, now.poller.loop = some loop →
    loop.search.memo = now.request.memo ∧ loop.search.outcome = none
  closed : now.isClosed = true → now.handshake.state.isInFlight = false ∧ now.poller.loop = none

variable {past : List (Moment Session Action)} {now : Session} {action : Action} {step : Step Result}

theorem posts_for {port : Port} {walletName : String} {typedAmount : Option String} {amount : Decimal}
    {target : String} (priced : (now.order walletName typedAmount).amountToPay = .ok amount)
    (posted : .posted (now.handshake.opening (now.order walletName typedAmount) amount target) ∈
      (now.perform (.connectWallet port walletName typedAmount)).effects) :
    PostsFor now.request ⟨now, .connectWallet port walletName typedAmount⟩ :=
  ⟨rfl, port, walletName, typedAmount, amount, now.handshake.issueId.1, _, rfl, priced, rfl, posted⟩

theorem Backed.keepsAttempt (backed : Backed past now) (performed : now.perform action = step)
    (request : step.session.request = now.request) (gentle : action.startsOver = false)
    (unanswered : ∀ outcome, step.result = .heard outcome → outcome.isFinal = false)
    (unposted : ∀ posting, .posted posting ∉ step.effects)
    (inFlight : now.handshake.state.isInFlight = true) :
    Since KeepsAttempt (PostsFor step.session.request) (past ++ [⟨now, action⟩]) := by
  subst performed
  rw [request]
  exact (backed.attempt inFlight).keep ⟨gentle, unanswered, unposted⟩

theorem Backed.keepsLoop (backed : Backed past now) (performed : now.perform action = step)
    (request : step.session.request = now.request) (gentle : action.startsOver = false)
    (running : now.poller.isRunning = true) (goesOn : step.session.poller.isRunning = true) :
    Since KeepsLoop (StartsLoopFor step.session.request) (past ++ [⟨now, action⟩]) := by
  subst performed
  rw [request]
  exact (backed.loop running).keep ⟨gentle, goesOn⟩

theorem Backed.keep (backed : Backed past now) (performed : now.perform action = step)
    (gentle : action.startsOver = false)
    (unanswered : ∀ outcome, step.result = .heard outcome → outcome.isFinal = false)
    (unposted : ∀ posting, .posted posting ∉ step.effects)
    (request : step.session.request = now.request)
    (state : step.session.handshake.state = now.handshake.state)
    (loop : step.session.poller.loop = now.poller.loop)
    (closed : step.session.isClosed = now.isClosed) :
    Backed (past ++ [⟨now, action⟩]) step.session where
  attempt inFlight := by
    rw [state] at inFlight
    exact backed.keepsAttempt performed request gentle unanswered unposted inFlight
  loop running := by
    have was : now.poller.isRunning = true := by simpa only [Poller.isRunning, loop] using running
    exact backed.keepsLoop performed request gentle was running
  search := by
    rw [loop, request]
    exact backed.search
  closed := by
    rw [closed, state, loop]
    exact backed.closed

theorem Backed.next (backed : Backed past now) (action : Action) :
    Backed (past ++ [⟨now, action⟩]) (now.next action) := by
  have moves := now.perform_moves action
  unfold Session.next
  generalize performed : now.perform action = step at moves ⊢
  cases moves with
  | closed shut =>
    -- the step may be one that starts over, but a closed session has nothing left to back
    obtain ⟨idle, still⟩ := backed.closed shut
    refine ⟨fun inFlight => ?_, fun running => ?_, backed.search, backed.closed⟩
    · rw [idle] at inFlight
      contradiction
    · simp only [Poller.isRunning, still] at running
      contradiction
  | scans opened =>
    refine ⟨nofun, fun _ => .now ⟨rfl, .inl rfl, ?_⟩, ?_, fun shut => absurd shut (by simp [scanned, opened])⟩
    · rw [Session.next, performed]
      rfl
    · rintro loop ⟨⟩
      exact ⟨rfl, rfl⟩
  | rescans opened =>
    refine ⟨nofun, fun _ => .now ⟨rfl, .inr rfl, ?_⟩, ?_, fun shut => absurd shut (by simp [scanned, opened])⟩
    · rw [Session.next, performed]
      rfl
    · rintro loop ⟨⟩
      exact ⟨rfl, rfl⟩
  | clears | replaces | closes => exact ⟨nofun, nofun, nofun, fun _ => ⟨rfl, rfl⟩⟩
  | refuses | drops | ignores | rests | waits =>
    exact backed.keep performed rfl (by rintro _ ⟨⟩; try rfl) (by simp) rfl rfl rfl rfl
  | fails =>
    exact backed.keep performed rfl nofun (by simp) rfl (Handshake.issueId_state _) rfl rfl
  | @posts port walletName typedAmount amount target opened _ _ priced =>
    have posted : PostsFor now.request ⟨now, .connectWallet port walletName typedAmount⟩ :=
      posts_for priced (by rw [performed]; exact List.mem_cons_self)
    exact ⟨fun _ => .now posted, nofun, nofun, fun shut => absurd shut (by simp [opened])⟩
  | connects opened accepted state =>
    have inFlight : now.handshake.state.isInFlight = true := by rw [state]; rfl
    refine ⟨fun _ => ?_, ?_, backed.search, fun shut => absurd shut (by simp [opened])⟩
    · exact backed.keepsAttempt performed rfl rfl (by rintro _ ⟨⟩; rfl) (by simp) inFlight
    · exact fun running => backed.keepsLoop performed rfl rfl running running
  | pays opened => exact ⟨nofun, nofun, nofun, fun shut => absurd shut (by simp [opened])⟩
  | breaks opened =>
    refine ⟨nofun, ?_, backed.search, fun shut => absurd shut (by simp [opened])⟩
    exact fun running => backed.keepsLoop performed rfl rfl running running
  | fires running fired =>
    -- the loop that goes on is not the one that ran, but it looks for the same memo
    obtain ⟨memo, undecided⟩ := backed.search _ running
    refine ⟨fun inFlight => ?_, fun goesOn => ?_, fun following goesOn => ?_, fun shut => ?_⟩
    · exact backed.keepsAttempt performed rfl rfl nofun (fun _ => posted_not_polled _ _) inFlight
    · exact backed.keepsLoop performed rfl rfl (by simp [Poller.isRunning, running]) goesOn
    · obtain ⟨same, pending⟩ := fired.search goesOn undecided
      exact ⟨same.trans memo, pending⟩
    · rw [(backed.closed shut).2] at running
      contradiction

theorem start_backed (frame : Frame) (host : HostPage) (request : PaymentRequest)
    (settings : Session.Settings) : Backed [] (start frame host request settings) :=
  ⟨nofun, nofun, nofun, nofun⟩

theorem run_backed (frame : Frame) (host : HostPage) (request : PaymentRequest)
    (settings : Session.Settings) (actions : List Action) :
    Backed ((start frame host request settings).history actions)
      ((start frame host request settings).after actions) :=
  Run.invariant (start_backed frame host request settings) (fun _ _ action backed => backed.next action)
    actions

theorem Enters.shown {phase : Phase} (enters : Enters phase ⟨now, action⟩) :
    .phase phase ∈ (now.perform action).effects := by
  rcases enters with ⟨other, becomes⟩ | shown
  · simp only [next_phase] at becomes
    rcases phaseAfter_mem now.phase (now.perform action).effects with kept | shown
    · exact absurd (kept.symm.trans becomes) other
    · rw [becomes] at shown
      exact shown
  · exact shown

/-- Success is shown where the host page reports a payment, or where polling confirms one. -/
theorem success_shown {signature : String}
    (shown : .phase (.success signature) ∈ (now.perform action).effects) :
    (∃ event, action = .handle event ∧ now.handshake.state.isInFlight = true ∧
      now.channel.accept event = .ok (.paymentSuccess signature, (now.next action).channel)) ∨
    ∃ source loop time page nextTick, action = .fire source ∧ now.poller.loop = some loop ∧
      loop.stage = .fetching time (.page page) nextTick ∧
      (loop.search.observe page).2 = .confirmed signature := by
  have moves := now.perform_moves action
  unfold Session.next
  generalize now.perform action = step at moves shown ⊢
  cases moves with
  | pays opened accepted inFlight =>
    simp only [List.mem_singleton, SessionEffect.phase.injEq, Phase.success.injEq] at shown
    subst shown
    exact .inl ⟨_, rfl, inFlight, accepted⟩
  | fires running fired =>
    obtain ⟨effect, member, shows⟩ := List.mem_filterMap.mp shown
    cases fired with
    | delayed => cases member
    | fetches | dies =>
      obtain rfl := List.mem_singleton.mp member
      cases shows
    | goesOn stage | ends stage =>
      obtain rfl := List.mem_singleton.mp member
      simp only [effectOf?, Option.some.injEq, SessionEffect.phase.injEq] at shows
      refine .inr ⟨_, _, _, _, _, rfl, running, stage, ?_⟩
      generalize (Search.observe _ _).2 = finding at shows ⊢
      cases finding with
      | confirmed found =>
        cases shows
        rfl
      | status | timedOut => cases shows
  | _ => simp at shown

/-- Whatever was done before: where a session succeeds, the trusted host page reports the payment, in
answer to a message that was posted for the request now held and is unanswered yet, or the page just
fetched holds the memo of that request, and the loop that fetched it was started for that request. -/
theorem success_is_backed (frame : Frame) (host : HostPage) (request : PaymentRequest)
    (settings : Session.Settings) (actions : List Action) (action : Action) (signature : String)
    (enters : Enters (.success signature)
      ⟨(start frame host request settings).after actions, action⟩) :
    (∃ event, action = .handle event ∧ event.fromParent = true ∧
      ((start frame host request settings).after (actions ++ [action])).channel.locked =
        some event.origin ∧
      Message.parse event.data = .ok (.paymentSuccess signature) ∧
      Since KeepsAttempt
        (PostsFor ((start frame host request settings).after actions).request)
        ((start frame host request settings).history actions)) ∨
    ∃ source loop time found nextTick entry log, action = .fire source ∧
      ((start frame host request settings).after actions).poller.loop = some loop ∧
      loop.stage = .fetching time (.page (.entries found)) nextTick ∧
      entry ∈ found ∧ entry.signature = signature ∧ entry.memo = some log ∧
      ((start frame host request settings).after actions).request.memo.isIn log = true ∧
      Since KeepsLoop
        (StartsLoopFor ((start frame host request settings).after actions).request)
        ((start frame host request settings).history actions) := by
  have backed := run_backed frame host request settings actions
  rw [after_append]
  generalize (start frame host request settings).after actions = now at *
  generalize (start frame host request settings).history actions = past at *
  rcases success_shown enters.shown with
    ⟨event, rfl, inFlight, accepted⟩ | ⟨source, loop, time, page, nextTick, rfl, running, stage, confirmed⟩
  · obtain ⟨parent, locked, parsed⟩ := Channel.accept_trusted accepted
    exact .inl ⟨event, rfl, parent, locked, parsed, backed.attempt inFlight⟩
  · obtain ⟨memo, undecided⟩ := backed.search loop running
    obtain ⟨found, entry, rfl, member, signed, carries⟩ := Search.observe_confirmed undecided confirmed
    rw [memo] at carries
    have since := backed.loop (by simp [Poller.isRunning, running])
    cases log : entry.memo with
    | none => simp [LedgerEntry.carries, log] at carries
    | some text =>
      simp only [LedgerEntry.carries, log] at carries
      exact .inr ⟨source, loop, time, found, nextTick, entry, text, rfl, running, stage, member, signed,
        log, carries, since⟩

-- The host page may report the payment before it has reported a connection.
example : ((start ⟨"null", none, none, []⟩ ⟨[⟨"Phantom", none, true, none⟩], true⟩ twoCoins .standard).after
    [.connectWallet (fun _ => .ok ()) "Phantom" none,
      .handle ⟨"https://shop.example", true,
        .object [("signature", .string "sig"), ("type", .string "paymentSuccess")]⟩]).phase =
    .success "sig" := by decide +kernel

/-- A scan that finds its memo at the first look. -/
theorem scan_success_is_backed :
    let source := Source.ofScript [⟨0, .page (.entries [⟨"sig", some "[6] pl-0-1"⟩])⟩]
    let session := start ⟨"null", none, none, []⟩ .scanOnly twoCoins .standard
    let actions := [.showQr, .fire source, .fire source]
    Enters (.success "sig") ⟨session.after actions, .fire source⟩ ∧
      Since KeepsLoop (StartsLoopFor twoCoins) (session.history actions) := by
  intro source session actions
  have enters : Enters (.success "sig") ⟨session.after actions, .fire source⟩ :=
    .inl ⟨by decide +kernel, by decide +kernel⟩
  rcases success_is_backed _ _ _ _ actions _ _ enters with ⟨_, asked, _⟩ | ⟨_, _, _, _, _, _, _, found⟩
  · cases asked
  · obtain ⟨_, _, _, _, _, _, _, since⟩ := found
    exact ⟨enters, since⟩

end PayBridge.Session
