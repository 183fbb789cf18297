import PayBridge.Proofs.Host.Handshake
import PayBridge.Proofs.Run
import PayBridge.Proofs.Search.Firing
import PayBridge.Session.Basic

/-! Everything that can be done to a session or happen to it, one step at a time, and all that a step can
do. The polling loop fires in steps of its own, between any two of the others. -/
namespace PayBridge.Session

/-- An operation, a message event, one firing of the polling loop, or time that passes. -/
inductive Action where
  | showQr
  | connectWallet (port : Port) (walletName : String) (typedAmount : Option String)
  | handle (event : Arrival)
  | retry
  | replace (request : PaymentRequest)
  | close
  | fire (source : Source)
  | wait (duration : Nat)

inductive Result where
  | answered (result : Except Session.Error Unit)
  | heard (outcome : Handshake.Event)
  | nothing

def Step.map {α β : Type} (step : Step α) (f : α → β) : Step β :=
  ⟨step.session, f step.result, step.effects⟩

def fire (session : Session) (source : Source) : Step Unit :=
  let (poller, polled) := session.poller.fire source
  let effects := polled.filterMap effectOf?
  ⟨{ session with poller, phase := phaseAfter session.phase effects }, (), effects⟩

def wait (session : Session) (duration : Nat) : Step Unit :=
  { session with poller := session.poller.wait duration }.unchanged ()

def perform (session : Session) : Action → Step Result
  | .showQr => session.showQr.map .answered
  | .connectWallet port walletName typedAmount =>
    (session.connectWallet port walletName typedAmount).map .answered
  | .handle event => (session.handle event).map .heard
  | .retry => session.retry.map fun _ => .nothing
  | .replace request => (session.replace request).map .answered
  | .close => session.close.map fun _ => .nothing
  | .fire source => (session.fire source).map fun _ => .nothing
  | .wait duration => (session.wait duration).map fun _ => .nothing

def next (session : Session) (action : Action) : Session := (session.perform action).session

abbrev after (session : Session) (actions : List Action) : Session := Run.after next session actions

abbrev history (session : Session) (actions : List Action) : List (Moment Session Action) :=
  Run.history next session actions

theorem after_append (session : Session) (first rest : List Action) :
    session.after (first ++ rest) = (session.after first).after rest :=
  Run.after_append ..

theorem history_append (session : Session) (first rest : List Action) :
    session.history (first ++ rest) = session.history first ++ (session.after first).history rest :=
  Run.history_append ..

def Action.refusal : Action → Result
  | .showQr | .connectWallet _ _ _ | .replace _ => .answered (.error .closed)
  | .handle _ => .heard .ignored
  | _ => .nothing

/-- Whether a closed session refuses the action. Closing again and the clock are not refused. -/
def Action.needsOpen : Action → Bool
  | .close | .fire _ | .wait _ => false
  | _ => true

def order (session : Session) (walletName : String) (typedAmount : Option String) :
    Handshake.WalletOrder :=
  ⟨walletName, typedAmount, session.request.amount, session.request.currency⟩

def scanned (session : Session) : Session :=
  { session with
    handshake := session.handshake.reset
    poller := session.poller.start session.request.memo session.schedule
    phase := .scanning none }

def cleared (session : Session) (request : PaymentRequest) : Session :=
  { session with
    handshake := session.handshake.reset
    poller := session.poller.stop
    request
    phase := .idle }

/-- Whether the session has looked for the payment as often as it may. -/
def hasTimedOut (session : Session) : Bool :=
  match session.phase with
  | .error (.timeout _) => true
  | _ => false

/-- What a step can do. Every case says when it comes about, what is left, and what was shown. -/
inductive Moves (s : Session) : Action → Step Result → Prop where
  | closed {action : Action} (shut : s.isClosed = true) (needs : action.needsOpen = true) :
      Moves s action ⟨s, action.refusal, []⟩
  | scans (opened : s.isClosed = false) :
      Moves s .showQr ⟨s.scanned, .answered (.ok ()), [.phase (.scanning none)]⟩
  | rescans {attempts : Nat} (opened : s.isClosed = false) (late : s.phase = .error (.timeout attempts)) :
      Moves s .retry ⟨s.scanned, .nothing, [.phase (.scanning none)]⟩
  | clears (opened : s.isClosed = false) (other : ∀ attempts, s.phase ≠ .error (.timeout attempts)) :
      Moves s .retry ⟨s.cleared s.request, .nothing, [.phase .idle]⟩
  | replaces {request : PaymentRequest} (opened : s.isClosed = false) :
      Moves s (.replace request) ⟨s.cleared request, .answered (.ok ()), [.phase .idle]⟩
  | closes : Moves s .close
      ⟨{ s with handshake := s.handshake.reset, poller := s.poller.stop, isClosed := true }, .nothing, []⟩
  | refuses {port : Port} {walletName : String} {typedAmount : Option String} {cause : Session.Error}
      (opened : s.isClosed = false) :
      Moves s (.connectWallet port walletName typedAmount) ⟨s, .answered (.error cause), []⟩
  | fails {port : Port} {walletName : String} {typedAmount : Option String} {reason : String}
      (opened : s.isClosed = false) (free : s.handshake.state.isInFlight = false) :
      Moves s (.connectWallet port walletName typedAmount)
        ⟨{ s with handshake := s.handshake.issueId.2 },
          .answered (.error (.connect (.send (.port reason)))), []⟩
  | posts {port : Port} {walletName : String} {typedAmount : Option String} {amount : Decimal}
      {target : String} (opened : s.isClosed = false) (free : s.handshake.state.isInFlight = false)
      (trusted : s.channel.target? = some target)
      (priced : (s.order walletName typedAmount).amountToPay = .ok amount) :
      Moves s (.connectWallet port walletName typedAmount)
        ⟨{ s with
            handshake := { s.handshake.issueId.2 with state := .connecting walletName s.handshake.issueId.1 }
            poller := s.poller.stop
            phase := .connecting walletName },
          .answered (.ok ()),
          [.posted (s.handshake.opening (s.order walletName typedAmount) amount target),
            .phase (.connecting walletName)]⟩
  | drops {event : Arrival} {violation : Violation} (opened : s.isClosed = false)
      (dropped : s.channel.accept event = .error violation) :
      Moves s (.handle event) ⟨s, .heard .ignored, []⟩
  | ignores {event : Arrival} {message : Message} {channel : Channel} (opened : s.isClosed = false)
      (accepted : s.channel.accept event = .ok (message, channel)) :
      Moves s (.handle event) ⟨{ s with channel }, .heard .ignored, []⟩
  | connects {event : Arrival} {message : Message} {channel : Channel} {walletName : String}
      {requestId : Option String} {accounts : List String} (opened : s.isClosed = false)
      (accepted : s.channel.accept event = .ok (message, channel))
      (state : s.handshake.state = .connecting walletName requestId) :
      Moves s (.handle event)
        ⟨{ s with
            channel
            handshake := { s.handshake with state := .processing walletName accounts }
            phase := .processing walletName },
          .heard (.connected walletName accounts), [.phase (.processing walletName)]⟩
  | pays {event : Arrival} {channel : Channel} {signature : String} (opened : s.isClosed = false)
      (accepted : s.channel.accept event = .ok (.paymentSuccess signature, channel))
      (inFlight : s.handshake.state.isInFlight = true) :
      Moves s (.handle event)
        ⟨{ s with
            channel
            handshake := { s.handshake with state := .completed signature }
            poller := s.poller.stop
            phase := .success signature },
          .heard (.paid signature), [.phase (.success signature)]⟩
  | breaks {event : Arrival} {message : Message} {channel : Channel} {outcome : Handshake.Event}
      {failure : Session.Failure} (opened : s.isClosed = false)
      (accepted : s.channel.accept event = .ok (message, channel))
      (inFlight : s.handshake.state.isInFlight = true) (final : outcome.isFinal = true)
      (tells : phaseOf? outcome = some (.error failure)) :
      Moves s (.handle event)
        ⟨{ s with
            channel
            handshake := { s.handshake with state := .idle }
            phase := .error failure },
          .heard outcome, [.phase (.error failure)]⟩
  | rests {source : Source} (stopped : s.poller.loop = none) :
      Moves s (.fire source) ⟨s, .nothing, []⟩
  | fires {source : Source} {loop : PollLoop} {step : PollStep} (running : s.poller.loop = some loop)
      (fired : loop.Fires source s.poller.asked step) :
      Moves s (.fire source)
        ⟨{ s with
            poller := { s.poller with asked := step.asked, loop := step.loop }
            phase := phaseAfter s.phase (step.effects.filterMap effectOf?) },
          .nothing, step.effects.filterMap effectOf?⟩
  | waits {duration : Nat} :
      Moves s (.wait duration) ⟨{ s with poller := s.poller.wait duration }, .nothing, []⟩

variable {s : Session}

/-- What may stand against connecting a wallet, whatever the port says, in the order in which it is looked for. -/
def objections (session : Session) (walletName : String) (typedAmount : Option String) :
    List (Option Session.Error) := [
  if session.isClosed then some .closed else none,
  if session.host.connectsWallets then none else some .bridgeUnavailable,
  if walletName ∈ session.host.wallets.map Wallet.name then none else some (.unknownWallet walletName)] ++
  (session.handshake.objections session.channel (session.order walletName typedAmount)).map (Option.map .connect)

theorem isNone_wallet? (host : HostPage) (walletName : String) :
    (host.wallet? walletName).isNone = true ↔ walletName ∉ host.wallets.map Wallet.name := by
  simp only [HostPage.wallet?, Option.isNone_iff_eq_none, List.find?_eq_none, beq_iff_eq, List.mem_map, not_exists,
    not_and]

theorem findSome?_connect (objections : List (Option Handshake.Error)) :
    (objections.map (Option.map Session.Error.connect)).findSome? id = (objections.findSome? id).map .connect := by
  induction objections with
  | nil => rfl
  | cons objection rest ih =>
    cases objection with
    | none => exact ih
    | some cause => rfl

/-- Connecting a wallet is refused by the first objection, whatever the port would say, or hands the port one message
and is settled by what the port says to it. -/
theorem connectWallet_cases (s : Session) (walletName : String) (typedAmount : Option String) :
    (∃ cause, (s.objections walletName typedAmount).findSome? id = some cause ∧
      ∀ port, s.connectWallet port walletName typedAmount = s.unchanged (.error cause)) ∨
    ((s.objections walletName typedAmount).findSome? id = none ∧
      ∃ amount target, s.isClosed = false ∧ s.handshake.state.isInFlight = false ∧
      s.channel.target? = some target ∧ (s.order walletName typedAmount).amountToPay = .ok amount ∧
      ∀ port, s.connectWallet port walletName typedAmount =
        match port (s.handshake.opening (s.order walletName typedAmount) amount target) with
        | .error reason => { s with handshake := s.handshake.issueId.2 }.unchanged
            (.error (.connect (.send (.port reason))))
        | .ok () => ⟨{ s with
            handshake := { s.handshake.issueId.2 with state := .connecting walletName s.handshake.issueId.1 }
            poller := s.poller.stop
            phase := .connecting walletName }, .ok (),
            [.posted (s.handshake.opening (s.order walletName typedAmount) amount target),
              .phase (.connecting walletName)]⟩) := by
  rw [objections, List.findSome?_append, findSome?_connect]
  by_cases shut : s.isClosed = true
  · refine .inl ⟨.closed, ?_, fun _ => by rw [connectWallet, if_pos shut]⟩
    rw [if_pos shut]
    rfl
  by_cases unbridged : (!s.host.connectsWallets) = true
  · refine .inl ⟨.bridgeUnavailable, ?_, fun _ => by rw [connectWallet, if_neg shut, if_pos unbridged]⟩
    rw [if_neg shut, if_neg (by simpa using unbridged)]
    rfl
  by_cases unknown : (s.host.wallet? walletName).isNone = true
  · refine .inl ⟨.unknownWallet walletName, ?_, fun _ => ?_⟩
    · rw [if_neg shut, if_pos (by simpa using unbridged), if_neg ((isNone_wallet? _ _).mp unknown)]
      rfl
    · rw [connectWallet, if_neg shut, if_neg unbridged, if_pos unknown]
  have asks : ∀ port, s.connectWallet port walletName typedAmount =
      match s.handshake.request s.channel port (s.order walletName typedAmount) with
      | (handshake, .error cause) => { s with handshake }.unchanged (.error (.connect cause))
      | (handshake, .ok posting) => ⟨{ s with
          handshake, poller := s.poller.stop, phase := .connecting walletName }, .ok (),
          [.posted posting, .phase (.connecting walletName)]⟩ := by
    intro port
    rw [connectWallet, if_neg shut, if_neg unbridged, if_neg unknown]
    simp only [order]
    cases s.handshake.request s.channel port _ with
    | mk handshake posted => cases posted <;> rfl
  have known : walletName ∈ s.host.wallets.map Wallet.name := by
    rwa [isNone_wallet?, Decidable.not_not] at unknown
  rw [if_neg shut, if_pos (by simpa using unbridged), if_pos known]
  rcases s.handshake.request_cases s.channel (s.order walletName typedAmount) with
    ⟨cause, first, refused⟩ | ⟨unobjected, amount, target, free, trusted, priced, settled⟩
  · rw [first]
    exact .inl ⟨.connect cause, rfl, fun port => by rw [asks, refused]⟩
  · rw [unobjected]
    refine .inr ⟨rfl, amount, target, by simpa using shut, free, trusted, priced, fun port => ?_⟩
    rw [asks, settled]
    cases port _ <;> rfl

theorem perform_closed {action : Action} (shut : s.isClosed = true) (needs : action.needsOpen = true) :
    s.perform action = ⟨s, action.refusal, []⟩ := by
  cases action with
  | showQr =>
    rw [perform, showQr, if_pos shut]
    rfl
  | connectWallet port walletName typedAmount =>
    rw [perform, connectWallet, if_pos shut]
    rfl
  | handle event =>
    rw [perform, handle, if_pos shut]
    rfl
  | retry =>
    rw [perform, retry, if_pos shut]
    rfl
  | replace request =>
    rw [perform, replace, if_pos shut]
    rfl
  | close | fire | wait => cases needs

theorem perform_showQr (opened : s.isClosed = false) :
    s.perform .showQr = ⟨s.scanned, .answered (.ok ()), [.phase (.scanning none)]⟩ := by
  rw [perform, showQr, if_neg (by simp [opened])]
  rfl

theorem perform_replace (opened : s.isClosed = false) (request : PaymentRequest) :
    s.perform (.replace request) = ⟨s.cleared request, .answered (.ok ()), [.phase .idle]⟩ := by
  rw [perform, replace, if_neg (by simp [opened])]
  rfl

theorem perform_retry (opened : s.isClosed = false) : s.perform .retry =
    if s.hasTimedOut then ⟨s.scanned, .nothing, [.phase (.scanning none)]⟩
    else ⟨s.cleared s.request, .nothing, [.phase .idle]⟩ := by
  have opens : ¬ s.isClosed = true := by simp [opened]
  rw [perform, retry, showQr, if_neg opens, if_neg opens, hasTimedOut]
  cases s.phase with
  | error failure => cases failure <;> rfl
  | _ => rfl

theorem retry_moves (opened : s.isClosed = false) : Moves s .retry (s.perform .retry) := by
  rw [perform_retry opened, hasTimedOut]
  split
  · rename_i attempts late
    exact .rescans opened late
  · rename_i other
    exact .clears opened other

theorem connectWallet_moves (opened : s.isClosed = false) (port : Port) (walletName : String)
    (typedAmount : Option String) : Moves s (.connectWallet port walletName typedAmount)
      (s.perform (.connectWallet port walletName typedAmount)) := by
  rcases s.connectWallet_cases walletName typedAmount with
    ⟨cause, _, refused⟩ | ⟨_, amount, target, _, free, trusted, priced, settled⟩
  · rw [perform, refused]
    exact .refuses opened
  · rw [perform, settled]
    cases port _ with
    | error reason => exact .fails opened free
    | ok => exact .posts opened free trusted priced

theorem handle_moves (opened : s.isClosed = false) (event : Arrival) :
    Moves s (.handle event) (s.perform (.handle event)) := by
  rw [perform, handle, if_neg (by simp [opened])]
  cases accepted : s.channel.accept event with
  | error violation => exact .drops opened accepted
  | ok heard =>
    obtain ⟨message, channel⟩ := heard
    have applies := s.handshake.apply_applies message
    simp only
    generalize s.handshake.apply message = applied at applies ⊢
    cases applies with
    | ignored => exact .ignores opened accepted
    | failed state => exact .breaks opened accepted (by rw [state]; rfl) rfl rfl
    | connected state => exact .connects opened accepted state
    | paid inFlight => exact .pays opened accepted inFlight
    | paymentFailed inFlight => exact .breaks opened accepted inFlight rfl rfl

theorem fire_moves (s : Session) (source : Source) :
    Moves s (.fire source) (s.perform (.fire source)) := by
  cases running : s.poller.loop with
  | none =>
    simp only [perform, fire, Poller.fire, running]
    exact .rests running
  | some loop =>
    simp only [perform, fire, Poller.fire, running]
    exact .fires running (loop.fire_fires source s.poller.asked)

theorem perform_moves (s : Session) (action : Action) : Moves s action (s.perform action) := by
  by_cases refused : s.isClosed = true ∧ action.needsOpen = true
  · rw [perform_closed refused.1 refused.2]
    exact .closed refused.1 refused.2
  have opened (needs : action.needsOpen = true) : s.isClosed = false := by
    simpa only [needs, and_true, Bool.not_eq_true] using refused
  cases action with
  | showQr => exact perform_showQr (opened rfl) ▸ .scans (opened rfl)
  | connectWallet port walletName typedAmount =>
    exact connectWallet_moves (opened rfl) port walletName typedAmount
  | handle event => exact handle_moves (opened rfl) event
  | retry => exact retry_moves (opened rfl)
  | replace request => exact perform_replace (opened rfl) request ▸ .replaces (opened rfl)
  | close => exact .closes
  | fire source => exact fire_moves s source
  | wait duration => exact .waits

theorem next_phase (s : Session) (action : Action) :
    (s.next action).phase = phaseAfter s.phase (s.perform action).effects := by
  have moves := s.perform_moves action
  unfold next
  generalize s.perform action = step at moves ⊢
  cases moves <;> rfl

theorem posted_not_polled (posting : Posting) (polled : List PollEffect) :
    .posted posting ∉ polled.filterMap effectOf? := by
  intro member
  obtain ⟨effect, _, shown⟩ := List.mem_filterMap.mp member
  cases effect <;> cases shown

theorem phaseAfter_mem (phase : Phase) (effects : List SessionEffect) :
    phaseAfter phase effects = phase ∨ .phase (phaseAfter phase effects) ∈ effects := by
  induction effects generalizing phase with
  | nil => exact .inl rfl
  | cons effect rest ih =>
    cases effect with
    | phase shown =>
      rcases ih shown with kept | later
      · exact .inr (List.mem_cons.mpr (.inl (congrArg _ kept)))
      · exact .inr (List.mem_cons_of_mem _ later)
    | posted | fetched => exact (ih phase).imp_right (List.mem_cons_of_mem _)

def twoCoins : PaymentRequest :=
  ⟨"payee", ⟨false, 2, 0, by decide, by decide⟩, "SOL", 2000000000, none, ⟨"pl-0-1"⟩, ""⟩

end PayBridge.Session
