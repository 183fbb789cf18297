import PayBridge.Proofs.Host.Renumbering
import PayBridge.Proofs.Session.Moves

/-! A session whose ids are counted from another start. It answers the same, goes through the same phases and asks
the same of the ledger. Only the ids that it posts are others, and it waits for answers to those. -/
namespace PayBridge

def SessionEffect.renumbered (shift : Int) : SessionEffect → SessionEffect
  | .posted posting => .posted (posting.renumbered shift)
  | effect => effect

namespace Session

def renumbered (shift : Nat) (session : Session) : Session :=
  { session with handshake := session.handshake.renumbered shift }

def Step.renumbered {α : Type} (shift : Nat) (step : Step α) : Step α :=
  ⟨step.session.renumbered shift, step.result, step.effects.map (SessionEffect.renumbered shift)⟩

/-- The action with ids shifted: those that a message event names, and those that the port gets to see. -/
def Action.renumbered (shift : Int) : Action → Action
  | .connectWallet port walletName typedAmount => .connectWallet (port.renumbered shift) walletName typedAmount
  | .handle event => .handle (event.renumbered shift)
  | action => action

theorem Action.renumbered_renumbered (first second : Int) (action : Action) :
    (action.renumbered first).renumbered second = action.renumbered (first + second) := by
  cases action with
  | connectWallet port walletName typedAmount =>
    have same : (port.renumbered first).renumbered second = port.renumbered (first + second) := by
      funext posting
      simp only [Port.renumbered, Posting.renumbered_renumbered, ← Int.neg_add, Int.add_comm]
    simp only [Action.renumbered, same]
  | handle event => simp only [Action.renumbered, Arrival.renumbered_renumbered]
  | _ => rfl

@[simp]
theorem Action.renumbered_zero (action : Action) : action.renumbered 0 = action := by
  cases action with
  | connectWallet port walletName typedAmount =>
    have same : port.renumbered 0 = port := by
      funext posting
      simp only [Port.renumbered, Int.neg_zero, Posting.renumbered_zero]
    simp only [Action.renumbered, same]
  | handle event => simp only [Action.renumbered, Arrival.renumbered_zero]
  | _ => rfl

@[simp]
theorem Step.renumbered_zero {α : Type} (step : Step α) : step.renumbered 0 = step := by
  obtain ⟨session, result, effects⟩ := step
  have same : effects.map (SessionEffect.renumbered 0) = effects := by
    refine (List.map_congr_left fun effect _ => ?_).trans (List.map_id _)
    cases effect with
    | posted posting => exact congrArg SessionEffect.posted posting.renumbered_zero
    | phase | fetched => rfl
  simp only [Step.renumbered, Session.renumbered, Handshake.renumbered_zero, Int.natCast_zero, same]

theorem polled_renumbered (shift : Int) (polled : List PollEffect) :
    (polled.filterMap effectOf?).map (SessionEffect.renumbered shift) = polled.filterMap effectOf? := by
  refine (List.map_congr_left fun effect member => ?_).trans (List.map_id _)
  cases effect with
  | posted posting => exact absurd member (posted_not_polled posting polled)
  | phase | fetched => rfl

variable {shift : Nat}

theorem showQr_renumbered (session : Session) :
    (session.renumbered shift).showQr = session.showQr.renumbered shift := by
  obtain ⟨_, _, _, _, _, _, _, isClosed⟩ := session
  cases isClosed <;> rfl

theorem connectWallet_renumbered (session : Session) (port : Port) (walletName : String)
    (typedAmount : Option String) :
    (session.renumbered shift).connectWallet (port.renumbered shift) walletName typedAmount =
      (session.connectWallet port walletName typedAmount).renumbered shift := by
  have asked := session.handshake.request_renumbered shift session.channel port
    ⟨walletName, typedAmount, session.request.amount, session.request.currency⟩
  simp only [connectWallet, renumbered, asked]
  split
  · rfl
  split
  · rfl
  split
  · rfl
  generalize session.handshake.request _ _ _ = outcome
  obtain ⟨handshake, posted⟩ := outcome
  cases posted <;> rfl

theorem handle_renumbered (session : Session) (event : Arrival) :
    (session.renumbered shift).handle (event.renumbered shift) = (session.handle event).renumbered shift := by
  simp only [handle, renumbered, session.channel.accept_renumbered]
  split
  · rfl
  cases session.channel.accept event with
  | error violation => rfl
  | ok heard =>
    simp only [Except.map, session.handshake.apply_renumbered]
    generalize session.handshake.apply heard.1 = outcome
    obtain ⟨handshake, outcome⟩ := outcome
    cases outcome <;> rfl

theorem retry_renumbered (session : Session) :
    (session.renumbered shift).retry = session.retry.renumbered shift := by
  obtain ⟨_, _, _, _, _, _, phase, isClosed⟩ := session
  cases isClosed with
  | true => rfl
  | false =>
    cases phase with
    | error failure => cases failure <;> rfl
    | _ => rfl

theorem replace_renumbered (session : Session) (request : PaymentRequest) :
    (session.renumbered shift).replace request = (session.replace request).renumbered shift := by
  obtain ⟨_, _, _, _, _, _, _, isClosed⟩ := session
  cases isClosed <;> rfl

theorem fire_renumbered (session : Session) (source : Source) :
    (session.renumbered shift).fire source = (session.fire source).renumbered shift := by
  simp only [fire, Step.renumbered, polled_renumbered]
  rfl

theorem advance_renumbered (session : Session) (source : Source) (duration : Nat) :
    (session.renumbered shift).advance source duration = (session.advance source duration).renumbered shift := by
  simp only [advance, Step.renumbered, polled_renumbered]
  rfl

/-- With all ids shifted, a step does what it does without, with the same ids shifted. -/
theorem perform_renumbered (shift : Nat) (session : Session) (action : Action) :
    (session.renumbered shift).perform (action.renumbered shift) = (session.perform action).renumbered shift := by
  cases action with
  | showQr => exact congrArg (·.map Result.answered) session.showQr_renumbered
  | connectWallet port walletName typedAmount =>
    exact congrArg (·.map Result.answered) (session.connectWallet_renumbered port walletName typedAmount)
  | handle event => exact congrArg (·.map Result.heard) (session.handle_renumbered event)
  | retry => exact congrArg (·.map fun _ => Result.nothing) session.retry_renumbered
  | replace request => exact congrArg (·.map Result.answered) (session.replace_renumbered request)
  | close => rfl
  | fire source => exact congrArg (·.map fun _ => Result.nothing) (session.fire_renumbered source)
  | wait duration => rfl

end Session
end PayBridge
