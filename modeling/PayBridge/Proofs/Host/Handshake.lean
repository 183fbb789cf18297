import PayBridge.Host.Handshake

/-! What can happen to an attempt to connect a wallet: every message of the host page does one of five
things, and a request either never reaches the port or hands it one message. -/
namespace PayBridge

namespace Channel
variable {channel : Channel} {message : Message} {target : String}

theorem send_to (outward : message.direction = .childToParent) (trusted : channel.target? = some target)
    (port : Port) : channel.send port message =
      match port ⟨message.toJson, target⟩ with
      | .ok () => .ok ⟨message.toJson, target⟩
      | .error reason => .error (.port reason) := by
  simp only [send, outward, trusted, ne_eq, not_true_eq_false, ↓reduceIte]
  cases port ⟨message.toJson, target⟩ <;> rfl

end Channel

namespace Handshake

def Event.isFinal : Event → Bool
  | .failed _ _ => true
  | .paid _ => true
  | .paymentFailed _ => true
  | _ => false

/-- What a message can do to an attempt. -/
inductive Applies (flow : Handshake) : Message → Handshake × Event → Prop where
  | ignored (message : Message) : Applies flow message (flow, .ignored)
  | failed {walletName : String} {requestId : Option String} {result : WalletConnectResult}
      (state : flow.state = .connecting walletName requestId)
      (mine : belongs requestId result.requestId = true) (refused : result.success = false) :
      Applies flow (.walletConnectResult result)
        ({ flow with state := .idle }, .failed walletName (result.error.getD connectFailureText))
  | connected {walletName : String} {requestId : Option String} {result : WalletConnectResult}
      (state : flow.state = .connecting walletName requestId)
      (mine : belongs requestId result.requestId = true) (accepted : result.success = true) :
      Applies flow (.walletConnectResult result)
        ({ flow with state := .processing walletName (result.accounts.getD []) },
          .connected walletName (result.accounts.getD []))
  | paid {signature : String} (inFlight : flow.state.isInFlight = true) :
      Applies flow (.paymentSuccess signature)
        ({ flow with state := .completed signature }, .paid signature)
  | paymentFailed {error : Option String} (inFlight : flow.state.isInFlight = true) :
      Applies flow (.paymentError error)
        ({ flow with state := .idle }, .paymentFailed (error.getD paymentFailureText))

theorem applyResult_applies (flow : Handshake) (result : WalletConnectResult) :
    Applies flow (.walletConnectResult result) (flow.applyResult result) := by
  unfold applyResult
  split
  · rename_i walletName requestId state
    cases mine : belongs requestId result.requestId with
    | false => exact .ignored _
    | true =>
      cases outcome : result.success with
      | false => exact .failed state mine outcome
      | true => exact .connected state mine outcome
  · exact .ignored _

theorem apply_applies (flow : Handshake) (message : Message) :
    Applies flow message (flow.apply message) := by
  cases message with
  | walletConnect request => exact .ignored _
  | walletConnectResult result => exact applyResult_applies flow result
  | paymentSuccess signature =>
    cases inFlight : flow.state.isInFlight with
    | false =>
      simp only [apply, inFlight]
      exact .ignored _
    | true =>
      simp only [apply, inFlight]
      exact .paid inFlight
  | paymentError error =>
    cases inFlight : flow.state.isInFlight with
    | false =>
      simp only [apply, inFlight]
      exact .ignored _
    | true =>
      simp only [apply, inFlight]
      exact .paymentFailed inFlight

/-- The message that opens an attempt at a price, and where it goes. -/
def opening (flow : Handshake) (order : WalletOrder) (amount : Decimal) (target : String) : Posting where
  message := (Message.walletConnect
    { walletName := order.walletName, amount, currency := order.currency, requestId := flow.issueId.1 }).toJson
  target

def settle (flow : Handshake) (order : WalletOrder) (posting : Posting) :
    Except String Unit → Handshake × Except Handshake.Error Posting
  | .ok () => ({ flow.issueId.2 with state := .connecting order.walletName flow.issueId.1 }, .ok posting)
  | .error reason => (flow.issueId.2, .error (.send (.port reason)))

theorem issueId_state (flow : Handshake) : flow.issueId.2.state = flow.state := by
  unfold issueId
  split <;> rfl

def amountObjection (typedAmount : Option String) : Option Handshake.Error :=
  match typedAmount.map Amount.parse with
  | some (.error cause) => some (.invalidAmount cause)
  | _ => none

/-- What may stand against opening an attempt, whatever the port says, in the order in which it is looked for. -/
def objections (flow : Handshake) (channel : Channel) (order : WalletOrder) : List (Option Handshake.Error) := [
  if flow.state.isInFlight then some .inFlight else none,
  if channel.target?.isSome then none else some .noOriginContext,
  amountObjection order.typedAmount]

/-- The amount that was typed in is objected to just when there is none to pay. -/
theorem amountObjection_eq (order : WalletOrder) : amountObjection order.typedAmount =
    match order.amountToPay with
    | .error cause => some (.invalidAmount cause)
    | .ok _ => none := by
  unfold amountObjection WalletOrder.amountToPay
  cases order.typedAmount with
  | none => rfl
  | some typed =>
    simp only [Option.map_some]
    cases Amount.parse typed <;> rfl

/-- A request is refused by the first objection, whatever the port would say, or hands the port one message and is
settled by what the port says to it. -/
theorem request_cases (flow : Handshake) (channel : Channel) (order : WalletOrder) :
    (∃ cause, (flow.objections channel order).findSome? id = some cause ∧
      ∀ port, flow.request channel port order = (flow, .error cause)) ∨
    ((flow.objections channel order).findSome? id = none ∧
      ∃ amount target, flow.state.isInFlight = false ∧ channel.target? = some target ∧
      order.amountToPay = .ok amount ∧
      ∀ port, flow.request channel port order =
        flow.settle order (flow.opening order amount target) (port (flow.opening order amount target))) := by
  rw [objections, amountObjection_eq]
  unfold request
  cases inFlight : flow.state.isInFlight with
  | true => exact .inl ⟨_, rfl, fun _ => rfl⟩
  | false =>
    cases trusted : channel.target? with
    | none => exact .inl ⟨_, rfl, fun _ => rfl⟩
    | some target =>
      cases priced : order.amountToPay with
      | error cause => exact .inl ⟨_, rfl, fun _ => rfl⟩
      | ok amount =>
        refine .inr ⟨rfl, amount, target, rfl, rfl, rfl, fun port => ?_⟩
        simp only [Bool.false_eq_true, ↓reduceIte, Option.isNone_some]
        rw [Channel.send_to rfl trusted]
        simp only [opening]
        cases port _ <;> rfl

end Handshake
end PayBridge
