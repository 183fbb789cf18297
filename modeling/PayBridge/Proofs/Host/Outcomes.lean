import PayBridge.Proofs.Host.Attempts

/-! How a payment settles an attempt. What the host page reports of a payment names no attempt, so the state of
the flow alone tells which one is meant. It tells attempts whose wallet was connected from those whose wallet
was not, and the report is taken for either. -/
namespace PayBridge.Handshake

def Event.isOfPayment : Event → Bool
  | .paid _ => true
  | .paymentFailed _ => true
  | _ => false

variable {now : Handshake} {call : Call}

theorem payment_inFlight {event : Event} (heard : (now.perform call).2 = .heard event)
    (told : event.isOfPayment = true) : now.state.isInFlight = true := by
  have does := now.perform_does call
  generalize now.perform call = result at does heard
  cases does with
  | refuses | fails | posts | resets => cases heard
  | hears applies =>
    cases heard
    cases applies with
    | ignored | failed | connected => cases told
    | paid inFlight => exact inFlight
    | paymentFailed inFlight => exact inFlight

/-- A flow is completed by the report of a payment, and then only by calls that nothing comes of left so. -/
theorem completed_cases {signature : String} (completed : (now.next call).state = .completed signature) :
    now.state = .completed signature ∨ (now.perform call).2 = .heard (.paid signature) := by
  have does := now.perform_does call
  unfold next at completed
  generalize now.perform call = result at does completed ⊢
  cases does with
  | refuses => exact .inl completed
  | fails => exact .inl (now.issueId_state.symm.trans completed)
  | posts | resets => cases completed
  | hears applies =>
    cases applies with
    | ignored => exact .inl completed
    | failed | connected | paymentFailed => cases completed
    | paid =>
      cases completed
      exact .inr rfl

/-- Whatever was asked of a flow before: a payment is taken, paid or failed, only for an attempt that was opened
and that nothing else came of since, except that its wallet may have been connected. If the flow is
processing, it was; if the flow is still connecting, it was not, and every report of a payment is taken all the
same. -/
theorem payments_settle_open_attempts (usesRequestIds : Bool) (calls : List Call) (call : Call) :
    let past := (start usesRequestIds).history calls
    let now := (start usesRequestIds).after calls
    (∀ event, (now.perform call).2 = .heard event → event.isOfPayment = true →
      (∃ walletName accounts, now.state = .processing walletName accounts ∧
        ConnectedSince walletName accounts past) ∨
      ∃ walletName requestId, now.state = .connecting walletName requestId ∧
        Since Rests (Opens walletName requestId) past) ∧
    (∀ signature, (now.next call).state = .completed signature →
      now.state = .completed signature ∨
      now.state.isInFlight = true ∧ (now.perform call).2 = .heard (.paid signature)) ∧
    ∀ walletName requestId, now.state = .connecting walletName requestId →
      (∀ signature, now.apply (.paymentSuccess signature) =
        ({ now with state := .completed signature }, .paid signature)) ∧
      ∀ error, now.apply (.paymentError error) =
        ({ now with state := .idle }, .paymentFailed (error.getD paymentFailureText)) := by
  intro past now
  have attempted : Attempted past now := run_attempted usesRequestIds calls
  refine ⟨?_, ?_, ?_⟩
  · intro event heard told
    have inFlight := payment_inFlight heard told
    cases state : now.state with
    | idle | completed =>
      rw [state] at inFlight
      cases inFlight
    | connecting walletName requestId =>
      exact .inr ⟨walletName, requestId, rfl, attempted.opened _ _ state⟩
    | processing walletName accounts =>
      exact .inl ⟨walletName, accounts, rfl, attempted.connected _ _ state⟩
  · intro signature completed
    rcases completed_cases completed with already | paid
    · exact .inl already
    · exact .inr ⟨payment_inFlight paid rfl, paid⟩
  · intro walletName requestId state
    have inFlight : now.state.isInFlight = true := by
      rw [state]
      rfl
    constructor
    · intro signature
      rw [apply, if_pos inFlight]
    · intro error
      rw [apply, if_pos inFlight]

/-- An attempt is given up and another one opened. What the host page then reports of the payment, late, settles
the second attempt, though no wallet was ever connected. -/
theorem late_payments_settle_the_next_attempt :
    let channel : Channel := ⟨some "https://shop.example", false, false⟩
    let ask := Call.request channel (fun _ => .ok ()) ⟨"Phantom", none, ⟨false, 1, 0, by decide, by decide⟩, "SOL"⟩
    let past := (start true).history [ask, .reset, ask]
    let now := (start true).after [ask, .reset, ask]
    now.state = .connecting "Phantom" (some "connect-2") ∧
    (now.perform (.apply (.paymentSuccess "sig"))).2 = .heard (.paid "sig") ∧
    (now.next (.apply (.paymentSuccess "sig"))).state = .completed "sig" ∧
    (now.perform (.apply (.paymentError none))).2 = .heard (.paymentFailed paymentFailureText) ∧
    (now.next (.apply (.paymentError none))).state = .idle ∧
    ∀ moment ∈ past, ∀ walletName accounts, ¬ Connects walletName accounts moment := by
  intro channel ask past now
  refine ⟨by decide +kernel, rfl, rfl, rfl, rfl, ?_⟩
  intro moment member walletName accounts connects
  simp only [past, Run.history, List.mem_cons, List.not_mem_nil, or_false] at member
  rcases member with rfl | rfl | rfl <;> cases connects

end PayBridge.Handshake
