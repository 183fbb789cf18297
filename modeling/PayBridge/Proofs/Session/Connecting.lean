import PayBridge.Proofs.Session.Outbound
import PayBridge.Proofs.Session.Renewal

/-! Connecting a wallet happens as a whole or not at all. The first objection to it, in a fixed order, is the answer.
A refused request leaves no trace but the id that it may have used up: whatever is done later goes as it would have
gone, with the ids counted from one further on. -/
namespace PayBridge

namespace Handshake

/-- The flow that has used up some more ids. An attempt keeps the id that it has. -/
def counted (used : Nat) (flow : Handshake) : Handshake := { flow with issued := flow.issued + used }

theorem issueId_counted (flow : Handshake) : ∃ used ≤ 1, flow.issueId.2 = flow.counted used := by
  unfold issueId
  split
  · exact ⟨1, Nat.le_refl 1, rfl⟩
  · exact ⟨0, Nat.zero_le 1, rfl⟩

/-- Without an attempt there is no id to shift, and counting is all that a shift does. -/
theorem renumbered_eq_counted {flow : Handshake} (free : flow.state.isInFlight = false) (used : Nat) :
    flow.renumbered used = flow.counted used := by
  have same : flow.state.renumbered used = flow.state := by
    cases state : flow.state with
    | connecting =>
      rw [state] at free
      cases free
    | _ => rfl
  rw [renumbered, counted, same]

end Handshake

namespace Session
variable {session : Session} {walletName : String} {typedAmount : Option String} {amount : Decimal}

def counted (used : Nat) (session : Session) : Session :=
  { session with handshake := session.handshake.counted used }

/-- The amount that is to be paid: the one that was typed in, or else the one of the request. -/
def IsAsked (session : Session) (typedAmount : Option String) (amount : Decimal) : Prop :=
  match typedAmount with
  | some typed => Amount.parse typed = .ok amount
  | none => amount = session.request.amount

theorem order_isAsked (priced : (session.order walletName typedAmount).amountToPay = .ok amount) :
    session.IsAsked typedAmount amount := by
  cases typedAmount with
  | some typed => exact priced
  | none => exact (Except.ok.inj priced).symm

theorem not_hands {cause : Session.Error}
    (refused : ∀ port, session.connectWallet port walletName typedAmount = session.unchanged (.error cause))
    (port : Port) (posting : Posting) : ¬ Hands ⟨session, .connectWallet port walletName typedAmount⟩ posting := by
  rintro ⟨one, other, _, differs⟩
  exact differs ((refused one).trans (refused other).symm)

end Session

namespace TaskedSession

abbrev Deed.connectWallet (port : Port) (walletName : String) (typedAmount : Option String) : Deed :=
  .act (.connectWallet port walletName typedAmount) rfl

/-- Where no tasks are over, every deed keeps its task. -/
theorem Deed.afresh_zero (issued : Nat) : Deed.afresh issued 0 = Deed.renumbered (-issued) := by
  funext deed
  cases deed <;> rfl

variable {before : TaskedSession}

/-- A session that has used up some more ids echoes the one that has not. -/
theorem counted_echoes (synced : before.Synced) (free : before.session.handshake.state.isInFlight = false)
    (used : Nat) : Echoes used 0 { before with session := before.session.counted used } before where
  session := by
    rw [Session.renumbered, Handshake.renumbered_eq_counted free]
    rfl
  source := rfl
  pool := by
    refine ⟨[], rfl, List.forall_mem_nil _, ?_⟩
    obtain ⟨now, asked, tasks, current⟩ := before.pool
    cases current <;> simp [TaskPool.behind]
  synced

theorem next_connectWallet_error {port : Port} {walletName : String} {typedAmount : Option String}
    {refused : Session} {cause : Session.Error}
    (fails : before.session.connectWallet port walletName typedAmount = refused.unchanged (.error cause)) :
    before.next (.connectWallet port walletName typedAmount) = { before with session := refused } := by
  have performs : before.session.perform (.connectWallet port walletName typedAmount) =
      ⟨refused, .answered (.error cause), []⟩ := by
    rw [Session.perform, fails]
    rfl
  have orders : before.session.orders before.source (.connectWallet port walletName typedAmount) = [] := by
    simp only [Session.orders, performs]
  refine (before.next_act (.connectWallet port walletName typedAmount) rfl).trans ?_
  rw [performs, orders]
  rfl

/-- Whatever was done before, connecting a wallet is answered by the first objection to it, and then nothing has
changed and the port was not asked. Without one, the port gets one message, with the amount that was typed in or else
that of the request. If the port refuses it, an id may be used up. The phase, the attempt, the request, the trusted
origin and the polling are as they were, and whatever is done from then on goes as it would have gone, with ids counted
one further. -/
theorem connecting_posts_once_or_leaves_all_as_it_was (frame : Frame) (entries : Json) (bridged : Bool)
    (request : PaymentRequest) (settings : Session.Settings) (source : Source) (earlier : List Deed) (port : Port)
    (walletName : String) (typedAmount : Option String) :
    let host := HostPage.ofList entries bridged
    let before := (start frame host request settings source).after earlier
    let connect := Deed.connectWallet port walletName typedAmount
    let step := before.perform connect
    let now := before.next connect
    before.session.host = host ∧
    match (before.session.objections walletName typedAmount).findSome? id with
    | some cause => step.result = .answered (.error cause) ∧ step.effects = [] ∧ now = before ∧
        ∀ posting, ¬ Session.Hands ⟨before.session, .connectWallet port walletName typedAmount⟩ posting
    | none => ∃ amount target, before.session.IsAsked typedAmount amount ∧
        before.session.channel.target? = some target ∧
        let requestId := before.session.handshake.issueId.1
        let message := Message.walletConnect ⟨walletName, amount, before.session.request.currency, requestId⟩
        match port ⟨message.toJson, target⟩ with
        | .ok () => step.result = .answered (.ok ()) ∧
            step.effects = [.posted ⟨message.toJson, target⟩, .phase (.connecting walletName)] ∧
            now.session.phase = .connecting walletName ∧
            now.session.handshake.state = .connecting walletName requestId ∧
            now.session.poller.isRunning = false
        | .error reason => step.result = .answered (.error (.connect (.send (.port reason)))) ∧ step.effects = [] ∧
            ∃ used ≤ 1, now = { before with session := before.session.counted used } ∧
              ∀ later, now.steps later = (before.steps (later.map (Deed.renumbered (-used)))).map
                  (Session.Step.renumbered used) ∧
                ∀ other duration, (now.after later).session.advance other duration =
                  ((before.after (later.map (Deed.renumbered (-used)))).session.advance other duration).renumbered
                    used := by
  intro host before connect step now
  have starts := start_synced frame host request settings source
  have configured : before.session.Configured frame host settings :=
    starts.keeps (fun _ action configured => configured.next action)
      (Session.start_configured frame host request settings) earlier
  refine ⟨configured.host, ?_⟩
  have performs : step = (before.session.connectWallet port walletName typedAmount).map .answered := rfl
  rcases before.session.connectWallet_cases walletName typedAmount with
    ⟨cause, first, refused⟩ | ⟨unobjected, amount, target, _, free, trusted, priced, settled⟩
  · rw [first, performs, refused]
    exact ⟨rfl, rfl, next_connectWallet_error (refused port), Session.not_hands refused port⟩
  · rw [unobjected]
    refine ⟨amount, target, Session.order_isAsked priced, trusted, ?_⟩
    intro requestId message
    have handed : before.session.handshake.opening (before.session.order walletName typedAmount) amount target =
        ⟨message.toJson, target⟩ := rfl
    have settles := settled port
    rw [handed] at settles
    have moves : now.session = (before.session.connectWallet port walletName typedAmount).session := rfl
    rw [performs, moves]
    cases said : port ⟨message.toJson, target⟩ with
    | ok =>
      rw [said] at settles
      rw [settles]
      exact ⟨rfl, rfl, rfl, rfl, rfl⟩
    | error reason =>
      rw [said] at settles
      obtain ⟨used, atMost, counts⟩ := before.session.handshake.issueId_counted
      have left : now = { before with session := before.session.counted used } := by
        refine (next_connectWallet_error settles).trans ?_
        rw [counts]
        rfl
      rw [settles]
      refine ⟨rfl, rfl, used, atMost, left, fun later => ?_⟩
      obtain ⟨same, alike⟩ := (counted_echoes (starts.after earlier) free used).run later
      rw [Deed.afresh_zero] at same alike
      rw [left]
      exact ⟨same, fun other duration => by rw [alike.session, Session.advance_renumbered]⟩

end TaskedSession
end PayBridge
