import Mathlib.Data.List.Pairwise
import PayBridge.Proofs.Host.Correlation

/-! Which wallet an answer is credited to. The host page names the wallet it tried to connect, and the flow does
not look at the name: accounts and failures are credited to the wallet that was asked for last. An id that the host
page copies tells attempts apart. An answer without one is taken for the attempt that is waited for, also if it is
the late answer to an attempt for another wallet, which was given up. -/
namespace PayBridge.Handshake

/-- The wallet that an event is credited to. -/
def Event.wallet? : Event → Option String
  | .failed walletName _ => some walletName
  | .connected walletName _ => some walletName
  | _ => none

def credited (walletName : String) (result : WalletConnectResult) : Event :=
  if result.success then .connected walletName (result.accounts.getD [])
  else .failed walletName (result.error.getD connectFailureText)

def walletName? (posting : Posting) : Option String := (posting.message.get? "walletName").bind Json.string?

variable {past : List (Moment Handshake Call)} {now : Handshake} {call : Call} {walletName : String}

theorem opening_walletName (flow : Handshake) (order : WalletOrder) (amount : Decimal) (target : String) :
    walletName? (flow.opening order amount target) = some order.walletName := by
  simp only [walletName?, opening, Message.toJson, Message.fields, Json.present, Json.get?]
  cases flow.issueId.1 <;> rfl

theorem credited_waits {event : Event} (heard : (now.perform call).2 = .heard event)
    (credit : event.wallet? = some walletName) :
    ∃ result requestId, call = .apply (.walletConnectResult result) ∧ event = credited walletName result ∧
      now.state = .connecting walletName requestId ∧ belongs requestId result.requestId = true := by
  have does := now.perform_does call
  generalize now.perform call = outcome at does heard
  cases does with
  | refuses | fails | posts | resets => cases heard
  | hears applies =>
    cases heard
    cases applies with
    | ignored | paid | paymentFailed => cases credit
    | failed waits mine refused =>
      cases credit
      refine ⟨_, _, rfl, ?_, waits, mine⟩
      rw [credited, refused]
      rfl
    | connected waits mine accepted =>
      cases credit
      refine ⟨_, _, rfl, ?_, waits, mine⟩
      rw [credited, accepted]
      rfl

/-- A call that opens an attempt posts a message with the wallet and the id that the flow waits for. -/
theorem Opens.posts {requestId : Option String} {moment : Moment Handshake Call}
    (opens : Opens walletName requestId moment) :
    ∃ posting, Posts moment posting ∧ walletName? posting = some walletName ∧
      requestId? posting = requestId := by
  obtain ⟨before, action⟩ := moment
  obtain ⟨waits, channel, port, order, posting, rfl, rfl, posted⟩ := opens
  have does := before.perform_does (.request channel port order)
  refine ⟨posting, posted, ?_⟩
  unfold next at waits
  generalize before.perform _ = outcome at does waits posted
  cases does with
  | refuses | fails => cases posted
  | posts =>
    cases posted
    cases waits
    exact ⟨opening_walletName .., opening_requestId ..⟩

theorem Numbered.eq_of_attemptId (numbered : Numbered past now) {moment other : Moment Handshake Call}
    (member : moment ∈ past) (member' : other ∈ past) {id : String} (made : attemptId? moment = some id)
    (made' : attemptId? other = some id) : moment = other := by
  have distinct := List.pairwise_filterMap.mp numbered.nodup
  have shares : past.Pairwise fun moment other =>
      attemptId? moment = some id → attemptId? other = some id → moment = other :=
    distinct.imp fun apart made made' => absurd rfl (apart id made id made')
  have : Std.Symm fun moment other : Moment Handshake Call =>
      attemptId? moment = some id → attemptId? other = some id → moment = other :=
    ⟨fun _ _ share made made' => (share made' made).symm⟩
  exact shares.forall_of_forall (fun _ _ _ _ => rfl) member member' made made'

/-- The attempt that is waited for is the one whose message carries the id waited for. -/
theorem posted_wallet (calls : List Call) {requestId : Option String} {moment : Moment Handshake Call}
    (opened : Since Rests (Opens walletName requestId) ((start true).history calls))
    (member : moment ∈ (start true).history calls) {posting : Posting} (posts : Posts moment posting)
    (same : requestId? posting = requestId) : walletName? posting = some walletName := by
  obtain ⟨earlier, opening, later, history, opens, -⟩ := opened
  have member' : opening ∈ (start true).history calls := by
    rw [history]
    exact List.mem_append_right _ List.mem_cons_self
  obtain ⟨posting', posts', wallet, carried'⟩ := opens.posts
  obtain ⟨id, carried, made⟩ := posted_carries calls moment member posting posts
  obtain ⟨id', carries', made'⟩ := posted_carries calls opening member' posting' posts'
  have ids : some id' = some id := by rw [← carried, ← carries', carried', same]
  cases ids
  obtain rfl := (run_numbered calls).eq_of_attemptId member member' made made'
  cases posts.symm.trans posts'
  exact wallet

/-- However requests, messages and resets follow each other, with request ids or without: accounts and failures
come from an answer of the host page that is credited to the wallet of the attempt that is waited for, the last one
that was opened. The wallet that the answer names counts for nothing. With request ids, an answer with the id of
a message that was posted is credited to the wallet in that message. -/
theorem answers_are_credited_to_the_wallet_waited_for (usesRequestIds : Bool) (calls : List Call) :
    let past := (start usesRequestIds).history calls
    let now := (start usesRequestIds).after calls
    (∀ call event walletName, (now.perform call).2 = .heard event → event.wallet? = some walletName →
      ∃ result requestId, call = .apply (.walletConnectResult result) ∧ event = credited walletName result ∧
        now.state = .connecting walletName requestId ∧ belongs requestId result.requestId = true ∧
        Since Rests (Opens walletName requestId) past) ∧
    (∀ result : WalletConnectResult, ∀ named,
      now.apply (.walletConnectResult { result with walletName := named }) =
        now.apply (.walletConnectResult result)) ∧
    (usesRequestIds = true → ∀ moment ∈ past, ∀ posting, Posts moment posting →
      ∀ result : WalletConnectResult, result.requestId = requestId? posting →
        ∀ walletName, (now.apply (.walletConnectResult result)).2.wallet? = some walletName →
          walletName? posting = some walletName) := by
  intro past now
  have attempted : Attempted past now := run_attempted usesRequestIds calls
  refine ⟨?_, fun result named => rfl, ?_⟩
  · intro call event walletName heard credit
    obtain ⟨result, requestId, rfl, comes, waits, mine⟩ := credited_waits heard credit
    exact ⟨result, requestId, rfl, comes, waits, mine, attempted.opened _ _ waits⟩
  · rintro rfl moment member posting posts result copies walletName credit
    have heard : (now.perform (.apply (.walletConnectResult result))).2 =
      .heard (now.apply (.walletConnectResult result)).2 := rfl
    obtain ⟨_, requestId, ⟨⟩, _, waits, mine⟩ := credited_waits heard credit
    obtain ⟨id, carried, -⟩ := posted_carries calls moment member posting posts
    have waited := (run_numbered calls).latest _ _ waits
    rw [waited, copies, carried] at mine
    refine posted_wallet calls (attempted.opened _ _ waits) member posts ?_
    rw [carried, waited, eq_of_beq mine]

/-- Connecting Phantom is given up and Solflare is asked for. The late answer that Phantom is connected, from a host
page that copies the name of the wallet but no id, hands Phantom's accounts to Solflare, and a late failure of
Phantom's ends the attempt for Solflare. -/
theorem late_answers_are_credited_to_the_next_wallet :
    let channel : Channel := ⟨some "https://shop.example", false, false⟩
    let ask walletName := Call.request channel (fun _ => .ok ())
      ⟨walletName, none, ⟨false, 1, 0, by decide, by decide⟩, "SOL"⟩
    let now := (start true).after [ask "Phantom", .reset, ask "Solflare"]
    let connected : WalletConnectResult := ⟨"Phantom", true, some ["phantom-account"], none, none⟩
    let failed : WalletConnectResult := ⟨"Phantom", false, none, some "Rejected", none⟩
    now.state = .connecting "Solflare" (some "connect-2") ∧
    (now.perform (.apply (.walletConnectResult connected))).2 = .heard (.connected "Solflare" ["phantom-account"]) ∧
    (now.next (.apply (.walletConnectResult connected))).state = .processing "Solflare" ["phantom-account"] ∧
    (now.perform (.apply (.walletConnectResult failed))).2 = .heard (.failed "Solflare" "Rejected") ∧
    (now.next (.apply (.walletConnectResult failed))).state = .idle := by
  exact ⟨by decide +kernel, rfl, rfl, rfl, rfl⟩

end PayBridge.Handshake
