import PayBridge.Proofs.Host.Handshake
import PayBridge.Proofs.Run

/-! A connect flow over its life: requests on any channel and port, messages of the host page in any order,
and resets. What the flow is waiting for has its beginning in the past: a request that was posted, and a
wallet that was connected in answer to it. -/
namespace PayBridge.Handshake

inductive Call where
  | request (channel : Channel) (port : Port) (order : WalletOrder)
  | apply (message : Message)
  | reset

inductive Answer where
  | asked (outcome : Except Handshake.Error Posting)
  | heard (event : Event)
  | done

def perform (flow : Handshake) : Call → Handshake × Answer
  | .request channel port order =>
    ((flow.request channel port order).1, .asked (flow.request channel port order).2)
  | .apply message => ((flow.apply message).1, .heard (flow.apply message).2)
  | .reset => (flow.reset, .done)

def next (flow : Handshake) (call : Call) : Handshake := (flow.perform call).1

abbrev after (flow : Handshake) (calls : List Call) : Handshake := Run.after next flow calls

abbrev history (flow : Handshake) (calls : List Call) : List (Moment Handshake Call) :=
  Run.history next flow calls

/-- The message that a request hands to its port, whether the port takes it or not: what would be posted if
the port took everything. -/
def handed? (flow : Handshake) : Call → Option Posting
  | .request channel _ order => (flow.request channel (fun _ => .ok ()) order).2.toOption
  | _ => none

/-- What a call can do to a flow. Every case says when it comes about, what is left, and what is answered. -/
inductive Does (flow : Handshake) : Call → Handshake × Answer → Prop where
  | refuses {channel : Channel} {port : Port} {order : WalletOrder} {cause : Handshake.Error}
      (unasked : flow.handed? (.request channel port order) = none) :
      Does flow (.request channel port order) (flow, .asked (.error cause))
  | fails {channel : Channel} {port : Port} {order : WalletOrder} {amount : Decimal} {target reason : String}
      (free : flow.state.isInFlight = false)
      (handed : flow.handed? (.request channel port order) = some (flow.opening order amount target)) :
      Does flow (.request channel port order) (flow.issueId.2, .asked (.error (.send (.port reason))))
  | posts {channel : Channel} {port : Port} {order : WalletOrder} {amount : Decimal} {target : String}
      (free : flow.state.isInFlight = false)
      (handed : flow.handed? (.request channel port order) = some (flow.opening order amount target)) :
      Does flow (.request channel port order)
        ({ flow.issueId.2 with state := .connecting order.walletName flow.issueId.1 },
          .asked (.ok (flow.opening order amount target)))
  | hears {message : Message} {heard : Handshake × Event} (applies : Applies flow message heard) :
      Does flow (.apply message) (heard.1, .heard heard.2)
  | resets : Does flow .reset (flow.reset, .done)

theorem perform_does (flow : Handshake) (call : Call) : Does flow call (flow.perform call) := by
  cases call with
  | request channel port order =>
    rcases flow.request_cases channel order with ⟨cause, _, refused⟩ | ⟨_, amount, target, free, _, _, settled⟩
    · have unasked : flow.handed? (.request channel port order) = none := by
        rw [handed?, refused]
        rfl
      rw [perform, refused]
      exact .refuses unasked
    · have handed : flow.handed? (.request channel port order) = some (flow.opening order amount target) := by
        rw [handed?, settled]
        rfl
      rw [perform, settled]
      cases port (flow.opening order amount target) with
      | error reason => exact .fails free handed
      | ok => exact .posts free handed
  | apply message => exact .hears (flow.apply_applies message)
  | reset => exact .resets

def Answer.isQuiet : Answer → Bool
  | .asked (.error _) => true
  | .heard .ignored => true
  | _ => false

def Opens (walletName : String) (requestId : Option String) (moment : Moment Handshake Call) : Prop :=
  (moment.before.next moment.action).state = .connecting walletName requestId ∧
  ∃ channel port order posting, moment.action = .request channel port order ∧
    order.walletName = walletName ∧ (moment.before.perform moment.action).2 = .asked (.ok posting)

def Connects (walletName : String) (accounts : List String) (moment : Moment Handshake Call) : Prop :=
  (moment.before.perform moment.action).2 = .heard (.connected walletName accounts)

/-- Nothing comes of the call: the request is refused, or the message ignored. -/
def Rests (moment : Moment Handshake Call) : Prop :=
  (moment.before.perform moment.action).2.isQuiet = true

/-- The wallet was connected in answer to the request that opened the attempt; nothing else came of any call
since that request. -/
def ConnectedSince (walletName : String) (accounts : List String) (past : List (Moment Handshake Call)) : Prop :=
  ∃ earlier moment later, past = earlier ++ moment :: later ∧ Connects walletName accounts moment ∧
    (∀ m ∈ later, Rests m) ∧ ∃ requestId, Since Rests (Opens walletName requestId) earlier

/-- What a flow waits for has its beginning in the past. -/
structure Attempted (past : List (Moment Handshake Call)) (now : Handshake) : Prop where
  opened : ∀ walletName requestId, now.state = .connecting walletName requestId →
    Since Rests (Opens walletName requestId) past
  connected : ∀ walletName accounts, now.state = .processing walletName accounts →
    ConnectedSince walletName accounts past

variable {past : List (Moment Handshake Call)} {now : Handshake} {call : Call}

theorem ConnectedSince.keep {walletName : String} {accounts : List String} {moment : Moment Handshake Call}
    (since : ConnectedSince walletName accounts past) (rests : Rests moment) :
    ConnectedSince walletName accounts (past ++ [moment]) := by
  obtain ⟨earlier, connecting, later, rfl, connects, rested, opened⟩ := since
  refine ⟨earlier, connecting, later ++ [moment], by simp, connects, ?_, opened⟩
  exact List.forall_mem_append.mpr ⟨rested, List.forall_mem_singleton.mpr rests⟩

theorem Attempted.keep (attempted : Attempted past now) {moment : Moment Handshake Call} (rests : Rests moment)
    {flow : Handshake} (same : flow.state = now.state) : Attempted (past ++ [moment]) flow where
  opened _ _ state := (attempted.opened _ _ (same.symm.trans state)).keep rests
  connected _ _ state := (attempted.connected _ _ (same.symm.trans state)).keep rests

theorem Attempted.next (attempted : Attempted past now) (call : Call) :
    Attempted (past ++ [⟨now, call⟩]) (now.next call) := by
  have does := now.perform_does call
  unfold Handshake.next
  generalize performed : now.perform call = result at does ⊢
  have rests (quiet : result.2.isQuiet = true) : Rests ⟨now, call⟩ := by
    rw [Rests, performed]
    exact quiet
  cases does with
  | refuses => exact attempted.keep (rests rfl) rfl
  | fails => exact attempted.keep (rests rfl) now.issueId_state
  | resets => exact ⟨nofun, nofun⟩
  | @posts channel port order =>
    refine ⟨?_, nofun⟩
    rintro walletName requestId ⟨⟩
    refine .now ⟨?_, channel, port, order, _, rfl, rfl, congrArg Prod.snd performed⟩
    rw [Handshake.next, performed]
  | hears applies =>
    cases applies with
    | ignored => exact attempted.keep (rests rfl) rfl
    | failed | paid | paymentFailed => exact ⟨nofun, nofun⟩
    | @connected walletName requestId result state =>
      have connects : Connects walletName (result.accounts.getD [])
          ⟨now, .apply (.walletConnectResult result)⟩ := congrArg Prod.snd performed
      refine ⟨nofun, ?_⟩
      rintro _ _ ⟨⟩
      exact ⟨past, _, [], rfl, connects, List.forall_mem_nil _, requestId, attempted.opened _ _ state⟩

theorem start_attempted (usesRequestIds : Bool) : Attempted [] (start usesRequestIds) := ⟨nofun, nofun⟩

theorem run_attempted (usesRequestIds : Bool) (calls : List Call) :
    Attempted ((start usesRequestIds).history calls) ((start usesRequestIds).after calls) :=
  Run.invariant (start_attempted usesRequestIds) (fun _ _ call attempted => attempted.next call) calls

end PayBridge.Handshake
