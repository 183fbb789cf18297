import Mathlib.Data.List.Nodup
import PayBridge.Proofs.Host.Attempts

/-! Request ids. Every attempt takes the next number, also one that the port refuses, so no two attempts share an
id, and an answer that names an attempt reaches that attempt or none. The numbers are unbounded; 64 bits hold them
for fewer than `2 ^ 64` attempts. -/
namespace PayBridge.Handshake

def requestId? (posting : Posting) : Option String := (posting.message.get? "requestId").bind Json.string?

/-- The id of the attempt that a call makes: the one in the message handed to the port, taken or refused. -/
def attemptId? (moment : Moment Handshake Call) : Option String :=
  (moment.before.handed? moment.action).bind requestId?

def Posts (moment : Moment Handshake Call) (posting : Posting) : Prop :=
  (moment.before.perform moment.action).2 = .asked (.ok posting)

def numberedId (number : Nat) : String := "connect-" ++ toString number

theorem numberedId_inj {m n : Nat} (same : numberedId m = numberedId n) : m = n := by
  have digits : String.ofList (Nat.toDigits 10 m) = String.ofList (Nat.toDigits 10 n) := by
    simpa only [numberedId, String.append_right_inj, Nat.toString_eq_ofList_toDigits] using same
  have values := congrArg (fun text => Nat.ofDigitChars 10 text 0) (String.ofList_injective digits)
  simpa only [Nat.ofDigitChars_ten_toDigits] using values

variable {past : List (Moment Handshake Call)} {flow now : Handshake} {call : Call} {id : String}

theorem issueId_numbered (numbers : flow.usesRequestIds = true) :
    flow.issueId = (some (numberedId (flow.issued + 1)), { flow with issued := flow.issued + 1 }) := by
  rw [issueId, if_pos numbers]
  rfl

theorem opening_requestId (flow : Handshake) (order : WalletOrder) (amount : Decimal) (target : String) :
    requestId? (flow.opening order amount target) = flow.issueId.1 := by
  simp only [requestId?, opening, Message.toJson, Message.fields, Json.present, Json.get?]
  cases flow.issueId.1 <;> rfl

theorem attemptId_handed {order : WalletOrder} {amount : Decimal} {target : String}
    (numbers : now.usesRequestIds = true)
    (handed : now.handed? call = some (now.opening order amount target)) :
    attemptId? ⟨now, call⟩ = some (numberedId (now.issued + 1)) := by
  rw [attemptId?, handed, Option.bind_some, opening_requestId, issueId_numbered numbers]

theorem next_issued (numbers : now.usesRequestIds = true) (call : Call) :
    (now.next call).usesRequestIds = true ∧
    (attemptId? ⟨now, call⟩ = none ∧ (now.next call).issued = now.issued ∨
      attemptId? ⟨now, call⟩ = some (numberedId (now.issued + 1)) ∧
        (now.next call).issued = now.issued + 1) := by
  have does := now.perform_does call
  unfold next
  generalize now.perform call = result at does ⊢
  cases does with
  | @refuses channel port order _ unasked =>
    have idless : attemptId? ⟨now, .request channel port order⟩ = none := by
      rw [attemptId?, unasked, Option.bind_none]
    exact ⟨numbers, .inl ⟨idless, rfl⟩⟩
  | fails _ handed | posts _ handed =>
    have id := attemptId_handed numbers handed
    simp only [issueId_numbered numbers]
    exact ⟨numbers, .inr ⟨id, trivial⟩⟩
  | resets => exact ⟨numbers, .inl ⟨rfl, rfl⟩⟩
  | hears applies => cases applies <;> exact ⟨numbers, .inl ⟨rfl, rfl⟩⟩

theorem Rests.state (rests : Rests ⟨now, call⟩) : (now.next call).state = now.state := by
  have does := now.perform_does call
  unfold Rests at rests
  unfold next
  generalize now.perform call = result at does rests ⊢
  cases does with
  | refuses => rfl
  | fails => exact now.issueId_state
  | posts | resets => cases rests
  | hears applies =>
    cases applies with
    | ignored => rfl
    | failed | connected | paid | paymentFailed => cases rests

/-- A flow that waits for an answer after a call waited for it before, and nothing came of the call, or has
opened the attempt in the call, with the next number. -/
theorem waits_cases (numbers : now.usesRequestIds = true) {walletName : String} {requestId : Option String}
    (waits : (now.next call).state = .connecting walletName requestId) :
    (Rests ⟨now, call⟩ ∧ now.state = .connecting walletName requestId ∧
      (now.next call).issued = now.issued) ∨
    ∃ posting, Posts ⟨now, call⟩ posting ∧ requestId = some (numberedId (now.issued + 1)) ∧
      (now.next call).issued = now.issued + 1 := by
  have does := now.perform_does call
  unfold next at waits ⊢
  unfold Rests Posts
  generalize now.perform call = result at does waits ⊢
  cases does with
  | refuses => exact .inl ⟨rfl, waits, rfl⟩
  | fails free =>
    rw [now.issueId_state.symm.trans waits] at free
    cases free
  | posts =>
    cases waits
    rw [issueId_numbered numbers]
    exact .inr ⟨_, rfl, rfl, rfl⟩
  | resets => cases waits
  | hears applies =>
    cases applies with
    | ignored => exact .inl ⟨rfl, waits, rfl⟩
    | failed | connected | paid | paymentFailed => cases waits

/-- The ids of all attempts so far are numbered in order, and an attempt that waits for its answer is the last
one. -/
structure Numbered (past : List (Moment Handshake Call)) (now : Handshake) : Prop where
  numbers : now.usesRequestIds = true
  attempts : past.filterMap attemptId? = (List.range now.issued).map fun number => numberedId (number + 1)
  latest : ∀ walletName requestId, now.state = .connecting walletName requestId →
    requestId = some (numberedId now.issued)

theorem Numbered.next (numbered : Numbered past now) (call : Call) :
    Numbered (past ++ [⟨now, call⟩]) (now.next call) := by
  obtain ⟨numbers, issues⟩ := next_issued numbered.numbers call
  refine ⟨numbers, ?_, ?_⟩
  · rw [List.filterMap_append, numbered.attempts]
    rcases issues with ⟨idless, same⟩ | ⟨id, more⟩
    · rw [List.filterMap_cons_none idless, List.filterMap_nil, List.append_nil, same]
    · rw [List.filterMap_cons_some id, List.filterMap_nil, more, List.range_succ, List.map_append]
      rfl
  · intro walletName requestId waits
    rcases waits_cases numbered.numbers waits with ⟨_, waited, same⟩ | ⟨_, _, id, more⟩
    · rw [same]
      exact numbered.latest walletName requestId waited
    · rw [more]
      exact id

theorem run_numbered (calls : List Call) :
    Numbered ((start true).history calls) ((start true).after calls) :=
  Run.invariant ⟨rfl, rfl, nofun⟩ (fun _ _ call numbered => numbered.next call) calls

/-- There are as many numbers as attempts, so 64 bits hold them for fewer than `2 ^ 64` attempts. -/
theorem issued_eq_attempts (calls : List Call) :
    ((start true).after calls).issued = (((start true).history calls).filterMap attemptId?).length := by
  rw [(run_numbered calls).attempts, List.length_map, List.length_range]

theorem Numbered.nodup (numbered : Numbered past now) : (past.filterMap attemptId?).Nodup := by
  rw [numbered.attempts]
  refine List.nodup_range.map fun m n same => ?_
  exact Nat.succ.inj (numberedId_inj same)

/-- What is posted carries the id of its attempt, and the flow waits for an answer with this id. -/
theorem Posts.carries (numbers : now.usesRequestIds = true) {posting : Posting}
    (posts : Posts ⟨now, call⟩ posting) : ∃ id walletName, requestId? posting = some id ∧
      attemptId? ⟨now, call⟩ = some id ∧ (now.next call).state = .connecting walletName (some id) := by
  have does := now.perform_does call
  unfold Posts at posts
  unfold next
  generalize now.perform call = result at does posts ⊢
  cases does with
  | refuses | fails | resets | hears => cases posts
  | @posts _ _ order _ _ _ handed =>
    cases posts
    refine ⟨_, order.walletName, ?_, attemptId_handed numbers handed, ?_⟩
    · rw [opening_requestId, issueId_numbered numbers]
    · rw [issueId_numbered numbers]

theorem issued_le_next (numbers : now.usesRequestIds = true) (call : Call) :
    now.issued ≤ (now.next call).issued := by
  rcases (next_issued numbers call).2 with ⟨_, same⟩ | ⟨_, more⟩
  · exact Nat.le_of_eq same.symm
  · exact Nat.le_of_lt (Nat.lt_of_succ_le (Nat.le_of_eq more.symm))

theorem issued_le_after (numbers : flow.usesRequestIds = true) (later : List Call) :
    flow.issued ≤ (flow.after later).issued := by
  induction later generalizing flow with
  | nil => exact Nat.le_refl _
  | cons call rest ih =>
    exact Nat.le_trans (issued_le_next numbers call) (ih (next_issued numbers call).1)

/-- A flow that waits for an answer, and has made no attempt for some calls, waited for it all along. -/
theorem waited_since (numbers : flow.usesRequestIds = true) (later : List Call) {walletName : String}
    {requestId : Option String} (waits : (flow.after later).state = .connecting walletName requestId)
    (same : (flow.after later).issued = flow.issued) :
    flow.state = .connecting walletName requestId ∧ ∀ moment ∈ flow.history later, Rests moment := by
  induction later generalizing flow with
  | nil => exact ⟨waits, List.forall_mem_nil _⟩
  | cons call rest ih =>
    have still := (next_issued numbers call).1
    have first : flow.issued ≤ (flow.next call).issued := issued_le_next numbers call
    have others : (flow.next call).issued ≤ (flow.after (call :: rest)).issued := issued_le_after still rest
    have unused : (flow.after (call :: rest)).issued = (flow.next call).issued := by omega
    obtain ⟨waited, rested⟩ := ih still waits unused
    rcases waits_cases numbers waited with ⟨rests, state, _⟩ | ⟨_, _, _, more⟩
    · exact ⟨state, List.forall_mem_cons.mpr ⟨rests, rested⟩⟩
    · omega

theorem state_after_rest (later : List Call) (rested : ∀ moment ∈ flow.history later, Rests moment) :
    (flow.after later).state = flow.state := by
  induction later generalizing flow with
  | nil => rfl
  | cons call rest ih =>
    obtain ⟨rests, others⟩ := List.forall_mem_cons.mp rested
    exact (ih others).trans rests.state

/-- The attempt was posted, and nothing came of any call after it: its answer is still waited for. -/
def Awaited (before : Handshake) (attempt : Call) (later : List Call) : Prop :=
  (∃ posting, Posts ⟨before, attempt⟩ posting) ∧ ∀ moment ∈ (before.next attempt).history later, Rests moment

theorem Awaited.answered {before : Handshake} {attempt : Call} {later : List Call}
    (awaited : Awaited before attempt later) (numbers : before.usesRequestIds = true)
    (made : attemptId? ⟨before, attempt⟩ = some id) {result : WalletConnectResult}
    (names : result.requestId = some id) :
    (((before.next attempt).after later).apply (.walletConnectResult result)).2 ≠ .ignored := by
  obtain ⟨⟨posting, posts⟩, rested⟩ := awaited
  obtain ⟨_, walletName, _, carried, state⟩ := posts.carries numbers
  obtain rfl := Option.some.inj (made.symm.trans carried)
  have waits := (state_after_rest later rested).trans state
  rw [apply, applyResult, waits, names]
  simp only [belongs, BEq.rfl, Bool.not_true, Bool.false_eq_true, ↓reduceIte]
  split <;> rintro ⟨⟩

theorem awaited_of_waits {before : Handshake} {attempt : Call} {later : List Call}
    (numbers : before.usesRequestIds = true) (numbered : Numbered past ((before.next attempt).after later))
    (made : attemptId? ⟨before, attempt⟩ = some id) {walletName : String} {requestId : Option String}
    (waits : ((before.next attempt).after later).state = .connecting walletName requestId)
    (mine : belongs requestId (some id) = true) : Awaited before attempt later := by
  obtain ⟨still, ⟨idless, _⟩ | ⟨numberedHere, more⟩⟩ := next_issued numbers attempt
  · rw [made] at idless
    cases idless
  · obtain rfl := numbered.latest walletName requestId waits
    obtain rfl := Option.some.inj (made.symm.trans numberedHere)
    have same := numberedId_inj (eq_of_beq mine)
    obtain ⟨waited, rested⟩ := waited_since still later waits (same.trans more.symm)
    rcases waits_cases numbers waited with ⟨_, _, unused⟩ | ⟨posting, posts, _⟩
    · omega
    · exact ⟨⟨posting, posts⟩, rested⟩

theorem ignored_unawaited {before : Handshake} {attempt : Call} {later : List Call}
    (numbers : before.usesRequestIds = true) (numbered : Numbered past ((before.next attempt).after later))
    (made : attemptId? ⟨before, attempt⟩ = some id) {result : WalletConnectResult}
    (names : result.requestId = some id) (unawaited : ¬ Awaited before attempt later) :
    ((before.next attempt).after later).apply (.walletConnectResult result) =
      ((before.next attempt).after later, .ignored) := by
  have applies := ((before.next attempt).after later).apply_applies (.walletConnectResult result)
  generalize ((before.next attempt).after later).apply _ = outcome at applies ⊢
  cases applies with
  | ignored => rfl
  | failed waits mine | connected waits mine =>
    rw [names] at mine
    exact absurd (awaited_of_waits numbers numbered made waits mine) unawaited

theorem posted_carries (calls : List Call) : ∀ moment ∈ (start true).history calls, ∀ posting,
    Posts moment posting → ∃ id, requestId? posting = some id ∧ attemptId? moment = some id := by
  intro moment member posting posts
  obtain ⟨earlier, later, _, before, _⟩ := Run.of_mem_history member
  have numbers : moment.before.usesRequestIds = true := by
    rw [before]
    exact (run_numbered earlier).numbers
  obtain ⟨id, _, carried, made, _⟩ := posts.carries numbers
  exact ⟨id, carried, made⟩

/-- With request ids, and however requests, messages and resets follow each other: all attempts have ids of their
own, and every message that is posted carries the id of its attempt. An answer that names an attempt is taken
as long as that attempt is waited for; from then on, whatever else is waited for, it is ignored and leaves the flow
as it is. The ids number the attempts, so 64 bits do for fewer than `2 ^ 64` of them. -/
theorem answers_reach_the_attempt_they_name (calls : List Call) :
    let past := (start true).history calls
    let now := (start true).after calls
    (past.filterMap attemptId?).Nodup ∧
    (∀ moment ∈ past, ∀ posting, Posts moment posting →
      ∃ id, requestId? posting = some id ∧ attemptId? moment = some id) ∧
    (past.Pairwise fun moment other => ∀ posting posting', Posts moment posting → Posts other posting' →
      requestId? posting ≠ requestId? posting') ∧
    ∀ earlier attempt later, calls = earlier ++ attempt :: later →
      ∀ id, attemptId? ⟨(start true).after earlier, attempt⟩ = some id →
        ∀ result : WalletConnectResult, result.requestId = some id →
          (Awaited ((start true).after earlier) attempt later →
            (now.apply (.walletConnectResult result)).2 ≠ .ignored) ∧
          (¬ Awaited ((start true).after earlier) attempt later →
            now.apply (.walletConnectResult result) = (now, .ignored)) := by
  intro past now
  have numbered : Numbered past now := run_numbered calls
  refine ⟨numbered.nodup, posted_carries calls, ?_, ?_⟩
  · have distinct := List.pairwise_filterMap.mp numbered.nodup
    refine distinct.imp_of_mem ?_
    intro moment other member member' apart posting posting' posts posts' same
    obtain ⟨id, carried, made⟩ := posted_carries calls moment member posting posts
    obtain ⟨id', carried', made'⟩ := posted_carries calls other member' posting' posts'
    rw [carried, carried'] at same
    exact apart id made id' made' (Option.some.inj same)
  · rintro earlier attempt later rfl id made result names
    have numbers := (run_numbered earlier).numbers
    have nowEq : now = (((start true).after earlier).next attempt).after later := Run.after_append ..
    rw [nowEq] at numbered ⊢
    exact ⟨fun awaited => awaited.answered numbers made names, ignored_unawaited numbers numbered made names⟩

end PayBridge.Handshake
