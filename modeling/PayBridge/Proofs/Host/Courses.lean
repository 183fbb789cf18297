import PayBridge.Proofs.Host.Correlation
import PayBridge.Proofs.Host.Outcomes

/-! What comes of a request that was posted. However the host page repeats, reorders or contradicts itself, what is
taken of its messages until the next request is posted follows one of five courses, and each ends with its only
outcome. A flow that waits for nothing ignores every message. -/
namespace PayBridge.Handshake

/-- What is heard of an attempt with this wallet, from the request that was posted to the outcome. -/
inductive Course (walletName : String) : List Event → Prop where
  | failed (reason : String) : Course walletName [.failed walletName reason]
  | connectedPaid (accounts : List String) (signature : String) :
      Course walletName [.connected walletName accounts, .paid signature]
  | connectedUnpaid (accounts : List String) (reason : String) :
      Course walletName [.connected walletName accounts, .paymentFailed reason]
  | paid (signature : String) : Course walletName [.paid signature]
  | unpaid (reason : String) : Course walletName [.paymentFailed reason]

def heard? (moment : Moment Handshake Call) : Option Event :=
  match (moment.before.perform moment.action).2 with
  | .heard .ignored => none
  | .heard event => some event
  | _ => none

/-- What was heard in the past, but for what was ignored. -/
def happened (past : List (Moment Handshake Call)) : List Event := past.filterMap heard?

def Unposted (past : List (Moment Handshake Call)) : Prop := ∀ moment ∈ past, ∀ posting, ¬ Posts moment posting

variable {flow now : Handshake} {call : Call} {past : List (Moment Handshake Call)} {walletName : String}

theorem happened_concat (past : List (Moment Handshake Call)) (moment : Moment Handshake Call) :
    happened (past ++ [moment]) = happened past ++ (heard? moment).toList := by
  cases heard : heard? moment <;> simp [happened, heard]

theorem apply_free (free : flow.state.isInFlight = false) (message : Message) :
    flow.apply message = (flow, .ignored) := by
  have applies := flow.apply_applies message
  generalize flow.apply message = outcome at applies ⊢
  cases applies with
  | ignored => rfl
  | failed state | connected state =>
    rw [state] at free
    cases free
  | paid inFlight | paymentFailed inFlight => exact absurd (free.symm.trans inFlight) (by decide)

theorem next_free (free : now.state.isInFlight = false) (unposted : ∀ posting, ¬ Posts ⟨now, call⟩ posting) :
    (now.next call).state.isInFlight = false := by
  have does := now.perform_does call
  unfold Posts at unposted
  unfold next
  generalize now.perform call = result at does unposted ⊢
  cases does with
  | refuses => exact free
  | fails => exact (congrArg State.isInFlight now.issueId_state).trans free
  | posts => exact absurd rfl (unposted _)
  | resets => rfl
  | hears applies =>
    cases applies with
    | ignored => exact free
    | failed | paid | paymentFailed => rfl
    | connected state =>
      rw [state] at free
      cases free

theorem free_since (free : flow.state.isInFlight = false) (later : List Call)
    (unposted : Unposted (flow.history later)) :
    ∀ moment ∈ flow.history later, moment.before.state.isInFlight = false := by
  induction later generalizing flow with
  | nil => exact List.forall_mem_nil _
  | cons call rest ih =>
    obtain ⟨first, others⟩ := List.forall_mem_cons.mp unposted
    exact List.forall_mem_cons.mpr ⟨free, ih (next_free free first) others⟩

theorem ends_free {event : Event} (heard : heard? ⟨now, call⟩ = some event) (final : event.isFinal = true) :
    (now.next call).state.isInFlight = false := by
  have does := now.perform_does call
  unfold heard? at heard
  unfold next
  generalize now.perform call = result at does heard ⊢
  cases does with
  | refuses | fails | posts | resets => cases heard
  | hears applies =>
    cases applies with
    | ignored => cases heard
    | failed | paid | paymentFailed => rfl
    | connected =>
      cases heard
      cases final

/-- What has happened to an attempt begins one of its courses, and if the flow still waits, it tells which. -/
structure Courses (walletName : String) (state : State) (happened : List Event) : Prop where
  begins : ∃ course, Course walletName course ∧ happened <+: course
  connecting : ∀ name requestId, state = .connecting name requestId → name = walletName ∧ happened = []
  processing : ∀ name accounts, state = .processing name accounts →
    name = walletName ∧ happened = [.connected walletName accounts]

/-- Once the flow waits for nothing, what has happened is all there is. -/
theorem Courses.ended {state : State} {happened : List Event} (free : state.isInFlight = false)
    (begins : ∃ course, Course walletName course ∧ happened <+: course) : Courses walletName state happened := by
  refine ⟨begins, ?_, ?_⟩
  · rintro _ _ rfl
    cases free
  · rintro _ _ rfl
    cases free

theorem Courses.outcome {state : State} {happened : List Event} (courses : Courses walletName state happened)
    (inFlight : state.isInFlight = true) {event : Event} (told : event.isOfPayment = true) :
    Course walletName (happened ++ [event]) := by
  cases state with
  | idle | completed => cases inFlight
  | connecting name requestId =>
    obtain ⟨_, rfl⟩ := courses.connecting name requestId rfl
    cases event with
    | ignored | failed | connected => cases told
    | paid signature => exact .paid signature
    | paymentFailed reason => exact .unpaid reason
  | processing name accounts =>
    obtain ⟨_, rfl⟩ := courses.processing name accounts rfl
    cases event with
    | ignored | failed | connected => cases told
    | paid signature => exact .connectedPaid accounts signature
    | paymentFailed reason => exact .connectedUnpaid accounts reason

/-- What a call that posts nothing adds to the course of an attempt. -/
theorem Courses.next (courses : Courses walletName now.state (happened past))
    (unposted : ∀ posting, ¬ Posts ⟨now, call⟩ posting) :
    Courses walletName (now.next call).state (happened (past ++ [⟨now, call⟩])) := by
  have does := now.perform_does call
  rw [happened_concat]
  unfold Posts at unposted
  unfold Handshake.next heard?
  generalize now.perform call = result at does unposted ⊢
  cases does with
  | refuses => simpa only [Option.toList_none, List.append_nil] using courses
  | fails => simpa only [issueId_state, Option.toList_none, List.append_nil] using courses
  | posts => exact absurd rfl (unposted _)
  | resets =>
    simp only [Option.toList_none, List.append_nil]
    exact .ended rfl courses.begins
  | hears applies =>
    cases applies with
    | ignored => simpa only [Option.toList_none, List.append_nil] using courses
    | failed state =>
      obtain ⟨rfl, unheard⟩ := courses.connecting _ _ state
      rw [unheard]
      exact .ended rfl ⟨_, .failed _, List.prefix_rfl⟩
    | @connected name requestId result state =>
      obtain ⟨rfl, unheard⟩ := courses.connecting _ _ state
      rw [unheard]
      refine ⟨⟨_, .connectedPaid (result.accounts.getD []) "", ⟨_, rfl⟩⟩, nofun, ?_⟩
      rintro _ _ ⟨⟩
      exact ⟨rfl, rfl⟩
    | paid inFlight | paymentFailed inFlight =>
      exact .ended rfl ⟨_, courses.outcome inFlight rfl, List.prefix_rfl⟩

theorem Courses.opening (walletName : String) (requestId : Option String) :
    Courses walletName (.connecting walletName requestId) [] := by
  refine ⟨⟨_, .paid "", List.nil_prefix⟩, ?_, nofun⟩
  rintro _ _ ⟨⟩
  exact ⟨rfl, rfl⟩

/-- An attempt that was posted follows one of its courses until the next one is posted. -/
theorem courses_since (opened : Courses walletName flow.state []) (later : List Call)
    (unposted : Unposted (flow.history later)) :
    Courses walletName (flow.after later).state (happened (flow.history later)) := by
  refine Run.invariant (P := fun past now => Unposted past → Courses walletName now.state (happened past))
    (fun _ => opened) ?_ later unposted
  intro past now call courses unposted
  obtain ⟨before, last⟩ := List.forall_mem_append.mp unposted
  exact (courses before).next (List.forall_mem_singleton.mp last)

theorem Course.outcomes {course begun : List Event} (whole : Course walletName course) (begins : begun <+: course) :
    begun.countP Event.isFinal ≤ 1 := by
  have bound : course.countP Event.isFinal ≤ 1 := by cases whole <;> exact Nat.le_refl 1
  exact Nat.le_trans (begins.sublist.countP_le) bound

/-- Whatever is asked of a flow, in whatever order, and whatever the host page says: while an attempt is in flight
no request reaches the port. What is heard from the posting of a request until the next posting begins one of the
courses, with the wallet that was asked for, so it holds one outcome at most. After an outcome or a reset every
message is ignored, and leaves the flow as it is, until a request is posted again. -/
theorem attempts_have_one_outcome (usesRequestIds : Bool) (earlier : List Call) (call : Call) (later : List Call) :
    let now := (start usesRequestIds).after earlier
    let since := (now.next call).history later
    (now.state.isInFlight = true → now.handed? call = none ∧ ∀ posting, ¬ Posts ⟨now, call⟩ posting) ∧
    (Unposted since →
      (∀ channel port order posting, call = .request channel port order → Posts ⟨now, call⟩ posting →
        (∃ course, Course order.walletName course ∧ happened since <+: course) ∧
        (happened since).countP Event.isFinal ≤ 1) ∧
      ((call = .reset ∨ ∃ event, heard? ⟨now, call⟩ = some event ∧ event.isFinal = true) →
        ∀ moment ∈ since, ∀ message, moment.action = .apply message →
          moment.before.perform moment.action = (moment.before, .heard .ignored))) := by
  intro now since
  refine ⟨fun inFlight => ?_, fun unposted => ⟨?_, ?_⟩⟩
  · have does := now.perform_does call
    unfold Posts
    generalize now.perform call = result at does ⊢
    cases does with
    | refuses unasked => exact ⟨unasked, nofun⟩
    | fails free | posts free => exact absurd (free.symm.trans inFlight) (by decide)
    | hears | resets => exact ⟨rfl, nofun⟩
  · rintro channel port order posting rfl posts
    have opened : Courses order.walletName (now.next (.request channel port order)).state [] := by
      have does := now.perform_does (.request channel port order)
      unfold Posts at posts
      unfold Handshake.next
      generalize now.perform (.request channel port order) = result at does posts ⊢
      cases does with
      | refuses | fails => cases posts
      | posts => exact .opening _ _
    obtain ⟨course, whole, begins⟩ := (courses_since opened later unposted).begins
    exact ⟨⟨course, whole, begins⟩, whole.outcomes begins⟩
  · intro ended moment member message applies
    have free : (now.next call).state.isInFlight = false := by
      rcases ended with rfl | ⟨event, heard, final⟩
      · rfl
      · exact ends_free heard final
    rw [applies, perform, apply_free (free_since free later unposted moment member)]

/-- A host page that connects the wallet, takes it back, and reports a failed payment twice and then a paid one. -/
theorem contradicted_attempt_has_one_outcome :
    let channel : Channel := ⟨some "https://shop.example", false, false⟩
    let ask := Call.request channel (fun _ => .ok ()) ⟨"Phantom", none, ⟨false, 1, 0, by decide, by decide⟩, "SOL"⟩
    let answer (success : Bool) := Call.apply (.walletConnectResult ⟨"Phantom", success, none, none, some "connect-1"⟩)
    let later := [answer true, answer false, .apply (.paymentError none), .apply (.paymentError none),
      .apply (.paymentSuccess "sig")]
    let since := ((start true).next ask).history later
    (∃ posting, Posts ⟨start true, ask⟩ posting) ∧ Unposted since ∧
      happened since = [.connected "Phantom" [], .paymentFailed paymentFailureText] ∧
      (happened since).countP Event.isFinal ≤ 1 := by
  intro channel ask answer later since
  have posts : ∃ posting, Posts ⟨start true, ask⟩ posting := ⟨_, rfl⟩
  have unposted : Unposted since := by
    intro moment member posting posts
    simp only [since, later, Run.history, List.mem_cons, List.not_mem_nil, or_false] at member
    rcases member with rfl | rfl | rfl | rfl | rfl <;> cases posts
  obtain ⟨posting, posted⟩ := posts
  obtain ⟨_, single⟩ := ((attempts_have_one_outcome true [] ask later).2 unposted).1 _ _ _ posting rfl posted
  exact ⟨⟨posting, posted⟩, unposted, by decide +kernel, single⟩

end PayBridge.Handshake
