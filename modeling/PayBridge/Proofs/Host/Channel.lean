import PayBridge.Proofs.Host.Origin
import PayBridge.Proofs.Run

/-! A channel over its life: any sequence of arriving events and of messages sent. It trusts one origin at
most. The origin is found when the frame is mounted or adopted from the first event that counts, and is
kept from then on. -/
namespace PayBridge.Channel

inductive Call where
  | accept (event : Arrival)
  | send (port : Port) (message : Message)

def next (channel : Channel) : Call → Channel
  | .accept event =>
    match channel.accept event with
    | .ok (_, trusting) => trusting
    | .error _ => channel
  | .send _ _ => channel

def Accepts (moment : Moment Channel Call) (event : Arrival) : Prop :=
  moment.action = .accept event ∧
    ∃ message trusting, moment.before.accept event = .ok (message, trusting)

variable {channel trusting : Channel} {event : Arrival} {message : Message} {origin : String}

theorem trust_iff : channel.trust origin = .ok trusting ↔
    channel.locked = some origin ∧ trusting = channel ∨
    channel.locked = none ∧ channel.mayInfer = true ∧ Origin.parse? origin = some (.tuple origin) ∧
      trusting = { channel with locked := some origin } := by
  unfold trust
  cases locked : channel.locked with
  | some expected =>
    by_cases same : expected = origin
    · subst same
      simp only [↓reduceIte, Except.ok.injEq, true_and, reduceCtorEq, false_and, or_false]
      exact eq_comm
    · simp [same]
  | none =>
    cases infers : channel.mayInfer with
    | false => simp
    | true =>
      by_cases canonical : Origin.parse? origin = some (.tuple origin)
      · simp only [Bool.not_true, Bool.false_eq_true, canonical, ↓reduceIte, Except.ok.injEq,
          reduceCtorEq, false_and, true_and, false_or]
        exact eq_comm
      · simp [canonical]

theorem accept_iff : channel.accept event = .ok (message, trusting) ↔
    event.fromParent = true ∧ channel.trust event.origin = .ok trusting ∧
      Message.parse event.data = .ok message ∧ message.direction = .parentToChild := by
  unfold accept
  cases parent : event.fromParent with
  | false => exact ⟨nofun, nofun⟩
  | true =>
    cases channel.trust event.origin with
    | error cause => exact ⟨nofun, nofun⟩
    | ok adopted =>
      cases Message.parse event.data with
      | error cause => exact ⟨nofun, nofun⟩
      | ok read =>
        change (if read.direction ≠ .parentToChild
          then .error (Violation.unexpectedDirection read.kind) else .ok (read, adopted)) =
            Except.ok (message, trusting) ↔ _
        by_cases inward : read.direction = .parentToChild
        · rw [if_neg (not_not_intro inward)]
          constructor
          · rintro ⟨⟩
            exact ⟨rfl, rfl, rfl, inward⟩
          · rintro ⟨_, ⟨⟩, ⟨⟩, _⟩
            rfl
        · rw [if_pos inward]
          refine ⟨nofun, ?_⟩
          rintro ⟨_, _, ⟨⟩, arrives⟩
          exact absurd arrives inward

theorem accept_trusted (accepted : channel.accept event = .ok (message, trusting)) :
    event.fromParent = true ∧ trusting.locked = some event.origin ∧
      Message.parse event.data = .ok message := by
  obtain ⟨parent, trusts, parsed, _⟩ := accept_iff.mp accepted
  refine ⟨parent, ?_, parsed⟩
  rcases trust_iff.mp trusts with ⟨locked, rfl⟩ | ⟨_, _, _, rfl⟩
  · exact locked
  · rfl

/-- Why an event does not count: by where it comes from, or by what it says. -/
inductive Refuses (channel : Channel) (event : Arrival) : Prop where
  | elsewhere (outside : event.fromParent = false)
  | otherOrigin {expected : String} (locked : channel.locked = some expected)
      (other : expected ≠ event.origin)
  | noTrust (free : channel.locked = none) (strict : channel.mayInfer = false)
  | notCanonical (free : channel.locked = none)
      (odd : Origin.parse? event.origin ≠ some (.tuple event.origin))
  | malformed {cause : Message.Error} (unread : Message.parse event.data = .error cause)
  | outward {message : Message} (parsed : Message.parse event.data = .ok message)
      (sent : message.direction = .childToParent)

theorem trust_refuses {violation : Violation} (refused : channel.trust event.origin = .error violation) :
    channel.Refuses event := by
  unfold trust at refused
  split at refused
  · rename_i expected locked
    split at refused
    · cases refused
    · rename_i other
      exact .otherOrigin locked other
  · rename_i free
    split at refused
    · rename_i strict
      exact .noTrust free (Bool.not_eq_true' _ ▸ strict)
    · split at refused
      · cases refused
      · rename_i odd
        exact .notCanonical free odd

theorem refuses_iff : channel.Refuses event ↔ ∃ violation, channel.accept event = .error violation := by
  constructor
  · intro refuses
    cases accepted : channel.accept event with
    | error violation => exact ⟨violation, rfl⟩
    | ok outcome =>
      obtain ⟨parent, trusts, parsed, inward⟩ := accept_iff.mp accepted
      have origin := trust_iff.mp trusts
      cases refuses with
      | elsewhere outside => exact absurd (outside.symm.trans parent) (by decide)
      | otherOrigin locked other => simp [locked, other] at origin
      | noTrust free strict => simp [free, strict] at origin
      | notCanonical free odd => simp [free, odd] at origin
      | malformed unread => exact absurd (unread.symm.trans parsed) nofun
      | outward read sent =>
        obtain rfl := Except.ok.inj (read.symm.trans parsed)
        exact absurd (sent.symm.trans inward) (by decide)
  · rintro ⟨violation, refused⟩
    cases parent : event.fromParent with
    | false => exact .elsewhere parent
    | true =>
      cases trusts : channel.trust event.origin with
      | error cause => exact trust_refuses trusts
      | ok trusting =>
        cases parsed : Message.parse event.data with
        | error cause => exact .malformed parsed
        | ok read =>
          cases inward : read.direction with
          | childToParent => exact .outward parsed inward
          | parentToChild =>
            have accepted := accept_iff.mpr ⟨parent, trusts, parsed, inward⟩
            exact absurd (refused.symm.trans accepted) nofun

theorem target?_cases {target : String} (trusted : channel.target? = some target) :
    channel.locked = some target ∨
    channel.locked = none ∧ channel.mayInfer = true ∧ target = anyOrigin := by
  unfold target? at trusted
  split at trusted
  · exact .inl (by rwa [← trusted])
  · rename_i free
    split at trusted
    · rename_i infers
      exact .inr ⟨free, infers, (Option.some.inj trusted).symm⟩
    · contradiction

theorem next_accept (accepted : channel.accept event = .ok (message, trusting)) :
    channel.next (.accept event) = trusting := by
  simp only [next, accepted]

/-- A call leaves the channel as it is, unless nothing is trusted yet and the event counts. -/
theorem next_cases (channel : Channel) (call : Call) :
    channel.next call = channel ∨
    ∃ event, Accepts ⟨channel, call⟩ event ∧ channel.locked = none ∧ channel.mayInfer = true ∧
      Origin.parse? event.origin = some (.tuple event.origin) ∧
      channel.next call = { channel with locked := some event.origin } := by
  cases call with
  | send port message => exact .inl rfl
  | accept event =>
    cases accepted : channel.accept event with
    | error cause => exact .inl (by simp only [next, accepted])
    | ok outcome =>
      obtain ⟨message, trusting⟩ := outcome
      rw [next_accept accepted]
      rcases trust_iff.mp (accept_iff.mp accepted).2.1 with ⟨_, same⟩ | ⟨free, infers, canonical, adopted⟩
      · exact .inl same
      · exact .inr ⟨event, ⟨rfl, message, trusting, accepted⟩, free, infers, canonical, adopted⟩

theorem next_locked (locked : channel.locked = some origin) (call : Call) :
    (channel.next call).locked = some origin := by
  rcases next_cases channel call with same | ⟨_, _, free, _⟩
  · rw [same, locked]
  · rw [free] at locked
    contradiction

theorem next_mayInfer (channel : Channel) (call : Call) :
    (channel.next call).mayInfer = channel.mayInfer := by
  rcases next_cases channel call with same | ⟨event, _, _, _, _, adopted⟩
  · rw [same]
  · rw [adopted]
    rfl

theorem after_locked (locked : channel.locked = some origin) (calls : List Call) :
    (Run.after next channel calls).locked = some origin :=
  Run.keeps (P := fun now : Channel => now.locked = some origin) (fun _ call now => next_locked now call)
    locked calls

theorem after_mayInfer (channel : Channel) (calls : List Call) :
    (Run.after next channel calls).mayInfer = channel.mayInfer :=
  Run.keeps (P := fun now : Channel => now.mayInfer = channel.mayInfer)
    (fun now call same => (next_mayInfer now call).trans same) rfl calls

theorem Accepts.trusted {moment : Moment Channel Call} (accepts : Accepts moment event) :
    event.fromParent = true ∧ (moment.before.next moment.action).locked = some event.origin := by
  obtain ⟨before, action⟩ := moment
  obtain ⟨rfl, message, trusting, accepted⟩ := accepts
  obtain ⟨parent, locked, _⟩ := accept_trusted accepted
  rw [next_accept accepted]
  exact ⟨parent, locked⟩

theorem ofFrame_web {frame : Frame} {settings : Settings}
    (pinned : ∀ expected, settings.expectedOrigin = some expected → expected.IsRead)
    (locked : (ofFrame frame settings).locked = some origin) : Origin.IsWebText origin := by
  simp only [ofFrame, Option.or_eq_some_iff] at locked
  rcases locked with expected | ⟨_, found⟩
  · unfold Settings.pinned? at expected
    split at expected
    · rename_i text present
      cases expected
      exact (pinned _ present).web
    · contradiction
  · unfold mountedOrigin? at found
    split at found
    · rename_i text host
      cases found
      exact (Frame.hostOrigin?_read host).web
    · contradiction

/-- Only an inline frame without a pinned origin and without one found at its mounting adopts any. -/
theorem ofFrame_free {frame : Frame} {settings : Settings} (free : (ofFrame frame settings).locked = none)
    (infers : (ofFrame frame settings).mayInfer = true) :
    frame.isInline = true ∧ settings.pinned? = none ∧ mountedOrigin? frame = none := by
  simp only [ofFrame, Option.or_eq_none_iff] at free
  simp only [mayInfer, ofFrame, Bool.and_eq_true] at infers
  exact ⟨infers.1, free.1, free.2⟩

/-- The origin that a channel trusts, once there is one, is the origin of all events that ever count. It is
adopted only by an event that counts, where nothing was pinned or found, and is a web origin in its one
spelling. -/
theorem trusts_one_origin (frame : Frame) (settings : Settings) (calls : List Call) :
    (∀ moment ∈ Run.history next (ofFrame frame settings) calls, ∀ origin,
      moment.before.locked = some origin →
        (Run.after next (ofFrame frame settings) calls).locked = some origin) ∧
    (∀ moment ∈ Run.history next (ofFrame frame settings) calls, ∀ event, Accepts moment event →
      event.fromParent = true ∧
        (moment.before.next moment.action).locked = some event.origin ∧
        (Run.after next (ofFrame frame settings) calls).locked = some event.origin) ∧
    (∀ moment ∈ Run.history next (ofFrame frame settings) calls,
      ∀ other ∈ Run.history next (ofFrame frame settings) calls, ∀ event event',
        Accepts moment event → Accepts other event' → event.origin = event'.origin) ∧
    (∀ moment ∈ Run.history next (ofFrame frame settings) calls, ∀ origin,
      moment.before.locked = none → (moment.before.next moment.action).locked = some origin →
        frame.isInline = true ∧ settings.pinned? = none ∧ mountedOrigin? frame = none ∧
        Origin.parse? origin = some (.tuple origin) ∧ Origin.IsWebText origin ∧
        ∃ event, Accepts moment event ∧ event.origin = origin) := by
  have kept : ∀ moment ∈ Run.history next (ofFrame frame settings) calls, ∀ event,
      Accepts moment event →
        (Run.after next (ofFrame frame settings) calls).locked = some event.origin := by
    intro moment member event accepts
    obtain ⟨earlier, later, _, _, now⟩ := Run.of_mem_history member
    rw [now]
    exact after_locked accepts.trusted.2 later
  refine ⟨?_, ?_, ?_, ?_⟩
  · intro moment member origin locked
    obtain ⟨earlier, later, _, _, now⟩ := Run.of_mem_history member
    rw [now]
    exact after_locked (next_locked locked moment.action) later
  · intro moment member event accepts
    exact ⟨accepts.trusted.1, accepts.trusted.2, kept moment member event accepts⟩
  · intro moment member other member' event event' accepts accepts'
    exact Option.some.inj ((kept moment member event accepts).symm.trans
      (kept other member' event' accepts'))
  · intro moment member origin free adopted
    obtain ⟨earlier, later, _, before, _⟩ := Run.of_mem_history member
    rcases next_cases moment.before moment.action with same | ⟨event, accepts, _, infers, canonical, step⟩
    · rw [same, free] at adopted
      contradiction
    · rw [step] at adopted
      obtain rfl := Option.some.inj adopted
      have free' : (ofFrame frame settings).locked = none := by
        cases locked : (ofFrame frame settings).locked with
        | none => rfl
        | some origin =>
          rw [before, after_locked locked earlier] at free
          contradiction
      rw [before, after_mayInfer] at infers
      obtain ⟨isInline, unpinned, unfound⟩ := ofFrame_free free' infers
      exact ⟨isInline, unpinned, unfound, canonical, Origin.parse?_web canonical, event, accepts, rfl⟩

end PayBridge.Channel
