import PayBridge.Proofs.Host.Channel
import PayBridge.Proofs.Search.Succession
import PayBridge.Proofs.Session.Renumbering
import PayBridge.Proofs.Session.Tasks

/-! Starting over leaves nothing behind. A session whose request is replaced goes on as a new session does that begins
at that time, with what the source and the channel have come to know: neither the tasks nor the attempts of before are
seen again. Only the ids of new attempts count on from the old ones. -/
namespace PayBridge

namespace Session

/-- What a session was set up with and keeps. Its channel only learns whom it trusts. -/
structure Configured (frame : Frame) (host : HostPage) (settings : Session.Settings) (session : Session) :
    Prop where
  channel : session.channel = { Channel.ofFrame frame settings.channel with locked := session.channel.locked }
  host : session.host = host
  schedule : session.schedule = settings.schedule
  numbers : session.handshake.usesRequestIds = settings.requestIds
  unnumbered : settings.requestIds = false → session.handshake.issued = 0

variable {frame : Frame} {host : HostPage} {settings : Session.Settings} {session : Session}

/-- A session that takes in a message has learned at most whom to trust. -/
theorem Configured.accept (configured : Configured frame host settings session) {event : Arrival}
    {message : Message} {channel : Channel} (accepted : session.channel.accept event = .ok (message, channel)) :
    channel = { Channel.ofFrame frame settings.channel with locked := channel.locked } := by
  obtain ⟨_, trusted, _⟩ := Channel.accept_iff.mp accepted
  have kept := configured.channel
  rcases Channel.trust_iff.mp trusted with ⟨_, rfl⟩ | ⟨_, _, _, rfl⟩
  · exact kept
  · rw [kept]

theorem Configured.issueId (configured : Configured frame host settings session) :
    session.handshake.issueId.2.usesRequestIds = settings.requestIds ∧
    (settings.requestIds = false → session.handshake.issueId.2.issued = 0) := by
  have numbers := configured.numbers
  unfold Handshake.issueId
  split
  · rename_i numbered
    exact ⟨numbers, fun without => absurd ((numbered.symm.trans numbers).trans without) (by decide)⟩
  · exact ⟨numbers, configured.unnumbered⟩

theorem Configured.next (configured : Configured frame host settings session) (action : Action) :
    Configured frame host settings (session.next action) := by
  obtain ⟨numbers, unnumbered⟩ := configured.issueId
  have moves := session.perform_moves action
  unfold Session.next
  generalize session.perform action = step at moves ⊢
  cases moves with
  | closed | scans | rescans | clears | replaces | closes | refuses | drops | rests | fires | waits =>
    exact ⟨configured.channel, configured.host, configured.schedule, configured.numbers, configured.unnumbered⟩
  | fails | posts => exact ⟨configured.channel, configured.host, configured.schedule, numbers, unnumbered⟩
  | ignores _ accepted | connects _ accepted | pays _ accepted | breaks _ accepted =>
    exact ⟨configured.accept accepted, configured.host, configured.schedule, configured.numbers,
      configured.unnumbered⟩

theorem start_configured (frame : Frame) (host : HostPage) (request : PaymentRequest)
    (settings : Session.Settings) : Configured frame host settings (start frame host request settings) :=
  ⟨rfl, rfl, rfl, rfl, fun _ => rfl⟩

/-- An open session whose request is replaced is a new one, but for its clock, for what it has asked, for whom it
trusts, and for the ids it has given out. -/
theorem Configured.cleared (configured : Configured frame host settings session) (opened : session.isClosed = false)
    (replacement : PaymentRequest) :
    session.cleared replacement = renumbered session.handshake.issued { start frame host replacement settings with
      channel := { Channel.ofFrame frame settings.channel with locked := session.channel.locked }
      poller := ⟨session.poller.now, session.poller.asked, none⟩ } := by
  obtain ⟨channel, ⟨state, numbers, issued⟩, hostPage, request, poller, schedule, phase, isClosed⟩ := session
  simp only [Session.cleared, renumbered, start, Handshake.renumbered, Handshake.reset, Handshake.start,
    Session.mk.injEq, Handshake.mk.injEq, Nat.zero_add, true_and, and_true]
  exact ⟨configured.channel, ⟨rfl, configured.numbers⟩, configured.host, rfl, configured.schedule, opened⟩

variable (source : Source)

theorem orders_renumbered (shift : Nat) (session : Session) (action : Action) :
    (session.renumbered shift).orders source (action.renumbered shift) = session.orders source action := by
  unfold orders
  simp only [perform_renumbered, Step.renumbered]
  generalize (session.perform action).result = result
  cases result with
  | answered result => cases result <;> cases action <;> rfl
  | heard outcome => cases outcome <;> cases action <;> rfl
  | nothing => cases action <;> rfl

theorem orders_without (count : Nat) (session : Session) (action : Action) :
    (session.orders source action).map (TaskPool.Action.without count) = session.orders source action := by
  unfold orders
  split
  case h_5 =>
    split
    · rfl
    · cases session.phase with
      | error failure => cases failure <;> rfl
      | _ => rfl
  all_goals rfl

theorem Action.renumbered_isFiring (shift : Int) (action : Action) :
    (action.renumbered shift).isFiring = action.isFiring := by
  cases action <;> rfl

end Session

namespace TaskedSession

/-- A new session that begins at some time, with a source that was asked before and a channel that knows already
whom it trusts, if anybody. -/
def begun (frame : Frame) (host : HostPage) (request : PaymentRequest) (settings : Session.Settings)
    (source : Source) (locked : Option String) (now asked : Nat) : TaskedSession :=
  let session := Session.start frame host request settings
  ⟨{ session with channel := { session.channel with locked }, poller := ⟨now, asked, none⟩ }, source,
    ⟨now, asked, [], none⟩⟩

theorem begun_synced (frame : Frame) (host : HostPage) (request : PaymentRequest) (settings : Session.Settings)
    (source : Source) (locked : Option String) (now asked : Nat) :
    (begun frame host request settings source locked now asked).Synced :=
  ⟨⟨nofun, nofun⟩, rfl⟩

def Deed.renumbered (shift : Int) : Deed → Deed
  | .act action own => .act (action.renumbered shift) ((action.renumbered_isFiring shift).trans own)
  | .wake number => .wake number

/-- The deed to a session without as many of the first tasks. Waking one of those comes to nothing: no time passes. -/
def Deed.without (count : Nat) : Deed → Deed
  | .act action own => .act action own
  | .wake number => if number < count then .act (.wait 0) rfl else .wake (number - count)

/-- The session is another one, but for attempts and tasks that are over. -/
structure Echoes (issued spawned : Nat) (renewed fresh : TaskedSession) : Prop where
  session : renewed.session = fresh.session.renumbered issued
  source : renewed.source = fresh.source
  pool : TaskPool.Trails spawned renewed.pool fresh.pool
  synced : fresh.Synced

variable {issued spawned : Nat} {renewed fresh : TaskedSession}

/-- What the deed is to the session that never had the attempts and tasks that are over. -/
abbrev Deed.afresh (issued spawned : Nat) (deed : Deed) : Deed := (deed.without spawned).renumbered (-issued)

theorem Echoes.act (echoes : Echoes issued spawned renewed fresh) (action : Session.Action)
    (own : action.isFiring = false) :
    renewed.perform (.act action own) =
        (fresh.perform (Deed.afresh issued spawned (.act action own))).renumbered issued ∧
      Echoes issued spawned (renewed.next (.act action own))
        (fresh.next (Deed.afresh issued spawned (.act action own))) := by
  -- ids are shifted from the fresh session to the renewed one, and the action is the renewed one's
  have undone : (action.renumbered (-issued)).renumbered issued = action := by
    rw [Session.Action.renumbered_renumbered, Int.add_left_neg, Session.Action.renumbered_zero]
  have same : renewed.perform (.act action own) =
      (fresh.perform (Deed.afresh issued spawned (.act action own))).renumbered issued := by
    have shifted := Session.perform_renumbered issued fresh.session (action.renumbered (-issued))
    rw [undone, ← echoes.session] at shifted
    exact shifted
  refine ⟨same, congrArg Session.Step.session same, echoes.source, ?_, echoes.synced.next _⟩
  have asks : renewed.session.orders renewed.source action =
      fresh.session.orders fresh.source (action.renumbered (-issued)) := by
    have shifted := Session.orders_renumbered fresh.source issued fresh.session (action.renumbered (-issued))
    rw [undone, ← echoes.session, ← echoes.source] at shifted
    rw [shifted, echoes.source]
  have trails := echoes.pool.after (renewed.session.orders renewed.source action)
  rw [Session.orders_without, asks] at trails
  rw [TaskedSession.next, TaskedSession.next]
  simp only [TaskedSession.orders, asks]
  exact trails

theorem Echoes.wake (echoes : Echoes issued spawned renewed fresh) (number : Nat) :
    renewed.perform (.wake number) = (fresh.perform (Deed.afresh issued spawned (.wake number))).renumbered issued ∧
      Echoes issued spawned (renewed.next (.wake number))
        (fresh.next (Deed.afresh issued spawned (.wake number))) := by
  obtain ⟨shown, trails⟩ := echoes.pool.perform (.wake number)
  by_cases early : number < spawned
  · have stale : Deed.afresh issued spawned (.wake number) = .act (.wait 0) rfl := by
      simp only [Deed.afresh, Deed.without, early, ↓reduceIte]
      rfl
    have idles : (TaskPool.Action.wake number).without spawned = .wait 0 := if_pos early
    rw [idles] at shown trails
    have same : renewed.perform (.wake number) = (fresh.perform (.act (.wait 0) rfl)).renumbered issued := by
      -- a waking writes the poller anew, which the wait keeps: only in step with the pool are they the same
      have still : (fresh.pool.next (.wait 0)).poller = fresh.session.poller := echoes.synced.poller.symm
      rw [perform_wake, trails.poller, shown, still, echoes.session]
      rfl
    rw [stale]
    exact ⟨same, congrArg Session.Step.session same, echoes.source, trails, echoes.synced.next _⟩
  · have own : Deed.afresh issued spawned (.wake number) = .wake (number - spawned) := by
      simp only [Deed.afresh, Deed.without, early, ↓reduceIte]
      rfl
    have moved : (TaskPool.Action.wake number).without spawned = .wake (number - spawned) := if_neg early
    rw [moved] at shown trails
    have same : renewed.perform (.wake number) = (fresh.perform (.wake (number - spawned))).renumbered issued := by
      rw [perform_wake, perform_wake, trails.poller, shown, echoes.session]
      simp only [Session.Step.renumbered, Session.polled_renumbered]
      rfl
    rw [own]
    exact ⟨same, congrArg Session.Step.session same, echoes.source, trails, echoes.synced.next _⟩

/-- One deed does the same to both, and leaves them alike. -/
theorem Echoes.perform (echoes : Echoes issued spawned renewed fresh) (deed : Deed) :
    renewed.perform deed = (fresh.perform (deed.afresh issued spawned)).renumbered issued ∧
      Echoes issued spawned (renewed.next deed) (fresh.next (deed.afresh issued spawned)) := by
  cases deed with
  | act action own => exact echoes.act action own
  | wake number => exact echoes.wake number

theorem Echoes.run (echoes : Echoes issued spawned renewed fresh) (deeds : List Deed) :
    renewed.steps deeds =
        (fresh.steps (deeds.map (Deed.afresh issued spawned))).map (Session.Step.renumbered issued) ∧
      Echoes issued spawned (renewed.after deeds) (fresh.after (deeds.map (Deed.afresh issued spawned))) := by
  induction deeds generalizing renewed fresh with
  | nil => exact ⟨rfl, echoes⟩
  | cons deed rest ih =>
    obtain ⟨same, alike⟩ := echoes.perform deed
    obtain ⟨others, ends⟩ := ih alike
    exact ⟨List.cons_eq_cons.mpr ⟨same, others⟩, ends⟩

theorem Echoes.run_unnumbered (echoes : Echoes 0 spawned renewed fresh) (deeds : List Deed) :
    renewed.steps deeds = fresh.steps (deeds.map (Deed.without spawned)) := by
  have stays : Deed.afresh 0 spawned = Deed.without spawned := by
    funext deed
    rw [Deed.afresh, Int.natCast_zero, Int.neg_zero]
    cases deed.without spawned with
    | act action own => simp only [Deed.renumbered, Session.Action.renumbered_zero]
    | wake number => rfl
  rw [(echoes.run deeds).1, stays]
  exact (List.map_congr_left fun step _ => step.renumbered_zero).trans (List.map_id _)

variable {frame : Frame} {host : HostPage} {settings : Session.Settings} {source : Source} {tasked : TaskedSession}

theorem replaced_echoes (synced : tasked.Synced) (configured : tasked.session.Configured frame host settings)
    (opened : tasked.session.isClosed = false) (replacement : PaymentRequest) :
    Echoes tasked.session.handshake.issued tasked.pool.tasks.length (tasked.next (.replace replacement))
      (begun frame host replacement settings tasked.source tasked.session.channel.locked tasked.pool.now
        tasked.pool.asked) := by
  refine ⟨?_, rfl, ?_, begun_synced ..⟩
  · have clock : (⟨tasked.session.poller.now, tasked.session.poller.asked, none⟩ : Poller) =
        ⟨tasked.pool.now, tasked.pool.asked, none⟩ := by
      rw [synced.poller]
      rfl
    rw [next_replace opened, configured.cleared opened, clock]
    rfl
  · rw [next_replace opened]
    exact synced.sound.stop_trails

/-- Retrying comes to replacing the request by itself, and to showing the code if time ran out. -/
theorem retry_eq (tasked : TaskedSession) : tasked.next .retry = tasked.after
    (.replace tasked.session.request :: if tasked.session.hasTimedOut then [.showQr] else []) := by
  cases opened : tasked.session.isClosed with
  | true =>
    have replaced : tasked.next (.replace tasked.session.request) = tasked := next_closed opened rfl rfl
    have shown : tasked.next .showQr = tasked := next_closed opened rfl rfl
    rw [next_closed opened rfl rfl]
    split <;> simp only [TaskedSession.after, Run.after, List.foldl_cons, List.foldl_nil, replaced, shown]
  | false =>
    have replaced := next_replace opened tasked.session.request
    have still : (tasked.session.cleared tasked.session.request).isClosed = false := opened
    refine (tasked.next_act .retry rfl).trans ?_
    rw [Session.perform_retry opened, Session.orders_retry tasked.source opened]
    cases tasked.session.hasTimedOut with
    | true =>
      change _ = (tasked.next (.replace tasked.session.request)).next .showQr
      rw [replaced]
      refine Eq.trans ?_ (next_act _ .showQr rfl).symm
      rw [Session.perform_showQr still, Session.orders_showQr _ still]
      rfl
    | false =>
      change _ = tasked.next (.replace tasked.session.request)
      rw [replaced]
      rfl

/-- Whatever was done before, to whichever of the tasks: replacing the request of an open session makes it do, show,
post and ask for what a new session with that request would from then on, whatever is done to it, be it pages of
earlier tasks or answers to earlier attempts that still come in. With request ids, all ids are shifted by the number of
those given out before. Retrying comes to replacing the request by itself and, only if time ran out, to showing the
code, with all looks granted anew. -/
theorem starting_over_leaves_nothing_behind (frame : Frame) (host : HostPage) (request : PaymentRequest)
    (settings : Session.Settings) (source : Source) (earlier : List Deed) :
    let before := (start frame host request settings source).after earlier
    let issued := before.session.handshake.issued
    let spawned := before.pool.tasks.length
    (before.session.isClosed = false → ∀ replacement later,
      let renewed := before.next (.replace replacement)
      let fresh := begun frame host replacement settings source before.session.channel.locked before.pool.now
        before.pool.asked
      (before.perform (.replace replacement)).result = .answered (.ok ()) ∧
      renewed.steps later =
        (fresh.steps (later.map (Deed.afresh issued spawned))).map (Session.Step.renumbered issued) ∧
      (settings.requestIds = false → renewed.steps later = fresh.steps (later.map (Deed.without spawned))) ∧
      ∀ other duration, (renewed.after later).session.advance other duration =
        ((fresh.after (later.map (Deed.afresh issued spawned))).session.advance other duration).renumbered issued) ∧
    before.next .retry = before.after
      (.replace before.session.request :: if before.session.hasTimedOut then [.showQr] else []) ∧
    (before.session.isClosed = false → before.session.hasTimedOut = true →
      (before.next .retry).session.poller.loop =
        some (PollLoop.start before.pool.now before.session.request.memo settings.schedule)) := by
  intro before issued spawned
  have starts := start_synced frame host request settings source
  have synced : before.Synced := starts.after earlier
  have configured : before.session.Configured frame host settings :=
    starts.keeps (fun _ action configured => configured.next action)
      (Session.start_configured frame host request settings) earlier
  have asks : before.source = source := after_source ..
  refine ⟨fun opened replacement later => ?_, retry_eq before, fun opened late => ?_⟩
  · have echoes := replaced_echoes synced configured opened replacement
    rw [asks] at echoes
    obtain ⟨same, alike⟩ := echoes.run later
    refine ⟨?_, same, fun without => ?_, fun other duration => ?_⟩
    · exact congrArg Session.Step.result (Session.perform_replace opened replacement)
    · rw [configured.unnumbered without] at echoes
      exact echoes.run_unnumbered later
    · rw [alike.session, Session.advance_renumbered]
  · change (before.session.perform .retry).session.poller.loop = _
    rw [Session.perform_retry opened, if_pos late, ← configured.schedule]
    change some (PollLoop.start before.session.poller.now _ _) = _
    rw [synced.poller]
    rfl

/-- A scan is given up for a wallet while its page is on its way, and the request is replaced while the wallet is
awaited. Then the page comes in, the code is shown again and given up for the wallet, and the wallet answers the first
attempt before the second. A scan that times out is retried. -/
theorem replaced_request_is_paid_on_its_own :
    let frame : Frame := ⟨"null", none, none, []⟩
    let host : HostPage := ⟨[⟨"Phantom", none, true, none⟩], true⟩
    let source := Source.ofScript [⟨500, .page (.entries [⟨"late", some "[6] pl-0-1"⟩])⟩]
    let connect := Deed.act (.connectWallet (fun _ => .ok ()) "Phantom" none) rfl
    let answer (id : String) := Deed.act (.handle ⟨"https://shop.example", true, .object [("requestId", .string id),
      ("success", .bool true), ("type", .string "walletConnectResult"), ("walletName", .string "Phantom")]⟩) rfl
    let before := (start frame host Session.twoCoins .standard source).after [.showQr, .wake 0, .wake 0, connect]
    let replacement := { Session.twoCoins with memo := ⟨"pl-0-2"⟩ }
    let renewed := before.next (.replace replacement)
    let fresh := begun frame host replacement .standard source none 0 1
    let later := [.wake 0, .showQr, .wake 1, .wake 0, connect, answer "connect-1", answer "connect-2"]
    let late := (start frame host Session.twoCoins ⟨.standard, ⟨0, 1, 1, 10⟩, true⟩ source).after
      [.replace replacement, .showQr, .wake 0, .wake 0, .wake 0, .wake 0]
    before.session.isClosed = false ∧ before.session.handshake.issued = 1 ∧ before.pool.tasks.length = 1 ∧
      renewed.steps later = (fresh.steps (later.map (Deed.afresh 1 1))).map (Session.Step.renumbered 1) ∧
      (renewed.after later.dropLast).session.phase = .connecting "Phantom" ∧
      (renewed.after later).session.phase = .processing "Phantom" ∧
      late.session.phase = .error (.timeout 1) ∧
      late.next .retry = late.after [.replace late.session.request, .showQr] := by
  intro frame host source connect answer before replacement renewed fresh later late
  have opened : before.session.isClosed = false := by decide +kernel
  have issued : before.session.handshake.issued = 1 := by decide +kernel
  have spawned : before.pool.tasks.length = 1 := by decide +kernel
  have connecting : (renewed.after later.dropLast).session.phase = .connecting "Phantom" := by decide +kernel
  have processing : (renewed.after later).session.phase = .processing "Phantom" := by decide +kernel
  have timedOut : late.session.phase = .error (.timeout 1) := by decide +kernel
  refine ⟨opened, issued, spawned, ?_, connecting, processing, timedOut, ?_⟩
  · have run : before = (start frame host Session.twoCoins .standard source).after
      [.showQr, .wake 0, .wake 0, connect] := rfl
    have locked : before.session.channel.locked = none := by decide +kernel
    have now : before.pool.now = 0 := by decide +kernel
    have asked : before.pool.asked = 1 := by decide +kernel
    obtain ⟨renews, _⟩ := starting_over_leaves_nothing_behind frame host Session.twoCoins .standard source
      [.showQr, .wake 0, .wake 0, connect]
    rw [← run, issued, spawned, locked, now, asked] at renews
    exact (renews opened replacement later).2.1
  · have again : late.session.hasTimedOut = true := by decide +kernel
    have run : late = (start frame host Session.twoCoins ⟨.standard, ⟨0, 1, 1, 10⟩, true⟩ source).after
      [.replace replacement, .showQr, .wake 0, .wake 0, .wake 0, .wake 0] := rfl
    obtain ⟨_, retries, _⟩ := starting_over_leaves_nothing_behind frame host Session.twoCoins
      ⟨.standard, ⟨0, 1, 1, 10⟩, true⟩ source [.replace replacement, .showQr, .wake 0, .wake 0, .wake 0, .wake 0]
    rw [← run, again] at retries
    exact retries

end TaskedSession
end PayBridge
