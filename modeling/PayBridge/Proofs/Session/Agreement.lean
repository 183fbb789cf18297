import PayBridge.Proofs.Session.Moves

/-! The phase of an open session tells what its connect flow and its polling are doing. The three are set
apart from each other, by every operation and by every report of the polling, and agree all the same as
long as no source ends a loop without a report. -/
namespace PayBridge

def Source.Lives (source : Source) : Prop := ∀ asked, (source asked).answer ≠ .death

def PollLoop.Lives (loop : PollLoop) : Prop :=
  ∀ time nextTick, loop.stage ≠ .fetching time .death nextTick

theorem PollLoop.Fires.lives {source : Source} {asked : Nat} {loop following : PollLoop} {step : PollStep}
    (fires : loop.Fires source asked step) (lively : source.Lives) (goesOn : step.loop = some following) :
    following.Lives := by
  intro time nextTick
  cases fires with
  | delayed | goesOn =>
    cases goesOn
    nofun
  | fetches =>
    cases goesOn
    intro stage
    simp only [Stage.fetching.injEq] at stage
    exact lively asked stage.2.1
  | ends | dies => cases goesOn

namespace Session

/-- Which attempts a phase goes with, and whether polling runs in it. -/
def Fits : Phase → Handshake.State → Bool → Prop
  | .idle, state, running | .error _, state, running => state = .idle ∧ running = false
  | .scanning _, state, running => state = .idle ∧ running = true
  | .connecting walletName, state, running =>
    (∃ requestId, state = .connecting walletName requestId) ∧ running = false
  | .processing walletName, state, running =>
    (∃ accounts, state = .processing walletName accounts) ∧ running = false
  | .success signature, state, running =>
    (state = .idle ∨ state = .completed signature) ∧ running = false

structure Agrees (session : Session) : Prop where
  scanning : (∃ status, session.phase = .scanning status) ↔ session.poller.isRunning = true
  connecting : ∀ walletName, session.phase = .connecting walletName ↔
    ∃ requestId, session.handshake.state = .connecting walletName requestId
  processing : ∀ walletName, session.phase = .processing walletName ↔
    ∃ accounts, session.handshake.state = .processing walletName accounts
  completed : ∀ signature, session.handshake.state = .completed signature →
    session.phase = .success signature
  quiet : session.phase = .idle ∨ (∃ status, session.phase = .scanning status) ∨
    (∃ failure, session.phase = .error failure) → session.handshake.state = .idle
  apart : session.poller.isRunning = true → session.handshake.state.isInFlight = false

variable {s : Session}

theorem Fits.agrees (fits : Fits s.phase s.handshake.state s.poller.isRunning) : s.Agrees := by
  cases phase : s.phase with
  | idle | scanning | error =>
    rw [phase] at fits
    obtain ⟨state, running⟩ := fits
    constructor <;> simp [phase, state, running, Handshake.State.isInFlight]
  | connecting | processing =>
    rw [phase] at fits
    obtain ⟨⟨_, state⟩, running⟩ := fits
    constructor <;> simp [phase, state, running]
  | success signature =>
    rw [phase] at fits
    obtain ⟨state | state, running⟩ := fits <;>
    constructor <;> simp [phase, state, running]

theorem ofFinding_fits (finding : Finding) : Fits (.ofFinding finding) .idle (!finding.isTerminal) := by
  cases finding with
  | status text => exact ⟨rfl, rfl⟩
  | confirmed signature => exact ⟨.inl rfl, rfl⟩
  | timedOut attempts => exact ⟨rfl, rfl⟩

/-- An open session fits together, and the fetch that is pending will bring a page. -/
structure Coherent (session : Session) : Prop where
  fits : session.isClosed = false →
    Fits session.phase session.handshake.state session.poller.isRunning
  lives : ∀ loop, session.poller.loop = some loop → loop.Lives

/-- Only polling depends on a source, and it gets pages only. -/
def Action.Lives : Action → Prop
  | .fire source => source.Lives
  | _ => True

theorem Coherent.running (coherent : s.Coherent) (opened : s.isClosed = false) {loop : PollLoop}
    (running : s.poller.loop = some loop) :
    (∃ status, s.phase = .scanning status) ∧ s.handshake.state = .idle := by
  have fits := coherent.fits opened
  simp only [Poller.isRunning, running, Option.isSome_some] at fits
  cases phase : s.phase with
  | scanning status =>
    rw [phase] at fits
    exact ⟨⟨status, rfl⟩, fits.1⟩
  | _ =>
    rw [phase] at fits
    exact absurd fits.2 (by decide)

theorem Coherent.stopped (coherent : s.Coherent) (opened : s.isClosed = false)
    (inFlight : s.handshake.state.isInFlight = true) : s.poller.isRunning = false := by
  cases running : s.poller.isRunning with
  | false => rfl
  | true =>
    have apart := (coherent.fits opened).agrees.apart running
    rw [inFlight] at apart
    contradiction

theorem Coherent.next (coherent : s.Coherent) {action : Action} (lively : action.Lives) :
    (s.next action).Coherent := by
  have moves := s.perform_moves action
  unfold Session.next
  generalize s.perform action = step at moves ⊢
  cases moves with
  | closed | refuses | drops | ignores | rests | waits => exact ⟨coherent.fits, coherent.lives⟩
  | scans | rescans =>
    refine ⟨fun _ => ⟨rfl, rfl⟩, ?_⟩
    rintro loop ⟨⟩ time nextTick
    nofun
  | clears | replaces => exact ⟨fun _ => ⟨rfl, rfl⟩, nofun⟩
  | closes => exact ⟨nofun, nofun⟩
  | fails opened =>
    refine ⟨fun _ => ?_, coherent.lives⟩
    simpa only [Handshake.issueId_state] using coherent.fits opened
  | posts => exact ⟨fun _ => ⟨⟨_, rfl⟩, rfl⟩, nofun⟩
  | connects opened _ state =>
    have stopped := coherent.stopped opened (by rw [state]; rfl)
    exact ⟨fun _ => ⟨⟨_, rfl⟩, stopped⟩, coherent.lives⟩
  | pays => exact ⟨fun _ => ⟨.inr rfl, rfl⟩, nofun⟩
  | breaks opened _ inFlight =>
    exact ⟨fun _ => ⟨rfl, coherent.stopped opened inFlight⟩, coherent.lives⟩
  | @fires _ loop _ running fired =>
    refine ⟨fun opened => ?_, fun following goesOn => fired.lives lively goesOn⟩
    obtain ⟨⟨status, scanning⟩, idle⟩ := coherent.running opened running
    cases fired with
    | delayed | fetches =>
      rw [scanning, idle]
      exact ⟨rfl, rfl⟩
    | @goesOn _ _ page _ undecided =>
      have fits := ofFinding_fits (loop.search.observe page).2
      rw [undecided] at fits
      rw [idle]
      exact fits
    | @ends _ _ page _ decided =>
      have fits := ofFinding_fits (loop.search.observe page).2
      rw [decided] at fits
      rw [idle]
      exact fits
    | dies stage => exact absurd stage (coherent.lives _ running _ _)

end Session
end PayBridge
