import PayBridge.Host.Handshake
import PayBridge.Host.Page
import PayBridge.Payment.Request
import PayBridge.Search.Poller
import PayBridge.Session.Phase
import PayBridge.Session.Settings

/-! A payment session. It holds one request and brings it to a phase that ends it, along one of two ways:
the code is shown and the ledger polled for the memo, or the host page connects a wallet and reports the
payment. After closing nothing changes the phase. -/
namespace PayBridge

inductive Session.Error where
  | closed
  | bridgeUnavailable
  | unknownWallet (name : String)
  | connect (cause : Handshake.Error)
  deriving DecidableEq, Repr

def Session.Error.message : Session.Error → String
  | .closed => "payment session is closed"
  | .bridgeUnavailable => "the host page does not support wallet connections"
  | .unknownWallet name => "unknown wallet: " ++ name
  | .connect cause => cause.message

/-- What a session shows outside, in order: a phase that was set, a message that was posted, a fetch that
was begun. -/
inductive SessionEffect where
  | phase (phase : Phase)
  | posted (posting : Posting)
  | fetched (time limit : Nat)

structure Session where
  channel : Channel
  handshake : Handshake
  host : HostPage
  request : PaymentRequest
  poller : Poller
  schedule : Schedule
  phase : Phase
  isClosed : Bool
  deriving DecidableEq, Repr

namespace Session

def start (frame : Frame) (host : HostPage) (request : PaymentRequest) (settings : Session.Settings) :
    Session where
  channel := .ofFrame frame settings.channel
  handshake := .start settings.requestIds
  host
  request
  poller := .idle
  schedule := settings.schedule
  phase := .idle
  isClosed := false

/-- What an operation leaves: the session, its result, and what was shown. -/
structure Step (α : Type) where
  session : Session
  result : α
  effects : List SessionEffect

def unchanged {α : Type} (session : Session) (result : α) : Step α := ⟨session, result, []⟩

def enter {α : Type} (session : Session) (phase : Phase) (result : α) : Step α :=
  ⟨{ session with phase }, result, [.phase phase]⟩

/-- Shows the code and polls for the memo from now on; an attempt to connect is given up. -/
def showQr (session : Session) : Step (Except Session.Error Unit) :=
  if session.isClosed then session.unchanged (.error .closed)
  else
    { session with
      handshake := session.handshake.reset
      poller := session.poller.start session.request.memo session.schedule }
      |>.enter (.scanning none) (.ok ())

/-- Asks the host page to connect a wallet. Polling stops once the request is out; a request that is
refused changes nothing but the ids given out. -/
def connectWallet (session : Session) (port : Port) (walletName : String)
    (typedAmount : Option String) : Step (Except Session.Error Unit) :=
  if session.isClosed then session.unchanged (.error .closed)
  else if !session.host.connectsWallets then session.unchanged (.error .bridgeUnavailable)
  else if (session.host.wallet? walletName).isNone then
    session.unchanged (.error (.unknownWallet walletName))
  else
    let (handshake, posted) := session.handshake.request session.channel port
      ⟨walletName, typedAmount, session.request.amount, session.request.currency⟩
    match posted with
    | .error cause => { session with handshake }.unchanged (.error (.connect cause))
    | .ok posting =>
      let phase := Phase.connecting walletName
      ⟨{ session with handshake, poller := session.poller.stop, phase }, .ok (),
        [.posted posting, .phase phase]⟩

def phaseOf? : Handshake.Event → Option Phase
  | .ignored => none
  | .failed walletName reason => some (.error (.connectFailed walletName reason))
  | .connected walletName _ => some (.processing walletName)
  | .paid signature => some (.success signature)
  | .paymentFailed reason => some (.error (.paymentFailed reason))

/-- Takes in a message event. One that the channel drops changes nothing. -/
def handle (session : Session) (event : Arrival) : Step Handshake.Event :=
  if session.isClosed then session.unchanged .ignored
  else match session.channel.accept event with
    | .error _ => session.unchanged .ignored
    | .ok (message, channel) =>
      let (handshake, outcome) := session.handshake.apply message
      let poller := match outcome with
        | .paid _ => session.poller.stop
        | _ => session.poller
      let session := { session with channel, handshake, poller }
      match phaseOf? outcome with
      | none => session.unchanged outcome
      | some phase => session.enter phase outcome

/-- Starts over after an error: a timeout is scanned for again, all else goes back to the choice. -/
def retry (session : Session) : Step Unit :=
  if session.isClosed then session.unchanged ()
  else match session.phase with
    | .error (.timeout _) =>
      let step := session.showQr
      ⟨step.session, (), step.effects⟩
    | _ =>
      { session with handshake := session.handshake.reset, poller := session.poller.stop }.enter .idle ()

def replace (session : Session) (request : PaymentRequest) : Step (Except Session.Error Unit) :=
  if session.isClosed then session.unchanged (.error .closed)
  else
    { session with handshake := session.handshake.reset, poller := session.poller.stop, request }.enter
      .idle (.ok ())

def close (session : Session) : Step Unit :=
  { session with
    handshake := session.handshake.reset, poller := session.poller.stop, isClosed := true }.unchanged ()

def effectOf? : PollEffect → Option SessionEffect
  | .fetched time limit => some (.fetched time limit)
  | .reported _ finding => some (.phase (.ofFinding finding))
  | .died _ => none

def phaseAfter (phase : Phase) (effects : List SessionEffect) : Phase :=
  effects.foldl (fun phase effect => match effect with
    | .phase next => next
    | _ => phase) phase

def advance (session : Session) (source : Source) (duration : Nat) : Step Unit :=
  let (poller, polled) := session.poller.advance source duration
  let effects := polled.filterMap effectOf?
  ⟨{ session with poller, phase := phaseAfter session.phase effects }, (), effects⟩

def debugText (session : Session) : String :=
  "PaymentSession \x7b memo: Memo(" ++ Text.quoted session.request.memo.text ++ "), phase: " ++
    session.phase.debugText ++ ", poller: " ++ session.poller.debugText ++ ", closed: " ++
    toString session.isClosed ++ ", .. \x7d"

end Session
end PayBridge
