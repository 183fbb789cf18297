import PayBridge.Host.Message
import PayBridge.Host.Origin

/-! The channel to the host page. What comes in counts only from the parent window and from the trusted
origin: the pinned one, else the one found when the frame was mounted. An inline frame with neither trusts
the first valid message of a web origin and keeps to that origin. What goes out goes to the trusted origin;
only the inline frame that trusts nobody yet sends to any. -/
namespace PayBridge

structure Channel.Settings where
  expectedOrigin : Option Origin
  debug : Bool
  deriving DecidableEq, Repr

namespace Channel.Settings

open PayBridge.Json (Decoder ShapeError)

def standard : Channel.Settings := ⟨none, false⟩

def decodeOrigin : Decoder Origin := fun value => do
  let text ← Decoder.string value
  match Origin.parse text with
  | .ok origin => pure origin
  | .error e => throw (.refused e.message)

def set (settings : Channel.Settings) (key : String) (value : Json) : Except ShapeError Channel.Settings :=
  match key with
  | "expectedOrigin" => do
    let origin ← Decoder.nullable decodeOrigin value
    pure { settings with expectedOrigin := origin }
  | "debug" => do
    let debug ← Decoder.bool value
    pure { settings with debug }
  | _ => pure settings

def decode : Decoder Channel.Settings :=
  Decoder.record "ChannelConfig" ["expectedOrigin", "debug"] set standard

def toJson (settings : Channel.Settings) : Json := .object (Json.present [
  ("debug", some (.bool settings.debug)),
  ("expectedOrigin", settings.expectedOrigin.map fun origin => .string origin.text)])

/-- The web origin that is pinned. Pinning the opaque origin pins nothing. -/
def pinned? (settings : Channel.Settings) : Option String :=
  match settings.expectedOrigin with
  | some (.tuple text) => some text
  | _ => none

end Channel.Settings

structure Arrival where
  origin : String
  fromParent : Bool
  data : Json

inductive Violation where
  | wrongSource
  | originMismatch (expected actual : String)
  | noTrustedOrigin (actual : String)
  | untrustedOrigin (actual : String)
  | malformed (cause : Message.Error)
  | unexpectedDirection (kind : Message.Kind)
  deriving DecidableEq, Repr

def Violation.message : Violation → String
  | .wrongSource => "message does not come from the parent frame"
  | .originMismatch expected actual => "origin mismatch: expected " ++ expected ++ ", got " ++ actual
  | .noTrustedOrigin actual => "no trusted parent origin for message from " ++ actual
  | .untrustedOrigin actual => "untrusted origin " ++ actual
  | .malformed cause => "malformed message: " ++ cause.message
  | .unexpectedDirection kind => kind.name ++ " is not accepted from the parent"

structure Posting where
  message : Json
  target : String

/-- Posts for the channel, or says why not. A port that refuses has not posted. -/
abbrev Port := Posting → Except String Unit

inductive Channel.SendError where
  | noTargetOrigin
  | wrongDirection (kind : Message.Kind)
  | port (reason : String)
  deriving DecidableEq, Repr

def Channel.SendError.message : Channel.SendError → String
  | .noTargetOrigin => "no target origin for the parent frame"
  | .wrongDirection kind => kind.name ++ " cannot be sent to the parent"
  | .port reason => "postMessage failed: " ++ reason

/-- What a channel trusts. `locked` is the trusted origin once there is one. -/
structure Channel where
  locked : Option String
  isInline : Bool
  isPinned : Bool
  deriving DecidableEq, Repr

namespace Channel

def anyOrigin : String := "*"

def mountedOrigin? (frame : Frame) : Option String :=
  match frame.hostOrigin? with
  | some (.tuple text) => some text
  | _ => none

def ofFrame (frame : Frame) (settings : Channel.Settings) : Channel where
  locked := settings.pinned?.or (mountedOrigin? frame)
  isInline := frame.isInline
  isPinned := settings.pinned?.isSome

/-- Whether the first message may tell the origin. -/
def mayInfer (channel : Channel) : Bool := channel.isInline && !channel.isPinned

def target? (channel : Channel) : Option String :=
  match channel.locked with
  | some origin => some origin
  | none => if channel.mayInfer then some anyOrigin else none

/-- The channel once an event of this origin counts, if its origin lets it count at all. -/
def trust (channel : Channel) (origin : String) : Except Violation Channel :=
  match channel.locked with
  | some expected =>
    if expected = origin then .ok channel else .error (.originMismatch expected origin)
  | none =>
    if !channel.mayInfer then .error (.noTrustedOrigin origin)
    else if Origin.parse? origin = some (.tuple origin) then .ok { channel with locked := some origin }
    else .error (.untrustedOrigin origin)

/-- Reads the message of an event, and tells the channel afterwards. Source, origin, shape and direction
are checked in this order; the origin is locked only if all of them hold. -/
def accept (channel : Channel) (event : Arrival) : Except Violation (Message × Channel) := do
  if !event.fromParent then throw .wrongSource
  let trusting ← channel.trust event.origin
  let message ← (Message.parse event.data).mapError .malformed
  if message.direction ≠ .parentToChild then throw (.unexpectedDirection message.kind)
  pure (message, trusting)

def send (channel : Channel) (port : Port) (message : Message) : Except Channel.SendError Posting := do
  if message.direction ≠ .childToParent then throw (.wrongDirection message.kind)
  let some target := channel.target? | throw .noTargetOrigin
  let posting : Posting := ⟨message.toJson, target⟩
  (port posting).mapError .port
  pure posting

end Channel
end PayBridge
