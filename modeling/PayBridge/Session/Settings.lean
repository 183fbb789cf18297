import PayBridge.Host.Channel
import PayBridge.Search.Schedule

/-! Settings of a payment session: those of its channel, those of its polling, and whether requests to
connect a wallet carry ids. -/
namespace PayBridge

structure Session.Settings where
  channel : Channel.Settings
  schedule : Schedule
  requestIds : Bool
  deriving DecidableEq, Repr

namespace Session.Settings

open PayBridge.Json (Decoder ShapeError)

def standard : Session.Settings := ⟨.standard, .standard, true⟩

def set (settings : Session.Settings) (key : String) (value : Json) : Except ShapeError Session.Settings :=
  match key with
  | "channel" => do
    let channel ← Channel.Settings.decode value
    pure { settings with channel }
  | "poll" => do
    let schedule ← Schedule.decode value
    pure { settings with schedule }
  | "requestIds" => do
    let requestIds ← Decoder.bool value
    pure { settings with requestIds }
  | _ => pure settings

def decode : Decoder Session.Settings :=
  Decoder.record "SessionConfig" ["channel", "poll", "requestIds"] set standard

def toJson (settings : Session.Settings) : Json := .object [
  ("channel", settings.channel.toJson),
  ("poll", settings.schedule.toJson),
  ("requestIds", .bool settings.requestIds)]

end Session.Settings
end PayBridge
