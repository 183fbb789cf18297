import PayBridge.Json.Shape
import PayBridge.Json.Writer

/-! Settings of polling: a delay before the first look at the ledger, the time between looks, how many
looks there are, and how much is fetched at each. Times are milliseconds. -/
namespace PayBridge

structure Schedule where
  graceDelay : Nat
  interval : Nat
  maxAttempts : Nat
  signatureLimit : Nat
  deriving DecidableEq, Repr

/-- The sum of two durations is longer than a duration can be. -/
inductive DurationOverflow where
  | adding
  deriving DecidableEq, Repr

def DurationOverflow.message : DurationOverflow → String
  | .adding => "overflow when adding durations"

namespace Schedule

open PayBridge.Json (Decoder ShapeError)

def standard : Schedule := ⟨3000, 2000, 90, 10⟩

def keys : List String := ["grace_delay_ms", "interval_ms", "max_attempts", "signature_limit"]

def set (schedule : Schedule) (key : String) (value : Json) : Except ShapeError Schedule :=
  match key with
  | "grace_delay_ms" => do
    let graceDelay ← Decoder.unsigned 64 "u64" value
    pure { schedule with graceDelay }
  | "interval_ms" => do
    let interval ← Decoder.unsigned 64 "u64" value
    pure { schedule with interval }
  | "max_attempts" => do
    let maxAttempts ← Decoder.unsigned 32 "u32" value
    pure { schedule with maxAttempts }
  | "signature_limit" => do
    let signatureLimit ← Decoder.unsigned 64 "usize" value
    pure { schedule with signatureLimit }
  | _ => pure schedule

def decode : Decoder Schedule :=
  Decoder.record "PollConfig" keys set standard

def toJson (schedule : Schedule) : Json := .object [
  ("grace_delay_ms", .ofNat schedule.graceDelay),
  ("interval_ms", .ofNat schedule.interval),
  ("max_attempts", .ofNat schedule.maxAttempts),
  ("signature_limit", .ofNat schedule.signatureLimit)]

/-- The time between looks that is kept: a millisecond at least. -/
def period (schedule : Schedule) : Nat := max schedule.interval 1

/-- The looks that are granted: one at least. -/
def budget (schedule : Schedule) : Nat := max schedule.maxAttempts 1

def perMillisecond : Nat := 10 ^ 6

/-- The longest duration in nanoseconds: 64 bits of seconds, and all but the last nanosecond of one. -/
def longestDuration : Nat := 2 ^ 64 * 10 ^ 9 - 1

def scanDuration (schedule : Schedule) : Nat :=
  min longestDuration (schedule.interval * perMillisecond * schedule.maxAttempts)

/-- How long polling can last, in nanoseconds. The delay is added without a cut. -/
def maxDuration (schedule : Schedule) : Except DurationOverflow Nat :=
  let total := schedule.graceDelay * perMillisecond + schedule.scanDuration
  if total ≤ longestDuration then .ok total else .error .adding

end Schedule
end PayBridge
