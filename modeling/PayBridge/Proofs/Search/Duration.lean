import PayBridge.Proofs.Json.Fields
import PayBridge.Search.Schedule

/-! Which settings of polling have a longest time that can be told. Settings are read if their numbers fit into words
of 64 and 32 bits. The looks together are cut at the longest duration, while the delay is added without a cut: so the
time can be told without a delay, or if delay and looks take less than `2 ^ 64` seconds. -/
namespace PayBridge

open PayBridge.Json PayBridge.Json.Decoder

theorem Json.Decoder.unsigned_eq_ok {bits n : Nat} {name : String} {value : Json} :
    unsigned bits name value = .ok n ↔ value = .ofNat n ∧ n < 2 ^ bits := by
  unfold unsigned
  split
  case h_1 m =>
    have cast : (2 : Int) ^ bits = ((2 ^ bits : Nat) : Int) := by simp
    rw [cast]
    generalize 2 ^ bits = bound
    split
    case isTrue within =>
      simp only [Except.ok.injEq, ofNat, number.injEq, Number.int.injEq]
      omega
    case isFalse beyond =>
      simp only [ofNat, number.injEq, Number.int.injEq, reduceCtorEq, false_iff]
      omega
  case h_2 other =>
    constructor
    · nofun
    · rintro ⟨rfl, -⟩
      exact absurd rfl (other n)

namespace Schedule
variable {schedule next : Schedule} {key : String} {value : Json}

structure FitsWords (schedule : Schedule) : Prop where
  graceDelay : schedule.graceDelay < 2 ^ 64
  interval : schedule.interval < 2 ^ 64
  maxAttempts : schedule.maxAttempts < 2 ^ 32
  signatureLimit : schedule.signatureLimit < 2 ^ 64

theorem standard_fitsWords : standard.FitsWords := by
  constructor <;> decide

theorem set_fitsWords (fits : schedule.FitsWords) (sets : schedule.set key value = .ok next) : next.FitsWords := by
  obtain ⟨grace, interval, attempts, limit⟩ := fits
  unfold set at sets
  split at sets
  case h_5 =>
    cases sets
    exact ⟨grace, interval, attempts, limit⟩
  all_goals
    obtain ⟨n, read, same⟩ := bind_eq_ok.mp sets
    cases same
    have below := (unsigned_eq_ok.mp read).2
  case h_1 => exact ⟨below, interval, attempts, limit⟩
  case h_2 => exact ⟨grace, below, attempts, limit⟩
  case h_3 => exact ⟨grace, interval, below, limit⟩
  case h_4 => exact ⟨grace, interval, attempts, below⟩

theorem decode_fitsWords (accepted : decode value = .ok schedule) : schedule.FitsWords :=
  record_keeps (fun _ _ _ _ fits sets => set_fitsWords fits sets) standard_fitsWords accepted

theorem FitsWords.decode_toJson (fits : schedule.FitsWords) : decode schedule.toJson = .ok schedule := by
  have reads {bits n : Nat} (name : String) (below : n < 2 ^ bits) : unsigned bits name (.ofNat n) = .ok n :=
    unsigned_eq_ok.mpr ⟨rfl, below⟩
  have grace (r : Schedule) : set r "grace_delay_ms" (.ofNat schedule.graceDelay) =
      .ok { r with graceDelay := schedule.graceDelay } := bind_eq_ok.mpr ⟨_, reads _ fits.graceDelay, rfl⟩
  have interval (r : Schedule) : set r "interval_ms" (.ofNat schedule.interval) =
      .ok { r with interval := schedule.interval } := bind_eq_ok.mpr ⟨_, reads _ fits.interval, rfl⟩
  have attempts (r : Schedule) : set r "max_attempts" (.ofNat schedule.maxAttempts) =
      .ok { r with maxAttempts := schedule.maxAttempts } := bind_eq_ok.mpr ⟨_, reads _ fits.maxAttempts, rfl⟩
  have limit (r : Schedule) : set r "signature_limit" (.ofNat schedule.signatureLimit) =
      .ok { r with signatureLimit := schedule.signatureLimit } :=
    bind_eq_ok.mpr ⟨_, reads _ fits.signatureLimit, rfl⟩
  simp only [decode, record, toJson, List.foldlM_cons, List.foldlM_nil, grace, interval, attempts, limit]
  rfl

/-- Settings can be written so that they are read just if they keep to their words. -/
theorem accepted_iff : (∃ value, decode value = .ok schedule) ↔ schedule.FitsWords := by
  constructor
  · rintro ⟨_, accepted⟩
    exact decode_fitsWords accepted
  · intro fits
    exact ⟨_, fits.decode_toJson⟩

/-- The longest time is short enough to be told: there is no delay, or delay and looks take less than `2 ^ 64`
seconds. -/
def HasDuration (schedule : Schedule) : Prop :=
  schedule.graceDelay = 0 ∨ schedule.graceDelay + schedule.interval * schedule.maxAttempts < 2 ^ 64 * 1000

instance : DecidablePred HasDuration := fun _ => inferInstanceAs (Decidable (_ ∨ _))

theorem scanDuration_eq (schedule : Schedule) : schedule.scanDuration =
    min (2 ^ 64 * 10 ^ 9 - 1) (schedule.interval * schedule.maxAttempts * 10 ^ 6) := by
  rw [scanDuration, Nat.mul_right_comm]
  rfl

theorem total_le_iff : schedule.graceDelay * perMillisecond + schedule.scanDuration ≤ longestDuration ↔
    schedule.HasDuration := by
  rw [scanDuration_eq, HasDuration]
  generalize schedule.interval * schedule.maxAttempts = looks
  unfold perMillisecond longestDuration
  omega

/-- What is told is all the time that delay and looks take, cut at the longest duration. -/
theorem maxDuration_eq (schedule : Schedule) : schedule.maxDuration =
    if schedule.HasDuration then
      .ok (min longestDuration ((schedule.graceDelay + schedule.interval * schedule.maxAttempts) * perMillisecond))
    else .error .adding := by
  simp only [maxDuration, total_le_iff]
  split
  case isTrue has =>
    have total : schedule.graceDelay * perMillisecond + schedule.scanDuration =
        min longestDuration ((schedule.graceDelay + schedule.interval * schedule.maxAttempts) * perMillisecond) := by
      rw [scanDuration_eq]
      unfold HasDuration at has
      generalize schedule.interval * schedule.maxAttempts = looks at has ⊢
      unfold perMillisecond longestDuration
      omega
    rw [total]
  case isFalse => rfl

theorem maxDuration_eq_error_iff : schedule.maxDuration = .error .adding ↔ ¬ schedule.HasDuration := by
  rw [maxDuration_eq]
  split
  case isTrue has => exact ⟨nofun, fun long => absurd has long⟩
  case isFalse long => exact ⟨fun _ => long, fun _ => rfl⟩

theorem maxDuration_eq_ok_iff {total : Nat} : schedule.maxDuration = .ok total ↔
    schedule.HasDuration ∧ min longestDuration
      ((schedule.graceDelay + schedule.interval * schedule.maxAttempts) * perMillisecond) = total := by
  rw [maxDuration_eq]
  split
  case isTrue has => exact ⟨fun told => ⟨has, Except.ok.inj told⟩, fun ⟨_, told⟩ => congrArg Except.ok told⟩
  case isFalse long => exact ⟨nofun, fun ⟨has, _⟩ => absurd has long⟩

/-- Fewer than a thousand looks leave room for every delay and interval. -/
theorem FitsWords.hasDuration (fits : schedule.FitsWords) (few : schedule.maxAttempts < 1000) :
    schedule.HasDuration := by
  right
  have looks : schedule.interval * schedule.maxAttempts ≤ (2 ^ 64 - 1) * 999 :=
    Nat.mul_le_mul (Nat.le_sub_one_of_lt fits.interval) (Nat.le_of_lt_succ few)
  have delay := fits.graceDelay
  omega

end Schedule
end PayBridge
