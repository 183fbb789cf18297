import PayBridge.Proofs.Watch.Settings
import PayBridge.Watch.Command

/-! When a command goes on to watch. It reads its settings, makes the request, and finds where that will be paid; after
this only the longest time of polling can still end it. That happens just where the time is logged and too long to be
told. -/
namespace PayBridge.Watch

open PayBridge.Json.Decoder
open PayBridge.Solana (LedgerWatch)

section Steps

variable {α β ε ε' : Type} {given : Except ε α}

theorem mapError_eq_ok {f : ε → ε'} {x : α} : given.mapError f = .ok x ↔ given = .ok x := by
  cases given <;> simp [Except.mapError]

theorem mapError_ne_error {f : ε → ε'} {cause : ε'} (other : ∀ inner, f inner ≠ cause) :
    given.mapError f ≠ .error cause := by
  intro fails
  cases given with
  | ok x => cases fails
  | error inner => exact other inner (Except.error.inj fails)

theorem bind_of_ok {x : α} (gives : given = .ok x) (next : α → Except ε β) : given >>= next = next x := by
  rw [gives]
  rfl

theorem bind_eq_error {next : α → Except ε β} {cause : ε} :
    given >>= next = .error cause ↔ given = .error cause ∨ ∃ x, given = .ok x ∧ next x = .error cause := by
  cases given <;> simp [bind, Except.bind]

end Steps

namespace Invocation

variable {invocation : Invocation} {plan : Plan}

theorem settings_fitsWords {config : Settings} {amount : Decimal} (tells : invocation.settings = .ok (config, amount)) :
    config.schedule.FitsWords := by
  obtain ⟨arguments, reads, tells⟩ := bind_eq_ok.mp tells
  obtain ⟨loaded, loads, tells⟩ := bind_eq_ok.mp tells
  obtain ⟨_, _, tells⟩ := bind_eq_ok.mp tells
  cases tells
  have fits := Settings.load_fitsWords (mapError_eq_ok.mp loads)
  exact Settings.withArguments_fitsWords fits (Arguments.read_maxAttempts_lt (mapError_eq_ok.mp reads))

inductive Prepares (invocation : Invocation) : Plan → Prop where
  | intro {config : Settings} {amount : Decimal} {payee : String} {request : PaymentRequest} {watch : LedgerWatch}
      (settings : invocation.settings = .ok (config, amount)) (pays : config.payee = .ok payee)
      (makes : config.merchant.build 0 invocation.random payee amount config.currency = .ok request)
      (places : LedgerWatch.ofRequest request config.cluster = .ok watch) :
      Prepares invocation ⟨config, request, watch⟩

theorem Prepares.fitsWords (prepares : invocation.Prepares plan) : plan.config.schedule.FitsWords := by
  cases prepares with
  | intro settings => exact settings_fitsWords settings

/-- A command that is prepared goes on to watch, unless it logs a time that cannot be told. -/
theorem Prepares.plan_eq (prepares : invocation.Prepares plan) : invocation.plan =
    if invocation.verbosity.shows .info = true ∧ ¬ plan.config.schedule.HasDuration then .error (.duration .adding)
    else .ok plan := by
  cases prepares with
  | @intro config _ _ _ _ settings pays makes places =>
    rw [Invocation.plan, bind_of_ok settings]
    dsimp only
    rw [bind_of_ok (mapError_eq_ok.mpr pays), bind_of_ok (mapError_eq_ok.mpr makes),
      bind_of_ok (mapError_eq_ok.mpr places)]
    by_cases logs : invocation.verbosity.shows .info = true
    · rw [if_pos logs]
      by_cases has : config.schedule.HasDuration
      · rw [if_neg fun ⟨_, long⟩ => long has]
        exact bind_of_ok (mapError_eq_ok.mpr (Schedule.maxDuration_eq_ok_iff.mpr ⟨has, rfl⟩)) _
      · rw [if_pos ⟨logs, has⟩, Schedule.maxDuration_eq_error_iff.mpr has]
        rfl
    · rw [if_neg logs, if_neg fun ⟨logged, _⟩ => logs logged]
      rfl

theorem settings_ne_duration (invocation : Invocation) (overflow : DurationOverflow) :
    invocation.settings ≠ .error (.duration overflow) := by
  intro fails
  rcases bind_eq_error.mp fails with fails | ⟨arguments, _, fails⟩
  · exact absurd fails (mapError_ne_error nofun)
  rcases bind_eq_error.mp fails with fails | ⟨config, _, fails⟩
  · exact absurd fails (mapError_ne_error nofun)
  rcases bind_eq_error.mp fails with fails | ⟨amount, _, fails⟩
  · exact absurd fails (mapError_ne_error nofun)
  · cases fails

theorem prepares_of_ok (plans : invocation.plan = .ok plan) : ∃ prepared, invocation.Prepares prepared := by
  obtain ⟨⟨config, amount⟩, settings, plans⟩ := bind_eq_ok.mp plans
  obtain ⟨payee, pays, plans⟩ := bind_eq_ok.mp plans
  obtain ⟨request, makes, plans⟩ := bind_eq_ok.mp plans
  obtain ⟨watch, places, -⟩ := bind_eq_ok.mp plans
  exact ⟨_, .intro settings (mapError_eq_ok.mp pays) (mapError_eq_ok.mp makes) (mapError_eq_ok.mp places)⟩

/-- No step but the last one fails for a time that is too long. -/
theorem prepares_of_duration {overflow : DurationOverflow}
    (aborts : invocation.plan = .error (.duration overflow)) : ∃ prepared, invocation.Prepares prepared := by
  rcases bind_eq_error.mp aborts with fails | ⟨⟨config, amount⟩, settings, aborts⟩
  · exact absurd fails (invocation.settings_ne_duration overflow)
  rcases bind_eq_error.mp aborts with fails | ⟨payee, pays, aborts⟩
  · exact absurd fails (mapError_ne_error nofun)
  rcases bind_eq_error.mp aborts with fails | ⟨request, makes, aborts⟩
  · exact absurd fails (mapError_ne_error nofun)
  rcases bind_eq_error.mp aborts with fails | ⟨watch, places, -⟩
  · exact absurd fails (mapError_ne_error nofun)
  exact ⟨_, .intro settings (mapError_eq_ok.mp pays) (mapError_eq_ok.mp makes) (mapError_eq_ok.mp places)⟩

theorem plan_eq_ok_iff : invocation.plan = .ok plan ↔
    invocation.Prepares plan ∧ (invocation.verbosity.shows .info = true → plan.config.schedule.HasDuration) := by
  constructor
  · intro plans
    obtain ⟨prepared, prepares⟩ := prepares_of_ok plans
    rw [prepares.plan_eq] at plans
    split at plans
    case isTrue => cases plans
    case isFalse tells =>
      cases plans
      exact ⟨prepares, fun logs => not_not.mp fun long => tells ⟨logs, long⟩⟩
  · rintro ⟨prepares, tells⟩
    rw [prepares.plan_eq, if_neg fun ⟨logs, long⟩ => long (tells logs)]

theorem plan_eq_duration_iff : (∃ overflow, invocation.plan = .error (.duration overflow)) ↔
    ∃ plan, invocation.Prepares plan ∧ invocation.verbosity.shows .info = true ∧
      ¬ plan.config.schedule.HasDuration := by
  constructor
  · rintro ⟨overflow, aborts⟩
    obtain ⟨prepared, prepares⟩ := prepares_of_duration aborts
    rw [prepares.plan_eq] at aborts
    split at aborts
    case isTrue long => exact ⟨prepared, prepares, long⟩
    case isFalse => cases aborts
  · rintro ⟨prepared, prepares, long⟩
    exact ⟨.adding, by rw [prepares.plan_eq, if_pos long]⟩

/-- Settings that are read have a longest time that can be told just if there is no delay, or delay and looks take less
than `2 ^ 64` seconds, and so if they grant fewer than a thousand looks; what is told is all that time, cut at the
longest duration. A command that is prepared has settings that can be read. It goes on to watch, unless it logs the
longest time and that cannot be told: then the command ends before it polls, and no other command ends for this. -/
theorem commands_end_for_times_too_long_to_tell {value : Json} {schedule : Schedule}
    (accepted : Schedule.decode value = .ok schedule) (invocation : Invocation) :
    ((∃ total, schedule.maxDuration = .ok total) ↔ schedule.HasDuration) ∧
    (∀ total, schedule.maxDuration = .ok total → total = min Schedule.longestDuration
      ((schedule.graceDelay + schedule.interval * schedule.maxAttempts) * Schedule.perMillisecond)) ∧
    (schedule.maxAttempts < 1000 → schedule.HasDuration) ∧
    (∀ plan, invocation.Prepares plan → ∃ value, Schedule.decode value = .ok plan.config.schedule) ∧
    (∀ plan, invocation.plan = .ok plan ↔
      invocation.Prepares plan ∧ (invocation.verbosity.shows .info = true → plan.config.schedule.HasDuration)) ∧
    ((∃ overflow, invocation.plan = .error (.duration overflow)) ↔
      ∃ plan, invocation.Prepares plan ∧ invocation.verbosity.shows .info = true ∧
        ¬ plan.config.schedule.HasDuration) := by
  refine ⟨?_, ?_, fun few => (Schedule.decode_fitsWords accepted).hasDuration few, ?_, fun plan => plan_eq_ok_iff,
    plan_eq_duration_iff⟩
  · constructor
    · rintro ⟨total, told⟩
      exact (Schedule.maxDuration_eq_ok_iff.mp told).1
    · intro has
      exact ⟨_, Schedule.maxDuration_eq_ok_iff.mpr ⟨has, rfl⟩⟩
  · intro total told
    exact (Schedule.maxDuration_eq_ok_iff.mp told).2.symm
  · intro plan prepares
    exact Schedule.accepted_iff.mpr prepares.fitsWords

def patient : Invocation where
  arguments := ["1", "--currency", "SOL", "--recipient", "9WzDXwBbmkg8ZTbNMqUxvQRAyrZzDsGYdLVL9zYtAWWM"]
  environment := []
  file _ := .content (Text.utf8 "poll = [1, 9223372036854775807, 4294967295]".toList)
  random := 0

theorem patient_plan : patient.plan = .error (.duration .adding) := by decide +kernel

/-- The longest delay and interval with the most looks that always fit, beside the patient command, whose settings can
be read as well. -/
theorem longest_times_of_few_looks_are_told :
    (∃ schedule, Schedule.decode (.array [.ofNat (2 ^ 64 - 1), .ofNat (2 ^ 64 - 1), .ofNat 999]) = .ok schedule ∧
      schedule.maxDuration = .ok ((2 ^ 64 - 1) * 10 ^ 9)) ∧
    ∃ plan, patient.Prepares plan ∧ (∃ value, Schedule.decode value = .ok plan.config.schedule) ∧
      ¬ plan.config.schedule.HasDuration := by
  have accepted : Schedule.decode (.array [.ofNat (2 ^ 64 - 1), .ofNat (2 ^ 64 - 1), .ofNat 999]) =
      .ok ⟨2 ^ 64 - 1, 2 ^ 64 - 1, 999, 10⟩ := by decide +kernel
  obtain ⟨tells, exact, few, accepts, -, ends⟩ := commands_end_for_times_too_long_to_tell accepted patient
  constructor
  · obtain ⟨total, told⟩ := tells.mpr (few (by decide))
    refine ⟨_, accepted, ?_⟩
    rw [told, exact total told]
    rfl
  · obtain ⟨plan, prepares, -, long⟩ := ends.mp ⟨.adding, patient_plan⟩
    exact ⟨plan, prepares, accepts plan prepares, long⟩

/-- Longest intervals and most looks are cut to the longest duration, and a delay of a millisecond is added to that.
The patient command ends before it polls. -/
theorem delays_are_added_to_the_longest_duration :
    let value := Json.object [("grace_delay_ms", .ofNat 1), ("interval_ms", .ofNat (2 ^ 64 - 1)),
      ("max_attempts", .ofNat (2 ^ 32 - 1))]
    (∃ schedule, Schedule.decode value = .ok schedule ∧ schedule.maxDuration = .error .adding) ∧
      patient.plan = .error (.duration .adding) := by
  intro value
  have accepted : Schedule.decode value = .ok ⟨1, 2 ^ 64 - 1, 2 ^ 32 - 1, 10⟩ := by decide +kernel
  exact ⟨⟨_, accepted, Schedule.maxDuration_eq_error_iff.mpr (by decide)⟩, patient_plan⟩

end Invocation
end PayBridge.Watch
