import PayBridge.Proofs.Search.Duration
import PayBridge.Watch.Settings

/-! The settings of polling that a command is told, by a file and by arguments, keep to their words. Every number is
checked where it is read, so each entry of a file and each argument keeps what those before it have kept. -/
namespace PayBridge.Watch

open PayBridge.Json.Decoder

/-- What every entry keeps that is taken, settings keep that are taken from all entries. -/
theorem foldlM_takes {α β : Type} {P : α → Prop} {step : α → β → Option α} {items : List β} {r r' : α}
    (steps : ∀ r item r', P r → step r item = some r' → P r') (initial : P r) (folds : items.foldlM step r = some r') :
    P r' := by
  induction items generalizing r with
  | nil =>
    cases folds
    exact initial
  | cons item rest ih =>
    obtain ⟨next, first, later⟩ := Option.bind_eq_some_iff.mp folds
    exact ih (steps _ _ _ initial first) later

namespace Settings

variable {config next : Settings} {schedule : Schedule} {key : String} {value : Toml}

theorem setPoll?_fitsWords {before after : Schedule} (fits : before.FitsWords)
    (sets : setPoll? before key value = some after) : after.FitsWords := by
  unfold setPoll? at sets
  cases taken : before.set key (countJson value) with
  | error cause =>
    rw [taken] at sets
    cases sets
  | ok next =>
    rw [taken] at sets
    cases sets
    exact Schedule.set_fitsWords fits taken

theorem poll?_fitsWords (reads : poll? value = some schedule) : schedule.FitsWords := by
  have steps (r : Schedule) (entry : String × Toml) (r' : Schedule) (fits : r.FitsWords)
      (sets : setPoll? r entry.1 entry.2 = some r') : r'.FitsWords := setPoll?_fitsWords fits sets
  cases value with
  | table entries => exact foldlM_takes steps Schedule.standard_fitsWords reads
  | array items => exact foldlM_takes steps Schedule.standard_fitsWords reads
  | moment text =>
    cases reads
    exact Schedule.standard_fitsWords
  | _ => cases reads

theorem set?_fitsWords (fits : config.schedule.FitsWords) (sets : set? config key value = some next) :
    next.schedule.FitsWords := by
  unfold set? at sets
  split at sets
  case h_8 =>
    obtain ⟨schedule, reads, rfl⟩ := Option.map_eq_some_iff.mp sets
    exact poll?_fitsWords reads
  case h_9 =>
    cases sets
    exact fits
  all_goals
    obtain ⟨_, _, rfl⟩ := Option.map_eq_some_iff.mp sets
    exact fits

theorem decode?_fitsWords (reads : decode? value = some config) : config.schedule.FitsWords := by
  cases value with
  | table entries =>
    have steps (r : Settings) (entry : String × Toml) (r' : Settings) (fits : r.schedule.FitsWords)
        (sets : set? r entry.1 entry.2 = some r') : r'.schedule.FitsWords := set?_fitsWords fits sets
    exact foldlM_takes (P := fun config : Settings => config.schedule.FitsWords) steps Schedule.standard_fitsWords reads
  | _ => cases reads

theorem parse_fitsWords {text : String} (parses : parse text = .ok config) : config.schedule.FitsWords := by
  unfold parse at parses
  split at parses
  case h_1 read =>
    cases parses
    obtain ⟨_, _, decoded⟩ := Option.bind_eq_some_iff.mp read
    exact decode?_fitsWords decoded
  case h_2 => cases parses

theorem load_fitsWords {lookup : Lookup} {path : String} {file : FileState}
    (loads : load lookup path file = .ok config) : config.schedule.FitsWords := by
  obtain ⟨text, _, loads⟩ := bind_eq_ok.mp loads
  cases text with
  | none =>
    cases loads
    exact Schedule.standard_fitsWords
  | some text => exact parse_fitsWords loads

theorem withArguments_fitsWords {arguments : Arguments} (fits : config.schedule.FitsWords)
    (counted : ∀ n ∈ arguments.maxAttempts, n < 2 ^ 32) : (config.withArguments arguments).schedule.FitsWords := by
  refine ⟨fits.graceDelay, fits.interval, ?_, fits.signatureLimit⟩
  change arguments.maxAttempts.getD config.schedule.maxAttempts < 2 ^ 32
  cases asked : arguments.maxAttempts with
  | none => exact fits.maxAttempts
  | some n => exact counted n asked

end Settings

namespace Draft

def IsCounted (draft : Draft) : Prop := ∀ n ∈ draft.maxAttempts, n < 2 ^ 32

variable {draft next : Draft}

theorem count?_lt {text : String} {n : Nat} (counts : count? text = some n) : n < 2 ^ 32 := by
  have kept {given : Option Nat} (counts : (given.bind fun m => if m < 2 ^ 32 then some m else none) = some n) :
      n < 2 ^ 32 := by
    obtain ⟨m, _, below⟩ := Option.bind_eq_some_iff.mp counts
    split at below
    case isTrue within => exact Option.some.inj below ▸ within
    case isFalse => cases below
  unfold count? at counts
  split at counts <;> exact kept counts

theorem assign_isCounted {flag : Flag} {value : String} (counted : draft.IsCounted)
    (assigns : draft.assign flag value = .ok next) : next.IsCounted := by
  unfold assign at assigns
  split at assigns
  case isTrue => cases assigns
  case isFalse =>
    cases flag with
    | recipient | currency | rpcUrl | label =>
      cases assigns
      exact counted
    | config =>
      dsimp only at assigns
      split at assigns
      · cases assigns
      · cases assigns
        exact counted
    | cluster =>
      dsimp only at assigns
      split at assigns
      · cases assigns
        exact counted
      · cases assigns
    | maxAttempts =>
      dsimp only at assigns
      split at assigns
      case h_1 n counts =>
        cases assigns
        rintro _ ⟨⟩
        exact count?_lt counts
      case h_2 => cases assigns

theorem fill_isCounted {environment : Environment} (counted : draft.IsCounted)
    (fills : draft.fill environment = .ok next) : next.IsCounted := by
  refine foldlM_keeps (fun draft flag next counted fills => ?_) counted fills
  split at fills
  · cases fills
    exact counted
  · split at fills
    · exact assign_isCounted counted fills
    · cases fills
      exact counted

end Draft

namespace ArgumentState

variable {state next : ArgumentState} {text : String}

theorem settle_isCounted (counted : state.draft.IsCounted) (settles : state.settle = .ok next) :
    next.draft.IsCounted := by
  unfold settle at settles
  split at settles
  case h_1 =>
    cases settles
    exact counted
  case h_2 => cases settles
  case h_3 =>
    obtain ⟨draft, assigns, rfl⟩ := map_eq_ok.mp settles
    exact Draft.assign_isCounted counted assigns

theorem takeAmount_isCounted (counted : state.draft.IsCounted) (takes : state.takeAmount text = .ok next) :
    next.draft.IsCounted := by
  unfold takeAmount at takes
  split at takes
  case isTrue => cases takes
  case isFalse =>
    obtain ⟨settled, settles, rfl⟩ := map_eq_ok.mp takes
    have kept : settled.draft.IsCounted := settle_isCounted counted settles
    exact kept

theorem take_isCounted (counted : state.draft.IsCounted) (takes : state.take text = .ok next) :
    next.draft.IsCounted := by
  unfold take at takes
  split at takes
  case isTrue => exact takeAmount_isCounted counted takes
  case isFalse =>
    -- one case for each shape of an argument, and two for a flag: its value is still to come, or attached
    split at takes
    case h_1 =>
      cases takes
      exact counted
    case h_2 =>
      obtain ⟨settled, settles, rfl⟩ := map_eq_ok.mp takes
      have kept : settled.draft.IsCounted := settle_isCounted counted settles
      exact kept
    case h_3 =>
      obtain ⟨settled, settles, takes⟩ := bind_eq_ok.mp takes
      obtain ⟨draft, assigns, takes⟩ := bind_eq_ok.mp takes
      cases takes
      exact Draft.assign_isCounted (settle_isCounted counted settles) assigns
    case h_4 =>
      obtain ⟨_, _, takes⟩ := bind_eq_ok.mp takes
      cases takes
    case h_5 => cases takes
    case h_6 => cases takes
    case h_7 =>
      unfold takeValue at takes
      split at takes
      · cases takes
        exact counted
      · exact takeAmount_isCounted counted takes

end ArgumentState

theorem Arguments.read_maxAttempts_lt {environment : Environment} {texts : List String} {arguments : Arguments}
    (reads : Arguments.read environment texts = .ok arguments) : ∀ n ∈ arguments.maxAttempts, n < 2 ^ 32 := by
  obtain ⟨state, takes, reads⟩ := bind_eq_ok.mp reads
  obtain ⟨settled, settles, reads⟩ := bind_eq_ok.mp reads
  obtain ⟨draft, fills, finishes⟩ := bind_eq_ok.mp reads
  have taken : state.draft.IsCounted :=
    foldlM_keeps (P := fun state => state.draft.IsCounted) (fun _ _ _ counted takes =>
      ArgumentState.take_isCounted counted takes) nofun takes
  have filled := Draft.fill_isCounted (ArgumentState.settle_isCounted taken settles) fills
  unfold Draft.finish at finishes
  split at finishes
  · cases finishes
  · cases finishes
    exact filled

end PayBridge.Watch
