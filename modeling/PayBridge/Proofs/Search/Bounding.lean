import PayBridge.Proofs.Search.Pacing

/-! How long polling lasts when every fetch is answered at once. All its looks are on the beat, so that the last one
comes after the delay and as many periods as there are looks. The bound that is told to callers is computed from the
settings as they are written, while a loop makes a period and a look of nothing. It is a bound for just those settings
that leave nothing to make up. -/
namespace PayBridge

def Source.IsPrompt (source : Source) : Prop := ∀ asked, ∃ page, source asked = ⟨0, .page page⟩

def Source.barren : Source := fun _ => ⟨0, .page (.entries [])⟩

theorem Source.barren_isPrompt : Source.barren.IsPrompt := fun _ => ⟨_, rfl⟩

theorem Source.IsPrompt.delay {source : Source} (prompt : source.IsPrompt) (asked : Nat) :
    (source asked).delay = 0 := by
  obtain ⟨page, replies⟩ := prompt asked
  rw [replies]

/-- A page without entries ends a search only at the last look. -/
theorem Search.IsPending.observe_barren {search : Search} (pending : search.IsPending)
    (last : (search.observe (.entries [])).2.isTerminal = true) : search.attempt + 1 = search.budget := by
  have left := pending.left
  by_contra early
  have more : ¬ search.budget ≤ search.attempt + 1 := by omega
  have status : (search.observe (.entries [])).2.isTerminal = false := by
    simp only [Search.observe, pending.undecided, judge, match?, List.find?_nil, more, ↓reduceIte]
    rfl
  exact absurd (status.symm.trans last) (by decide)

namespace Poller
variable {begun poller : Poller} {schedule : Schedule} {source : Source} {shown : List PollEffect} {memo : Memo}
  {bound now : Nat} {time : Nat} {finding : Finding}

/-- However time passes, the loop has told its last finding once as many nanoseconds are over, and not later. -/
def EndsWithin (poller : Poller) (schedule : Schedule) (memo : Memo) (source : Source) (bound : Nat) : Prop :=
  ∀ durations : List Nat, bound ≤ durations.sum * Schedule.perMillisecond →
    ∃ time finding, .reported time finding ∈ (pass source durations (poller.start memo schedule)).2 ∧
      finding.isTerminal = true ∧
      time * Schedule.perMillisecond ≤ poller.now * Schedule.perMillisecond + bound

/-- If answers come at once, whatever is told is told on the beat of a look that is granted. -/
theorem Keeps.reported_onBeat (keeps : begun.Keeps schedule source poller shown) (prompt : source.IsPrompt)
    (tells : .reported time finding ∈ shown) : ∃ (search : Search) (page : Page) (asked : Nat),
      time = begun.beat schedule search.attempt ∧ search.IsPending ∧ search.budget = schedule.budget ∧
      (source asked).answer = .page page ∧ finding = (search.observe page).2 := by
  obtain ⟨before, later, rfl⟩ := List.append_of_mem tells
  cases keeps.follows before _ later rfl with
  | @reported earlier tick search page begins answers pending counted budget =>
    have parts : before ++ .reported (begun.answerTime source earlier tick) (search.observe page).2 :: later =
        earlier ++ .fetched tick schedule.signatureLimit ::
          .reported (begun.answerTime source earlier tick) (search.observe page).2 :: later := by
      rw [begins, List.append_assoc]
      rfl
    obtain ⟨turn⟩ := keeps.follows earlier _ _ parts
    have onBeat := turn.onBeat fun k _ => Nat.le_trans (Nat.le_of_eq (prompt.delay _)) (Nat.zero_le _)
    refine ⟨search, page, _, ?_, pending, budget, answers, rfl⟩
    rw [answerTime, prompt.delay, onBeat, counted]
    rfl

/-- If answers come at once, what a loop waits for comes with the beat of its next look at the latest. -/
theorem Runs.prompt_due_le {loop : PollLoop} (runs : begun.Runs schedule source shown loop)
    (prompt : source.IsPrompt) : loop.stage.due ≤ begun.beat schedule loop.search.attempt := by
  have quick (k : Nat) : (source (begun.asked + k)).delay ≤ schedule.period :=
    Nat.le_trans (Nat.le_of_eq (prompt.delay _)) (Nat.zero_le _)
  have stands := runs.stands
  have counted := runs.counted
  generalize loop.stage = stage at stands counted
  cases stands with
  | grace => exact Nat.le_add_right _ _
  | waiting turn =>
    rw [← show PollEffect.looks shown = loop.search.attempt from counted]
    exact Nat.le_of_eq (turn.onBeat fun k _ => quick k)
  | @fetching before tick turn begins =>
    rw [begins, looks_fetched] at counted
    rw [← show PollEffect.looks before = loop.search.attempt from Nat.succ.inj counted, Stage.due, answerTime,
      prompt.delay]
    exact Nat.le_of_eq (turn.onBeat fun k _ => quick k)

theorem lastBeat_eq (begun : Poller) (schedule : Schedule) {k : Nat} (last : k + 1 = schedule.budget) :
    begun.beat schedule k = begun.now + (schedule.graceDelay + schedule.budget * schedule.period) := by
  rw [beat, last, Nat.add_assoc]

/-- If answers come at once, the loop ends with the beat of the last look that is granted, or before. -/
theorem prompt_endsWithin (prompt : source.IsPrompt)
    (enough : (schedule.graceDelay + schedule.budget * schedule.period) * Schedule.perMillisecond ≤ bound) :
    poller.EndsWithin schedule memo source bound := by
  intro durations passed
  have begins := poller.start_keeps memo schedule source
  have keeps := begins.pass durations
  have granted : 0 < schedule.budget := Nat.lt_of_lt_of_le Nat.zero_lt_one (Nat.le_max_right _ _)
  have lasts : 0 < schedule.budget * schedule.period :=
    Nat.mul_pos granted (Nat.lt_of_lt_of_le Nat.zero_lt_one (Nat.le_max_right _ _))
  have elapsed : schedule.graceDelay + schedule.budget * schedule.period ≤ durations.sum :=
    Nat.le_of_mul_le_mul_right (Nat.le_trans enough passed) (by decide)
  have passes : durations ≠ [] := by
    rintro rfl
    rw [List.sum_nil] at elapsed
    omega
  have within {k : Nat} (left : k < schedule.budget) :
      poller.beat schedule k ≤ poller.now + (schedule.graceDelay + schedule.budget * schedule.period) := by
    rw [← poller.lastBeat_eq schedule (Nat.sub_add_cancel granted)]
    exact poller.beat_mono schedule (Nat.le_sub_one_of_lt left)
  have stopped : (pass source durations (poller.start memo schedule)).1.loop = none := by
    by_contra running
    obtain ⟨loop, goesOn⟩ := Option.ne_none_iff_exists'.mp running
    have runs := keeps.runs loop goesOn
    have due := begins.pass_due passes loop goesOn
    have left := runs.pending.left
    rw [runs.budget] at left
    have early := Nat.le_trans (runs.prompt_due_le prompt) (within left)
    change poller.now + durations.sum < loop.stage.due at due
    omega
  obtain ⟨before, last, parts, ends⟩ := keeps.ends stopped
  rw [List.nil_append] at parts keeps
  have shows : last ∈ (pass source durations (poller.start memo schedule)).2 := by simp [parts]
  rcases ends with isLast | ⟨time, rfl⟩
  · cases last with
    | reported time finding =>
      obtain ⟨search, _, _, rfl, pending, budget, _⟩ := keeps.reported_onBeat prompt shows
      refine ⟨_, finding, shows, isLast, ?_⟩
      calc poller.beat schedule search.attempt * Schedule.perMillisecond
        _ ≤ (poller.now + (schedule.graceDelay + schedule.budget * schedule.period)) * Schedule.perMillisecond :=
          Nat.mul_le_mul_right _ (within (budget ▸ pending.left))
        _ ≤ poller.now * Schedule.perMillisecond + bound := by
          rw [Nat.add_mul]
          exact Nat.add_le_add_left enough _
    | fetched | died => cases isLast
  · -- a source that answers never ends a loop
    cases keeps.follows before _ [] parts with
    | @died earlier tick begins answers =>
      obtain ⟨page, replies⟩ := prompt (poller.asked + PollEffect.looks earlier)
      rw [replies] at answers
      cases answers

theorem barren_endsWithin (ends : poller.EndsWithin schedule memo .barren bound) :
    (schedule.graceDelay + schedule.budget * schedule.period) * Schedule.perMillisecond ≤ bound := by
  have passes : bound ≤ [bound].sum * Schedule.perMillisecond := by
    rw [List.sum_singleton]
    exact Nat.le_mul_of_pos_right bound (by decide)
  obtain ⟨time, finding, tells, last, within⟩ := ends [bound] passes
  have keeps := (poller.start_keeps memo schedule .barren).pass [bound]
  obtain ⟨search, page, _, onBeat, pending, budget, answers, rfl⟩ :=
    keeps.reported_onBeat Source.barren_isPrompt tells
  obtain rfl : .entries [] = page := Answer.page.inj answers
  rw [onBeat, poller.lastBeat_eq schedule ((pending.observe_barren last).trans budget), Nat.add_mul] at within
  exact Nat.le_of_add_le_add_left within

end Poller

namespace Schedule
variable {schedule : Schedule} {bound : Nat}

/-- What all looks take together is within the told bound only if nothing had to be made up or cut off. -/
theorem looks_le_scanDuration (schedule : Schedule) :
    schedule.budget * schedule.period * perMillisecond ≤ schedule.scanDuration ↔
      0 < schedule.interval ∧ 0 < schedule.maxAttempts ∧
        schedule.interval * perMillisecond * schedule.maxAttempts ≤ longestDuration := by
  have lasts : 0 < schedule.budget * schedule.period * perMillisecond :=
    Nat.mul_pos (Nat.mul_pos (Nat.lt_of_lt_of_le Nat.zero_lt_one (Nat.le_max_right _ _))
      (Nat.lt_of_lt_of_le Nat.zero_lt_one (Nat.le_max_right _ _))) (by decide)
  unfold scanDuration
  rcases Nat.eq_zero_or_pos schedule.interval with none | some
  · simp only [none, Nat.zero_mul, Nat.min_zero, Nat.le_zero_eq, Nat.ne_of_gt lasts, Nat.lt_irrefl, false_and]
  rcases Nat.eq_zero_or_pos schedule.maxAttempts with never | ever
  · simp only [never, Nat.mul_zero, Nat.min_zero, Nat.le_zero_eq, Nat.ne_of_gt lasts, Nat.lt_irrefl, false_and,
      and_false]
  have same : schedule.budget * schedule.period * perMillisecond =
      schedule.interval * perMillisecond * schedule.maxAttempts := by
    rw [budget, period, Nat.max_eq_left ever, Nat.max_eq_left some, Nat.mul_assoc, Nat.mul_comm]
  rw [same, Nat.le_min]
  exact ⟨fun ⟨fits, _⟩ => ⟨some, ever, fits⟩, fun ⟨_, _, fits⟩ => ⟨fits, Nat.le_refl _⟩⟩

/-- The told bound holds for every loop whose fetches are answered at once just where there are an interval and looks,
and they fit together into a duration. -/
theorem max_duration_bounds_prompt_loops (returns : schedule.maxDuration = .ok bound) :
    (∀ (poller : Poller) (memo : Memo) (source : Source), source.IsPrompt →
      poller.EndsWithin schedule memo source bound) ↔
    0 < schedule.interval ∧ 0 < schedule.maxAttempts ∧
      schedule.interval * perMillisecond * schedule.maxAttempts ≤ longestDuration := by
  have total : bound = schedule.graceDelay * perMillisecond + schedule.scanDuration := by
    simp only [maxDuration] at returns
    split at returns
    · exact (Except.ok.inj returns).symm
    · cases returns
  have lasts : (schedule.graceDelay + schedule.budget * schedule.period) * perMillisecond ≤ bound ↔
      schedule.budget * schedule.period * perMillisecond ≤ schedule.scanDuration := by
    rw [total, Nat.add_mul, Nat.add_le_add_iff_left]
  rw [← schedule.looks_le_scanDuration, ← lasts]
  constructor
  · intro bounds
    exact Poller.barren_endsWithin (bounds .idle ⟨""⟩ .barren Source.barren_isPrompt)
  · intro enough poller memo source prompt
    exact Poller.prompt_endsWithin prompt enough

/-- The standard settings. -/
theorem standard_duration_is_a_bound : standard.maxDuration = .ok 183000000000 ∧
    ∀ (poller : Poller) (memo : Memo) (source : Source), source.IsPrompt →
      poller.EndsWithin standard memo source 183000000000 := by
  have returns : standard.maxDuration = .ok 183000000000 := by decide +kernel
  exact ⟨returns, (max_duration_bounds_prompt_loops returns).mpr (by decide +kernel)⟩

/-- Without an interval the only look comes a millisecond after the told bound. -/
theorem loop_without_interval_outlasts_its_bound :
    let schedule : Schedule := ⟨10, 0, 1, 10⟩
    schedule.maxDuration = .ok 10000000 ∧ Source.barren.IsPrompt ∧
      (Poller.pass .barren [20] (Poller.idle.start ⟨"pl-0-1"⟩ schedule)).2 =
        [.fetched 11 10, .reported 11 (.timedOut 1)] ∧
      ¬ Poller.idle.EndsWithin schedule ⟨"pl-0-1"⟩ .barren 10000000 := by
  intro schedule
  have shows : (Poller.pass .barren [20] (Poller.idle.start ⟨"pl-0-1"⟩ schedule)).2 =
      [.fetched 11 10, .reported 11 (.timedOut 1)] := by decide +kernel
  refine ⟨by decide +kernel, Source.barren_isPrompt, shows, fun ends => ?_⟩
  obtain ⟨time, finding, tells, _, within⟩ := ends [20] (by decide)
  rw [shows] at tells
  simp only [List.mem_cons, reduceCtorEq, PollEffect.reported.injEq, List.not_mem_nil, or_false, false_or] at tells
  obtain ⟨rfl, -⟩ := tells
  exact absurd within (by decide)

end Schedule
end PayBridge
