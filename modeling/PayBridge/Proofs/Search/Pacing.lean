import Mathlib.Algebra.GroupWithZero.Nat
import PayBridge.Proofs.Search.Account
import PayBridge.Proofs.Search.Task
import PayBridge.Proofs.Search.Timing

/-! How a polling loop keeps its pace, in whatever pieces time passes. One fetch follows another only when that one
was answered and its finding told, and a period after it at the earliest. As long as every answer comes within a
period, the fetches stay on the beat of the first one: nothing is lost in between. -/
namespace PayBridge

def PollEffect.isFetch : PollEffect → Bool
  | .fetched _ _ => true
  | _ => false

def PollEffect.looks (shown : List PollEffect) : Nat := shown.countP PollEffect.isFetch

/-- What was shown up to one more effect, cut at some effect: this is the last one, or comes before it. -/
theorem PollEffect.cut_concat {shown before later : List PollEffect} {last effect : PollEffect}
    (cut : shown ++ [last] = before ++ effect :: later) :
    (shown = before ∧ last = effect) ∨ ∃ rest, shown = before ++ effect :: rest := by
  rcases List.eq_nil_or_concat later with rfl | ⟨rest, _, rfl⟩
  · obtain ⟨same, ends⟩ := List.append_inj' cut rfl
    exact .inl ⟨same, (List.cons_eq_cons.mp ends).1⟩
  · rw [List.concat_eq_append, ← List.cons_append, ← List.append_assoc] at cut
    exact .inr ⟨rest, (List.append_inj' cut rfl).1⟩

theorem PollLoop.run_due {source : Source} {asked : Nat} {loop following : PollLoop} {stop : Nat}
    (pending : loop.search.IsPending) (goesOn : (loop.run source (some stop) asked).loop = some following) :
    stop ≤ following.stage.due := by
  induction asked, loop, pending using pending_induction source with
  | fires asked loop pending ih =>
    unfold run at goesOn
    by_cases due : loop.stage.due < stop
    · have begins : loop.isDue (some stop) = true := decide_eq_true due
      cases fired : (loop.fire source asked).loop with
      | none =>
        rw [runSteps_last begins fired, fired] at goesOn
        cases goesOn
      | some next =>
        obtain ⟨still, closer⟩ := (loop.fire_fires source asked).comesCloser pending fired
        rw [runSteps_next begins fired, runSteps_enough still closer (Nat.lt_succ_self _)] at goesOn
        exact (ih next fired).2 goesOn
    · have waits : loop.isDue (some stop) = false := decide_eq_false due
      rw [runSteps, waits, if_neg Bool.false_ne_true] at goesOn
      cases goesOn
      exact Nat.le_of_not_lt due

namespace Poller

def pass (source : Source) : List Nat → Poller → Poller × List PollEffect
  | [], poller => (poller, [])
  | duration :: rest, poller =>
    let first := poller.advance source duration
    let later := pass source rest first.1
    (later.1, first.2 ++ later.2)

variable {source : Source}

theorem pass_append (first rest : List Nat) (poller : Poller) :
    pass source (first ++ rest) poller =
      ((pass source rest (pass source first poller).1).1,
        (pass source first poller).2 ++ (pass source rest (pass source first poller).1).2) := by
  induction first generalizing poller with
  | nil => rfl
  | cons duration first ih => simp only [List.cons_append, pass, ih, List.append_assoc]

theorem pass_now (durations : List Nat) (poller : Poller) :
    (pass source durations poller).1.now = poller.now + durations.sum := by
  induction durations generalizing poller with
  | nil => rfl
  | cons duration rest ih =>
    have moved : (poller.advance source duration).1.now = poller.now + duration := by
      unfold advance
      cases poller.loop <;> rfl
    rw [pass, ih, moved, List.sum_cons, Nat.add_assoc]

/-- When the look after `k` others begins, if nothing holds it up. -/
def beat (poller : Poller) (schedule : Schedule) (k : Nat) : Nat :=
  poller.now + schedule.graceDelay + (k + 1) * schedule.period

/-- When the answer to the fetch comes that begins at `tick`, after what was shown before. -/
def answerTime (poller : Poller) (source : Source) (before : List PollEffect) (tick : Nat) : Nat :=
  tick + (source (poller.asked + PollEffect.looks before)).delay

/-- What one look after another owes to the schedule. `before` is all that was shown until a fetch begins at `time`. -/
structure InTurn (poller : Poller) (schedule : Schedule) (source : Source) (before : List PollEffect) (time : Nat) :
    Prop where
  answered : before = [] ∨ ∃ earlier started finding,
    let answer := poller.answerTime source earlier started
    before = earlier ++ [.fetched started schedule.signatureLimit, .reported answer finding] ∧
      finding.isTerminal = false ∧ answer ≤ time
  noEarlier : poller.beat schedule (PollEffect.looks before) ≤ time
  onBeat : (∀ k < PollEffect.looks before, (source (poller.asked + k)).delay ≤ schedule.period) →
    time = poller.beat schedule (PollEffect.looks before)

/-- What may be shown after what was shown before: a fetch in its turn, or what came of the fetch just before. -/
inductive Follows (poller : Poller) (schedule : Schedule) (source : Source) (before : List PollEffect) :
    PollEffect → Prop where
  | fetched {time : Nat} (turn : poller.InTurn schedule source before time) :
      Follows poller schedule source before (.fetched time schedule.signatureLimit)
  | reported {earlier : List PollEffect} {tick : Nat} {search : Search} {page : Page}
      (begins : before = earlier ++ [.fetched tick schedule.signatureLimit])
      (answers : (source (poller.asked + PollEffect.looks earlier)).answer = .page page)
      (pending : search.IsPending) (counted : PollEffect.looks earlier = search.attempt)
      (budget : search.budget = schedule.budget) :
      Follows poller schedule source before
        (.reported (poller.answerTime source earlier tick) (search.observe page).2)
  | died {earlier : List PollEffect} {tick : Nat}
      (begins : before = earlier ++ [.fetched tick schedule.signatureLimit])
      (answers : (source (poller.asked + PollEffect.looks earlier)).answer = .death) :
      Follows poller schedule source before (.died (poller.answerTime source earlier tick))

/-- Where a loop stands after what it has shown. -/
inductive Stands (poller : Poller) (schedule : Schedule) (source : Source) (shown : List PollEffect) : Stage → Prop
  where
  | grace (fresh : shown = []) : Stands poller schedule source shown (.grace (poller.now + schedule.graceDelay))
  | waiting {tick : Nat} (turn : poller.InTurn schedule source shown tick) :
      Stands poller schedule source shown (.waiting tick)
  | fetching {before : List PollEffect} {tick : Nat} (turn : poller.InTurn schedule source before tick)
      (begins : shown = before ++ [.fetched tick schedule.signatureLimit]) :
      Stands poller schedule source shown (.fetching (poller.answerTime source before tick)
        (source (poller.asked + PollEffect.looks before)).answer (tick + schedule.period))

structure Runs (poller : Poller) (schedule : Schedule) (source : Source) (shown : List PollEffect) (loop : PollLoop) :
    Prop where
  period : loop.period = schedule.period
  limit : loop.limit = schedule.signatureLimit
  budget : loop.search.budget = schedule.budget
  pending : loop.search.IsPending
  counted : PollEffect.looks shown = loop.search.attempt + loop.stage.pending.length
  stands : poller.Stands schedule source shown loop.stage

/-- What holds of a poller that began to poll, after all that was shown since. -/
structure Keeps (begun : Poller) (schedule : Schedule) (source : Source) (poller : Poller)
    (shown : List PollEffect) : Prop where
  follows : ∀ before effect later, shown = before ++ effect :: later →
    begun.Follows schedule source before effect
  asked : poller.asked = begun.asked + PollEffect.looks shown
  runs : ∀ loop ∈ poller.loop, begun.Runs schedule source shown loop
  ends : poller.loop = none → ∃ before last, shown = before ++ [last] ∧
    (last.isLast = true ∨ ∃ time, last = .died time)

variable {begun poller : Poller} {schedule : Schedule} {shown before : List PollEffect} {tick : Nat}
  {finding : Finding} {loop : PollLoop} {step : PollStep}

theorem beat_succ (begun : Poller) (schedule : Schedule) (k : Nat) :
    begun.beat schedule (k + 1) = begun.beat schedule k + schedule.period := by
  simp only [beat, Nat.succ_mul, Nat.add_assoc]

theorem beat_mono (begun : Poller) (schedule : Schedule) {j k : Nat} (earlier : j ≤ k) :
    begun.beat schedule j ≤ begun.beat schedule k :=
  Nat.add_le_add_left (Nat.mul_le_mul_right _ (Nat.succ_le_succ earlier)) _

theorem looks_fetched (before : List PollEffect) (tick limit : Nat) :
    PollEffect.looks (before ++ [.fetched tick limit]) = PollEffect.looks before + 1 := by
  simp [PollEffect.looks, List.countP_append, PollEffect.isFetch]

theorem looks_reported (before : List PollEffect) (time : Nat) (finding : Finding) :
    PollEffect.looks (before ++ [.reported time finding]) = PollEffect.looks before := by
  simp [PollEffect.looks, List.countP_append, PollEffect.isFetch]

theorem looks_died (before : List PollEffect) (time : Nat) :
    PollEffect.looks (before ++ [.died time]) = PollEffect.looks before := by
  simp [PollEffect.looks, List.countP_append, PollEffect.isFetch]

/-- The first look is due a period after the delay. -/
theorem first_inTurn (begun : Poller) (schedule : Schedule) (source : Source) :
    begun.InTurn schedule source [] (begun.now + schedule.graceDelay + schedule.period) := by
  have first : begun.beat schedule 0 = begun.now + schedule.graceDelay + schedule.period := by
    rw [beat, Nat.zero_add, Nat.one_mul]
  exact ⟨.inl rfl, Nat.le_of_eq first, fun _ => first.symm⟩

/-- The look after one that is answered is due at the next tick, or at once if that is over. -/
theorem InTurn.next (turn : begun.InTurn schedule source before tick) (goesOn : finding.isTerminal = false) :
    let answer := begun.answerTime source before tick
    begun.InTurn schedule source (before ++ [.fetched tick schedule.signatureLimit] ++ [.reported answer finding])
      (max (tick + schedule.period) answer) := by
  intro answer
  have onTime := turn.noEarlier
  refine ⟨.inr ⟨before, tick, finding, List.append_assoc .., goesOn, Nat.le_max_right _ _⟩, ?_, ?_⟩
  · rw [looks_reported, looks_fetched, beat_succ]
    omega
  · rw [looks_reported, looks_fetched, beat_succ]
    intro quick
    have beat := turn.onBeat fun k earlier => quick k (Nat.lt_succ_of_lt earlier)
    have inTime : answer ≤ tick + schedule.period := Nat.add_le_add_left (quick _ (Nat.lt_succ_self _)) tick
    omega

theorem Runs.shows {asked : Nat} (runs : begun.Runs schedule source shown loop)
    (fires : loop.Fires source asked step) :
    step.effects = [] ∨ ∃ effect, step.effects = [effect] ∧ begun.Follows schedule source shown effect := by
  obtain ⟨period, limit, budget, pending, counted, stands⟩ := runs
  cases fires with
  | delayed => exact .inl rfl
  | fetches stage =>
    rw [stage] at stands
    obtain ⟨⟩ | ⟨turn⟩ := stands
    refine .inr ⟨_, rfl, ?_⟩
    rw [limit]
    exact .fetched turn
  | @goesOn time nextTick page stage _ | @ends time nextTick page stage _ =>
    rw [stage] at stands counted
    generalize answers : Answer.page page = answer at stands
    obtain ⟨⟩ | ⟨⟩ | ⟨turn, rfl⟩ := stands
    rw [looks_fetched] at counted
    exact .inr ⟨_, rfl, .reported rfl answers.symm pending (Nat.succ.inj counted) budget⟩
  | dies stage =>
    rw [stage] at stands
    generalize answers : Answer.death = answer at stands
    obtain ⟨⟩ | ⟨⟩ | ⟨turn, rfl⟩ := stands
    exact .inr ⟨_, rfl, .died rfl answers.symm⟩

theorem Runs.next (runs : begun.Runs schedule source shown loop)
    (fires : loop.Fires source (begun.asked + PollEffect.looks shown) step) :
    ∀ following ∈ step.loop, begun.Runs schedule source (shown ++ step.effects) following := by
  obtain ⟨period, limit, budget, pending, counted, stands⟩ := runs
  cases fires with
  | delayed stage =>
    rintro _ ⟨⟩
    rw [stage] at stands counted
    obtain ⟨rfl⟩ := stands
    refine ⟨period, limit, budget, pending, counted, .waiting ?_⟩
    rw [period]
    exact first_inTurn ..
  | @fetches tick stage =>
    rintro _ ⟨⟩
    rw [stage] at stands counted
    obtain ⟨⟩ | ⟨turn⟩ := stands
    refine ⟨period, limit, budget, pending, ?_, ?_⟩
    · rw [looks_fetched, counted]
      rfl
    · simp only [limit, period]
      exact .fetching turn rfl
  | @goesOn time nextTick page stage more =>
    rintro _ ⟨⟩
    rw [stage] at stands counted
    obtain ⟨still, attempts, granted⟩ := pending.observe more
    refine ⟨period, limit, granted.trans budget, still, ?_, ?_⟩
    · rw [looks_reported, counted, attempts]
      rfl
    · generalize Answer.page page = answer at stands
      obtain ⟨⟩ | ⟨⟩ | ⟨turn, rfl⟩ := stands
      exact .waiting (turn.next more)
  | ends | dies => rintro _ ⟨⟩

theorem Keeps.fire (keeps : begun.Keeps schedule source poller shown) :
    begun.Keeps schedule source (poller.fire source).1 (shown ++ (poller.fire source).2) := by
  cases running : poller.loop with
  | none =>
    simp only [Poller.fire, running, List.append_nil]
    exact keeps
  | some loop =>
    have runs := keeps.runs loop running
    have fires := loop.fire_fires source poller.asked
    have asks := keeps.asked
    simp only [Poller.fire, running]
    generalize loop.fire source poller.asked = step at fires
    refine ⟨?_, ?_, runs.next (asks ▸ fires), ?_⟩
    · rcases runs.shows fires with silent | ⟨effect, shows, next⟩
      · rw [silent, List.append_nil]
        exact keeps.follows
      · rw [shows]
        intro before effect later cut
        rcases PollEffect.cut_concat cut with ⟨rfl, rfl⟩ | ⟨rest, parts⟩
        · exact next
        · exact keeps.follows before effect rest parts
    · cases fires with
      | delayed => simp only [List.append_nil, asks]
      | fetches => simp only [looks_fetched, asks, Nat.add_assoc]
      | goesOn | ends => simp only [looks_reported, asks]
      | dies => simp only [looks_died, asks]
    · intro none
      cases fires with
      | delayed | fetches | goesOn => cases none
      | ends _ last => exact ⟨shown, _, rfl, .inl last⟩
      | dies => exact ⟨shown, _, rfl, .inr ⟨_, rfl⟩⟩

theorem Keeps.fires (keeps : begun.Keeps schedule source poller shown) (n : Nat) :
    begun.Keeps schedule source (Poller.fires source n poller).1 (shown ++ (Poller.fires source n poller).2) := by
  induction n generalizing poller shown with
  | zero => exact (List.append_nil shown).symm ▸ keeps
  | succ n ih =>
    rw [Poller.fires, ← List.append_assoc]
    exact ih keeps.fire

theorem Keeps.pass (keeps : begun.Keeps schedule source poller shown) (durations : List Nat) :
    begun.Keeps schedule source (Poller.pass source durations poller).1
      (shown ++ (Poller.pass source durations poller).2) := by
  induction durations generalizing poller shown with
  | nil => exact (List.append_nil shown).symm ▸ keeps
  | cons duration rest ih =>
    obtain ⟨n, fired⟩ := poller.advance_fires source duration
    have kept := keeps.fires n
    rw [Poller.pass, ← List.append_assoc, fired]
    exact ih ⟨kept.follows, kept.asked, kept.runs, kept.ends⟩

theorem start_keeps (begun : Poller) (memo : Memo) (schedule : Schedule) (source : Source) :
    begun.Keeps schedule source (begun.start memo schedule) [] where
  follows before effect later parts := by simp at parts
  asked := rfl
  runs := by
    rintro _ ⟨⟩
    exact ⟨rfl, rfl, rfl, Search.start_pending .., rfl, .grace rfl⟩
  ends := nofun

/-- A loop that outlives some time waits for a later one. -/
theorem Keeps.pass_due (keeps : begun.Keeps schedule source poller shown) {durations : List Nat}
    (passes : durations ≠ []) :
    ∀ loop ∈ (Poller.pass source durations poller).1.loop, poller.now + durations.sum < loop.stage.due := by
  obtain ⟨earlier, duration, rfl⟩ := (List.eq_nil_or_concat durations).resolve_left passes
  rw [List.concat_eq_append, pass_append, List.sum_append, List.sum_singleton, ← Nat.add_assoc, ← pass_now]
  have kept := keeps.pass earlier
  generalize (Poller.pass source earlier poller).1 = now at kept
  intro following goesOn
  simp only [Poller.pass, Poller.advance] at goesOn
  cases running : now.loop with
  | none =>
    rw [running] at goesOn
    cases goesOn
  | some loop =>
    rw [running] at goesOn
    exact PollLoop.run_due (kept.runs loop running).pending goesOn

/-- While answers are quick, what a loop waits for comes no later than the beat after all its looks. -/
theorem Runs.due_le (runs : begun.Runs schedule source shown loop)
    (quick : ∀ k < PollEffect.looks shown, (source (begun.asked + k)).delay ≤ schedule.period) :
    loop.stage.due ≤ begun.beat schedule (PollEffect.looks shown) := by
  have stands := runs.stands
  generalize loop.stage = stage at stands
  cases stands with
  | grace => exact Nat.le_add_right _ _
  | waiting turn => exact Nat.le_of_eq (turn.onBeat quick)
  | @fetching before tick turn begins =>
    rw [begins, looks_fetched] at quick ⊢
    have onBeat := turn.onBeat fun k earlier => quick k (Nat.lt_succ_of_lt earlier)
    rw [beat_succ, ← onBeat]
    exact Nat.add_le_add_left (quick _ (Nat.lt_succ_self _)) tick

/-- Whatever the source, however slow its answers, and in whatever pieces time passes: a fetch begins when the one
before it was answered and its finding told, and never before its beat. If all answers before it come within a period,
it begins just on the beat, and is not missed while the loop goes on. A loop that does not go on has shown its end. -/
theorem fetches_keep_their_pace (poller : Poller) (memo : Memo) (schedule : Schedule) (source : Source)
    (durations : List Nat) :
    let period := max schedule.interval 1
    let beat (k : Nat) := poller.now + schedule.graceDelay + (k + 1) * period
    let delay (k : Nat) := (source (poller.asked + k)).delay
    let left := (pass source durations (poller.start memo schedule)).1
    let shown := (pass source durations (poller.start memo schedule)).2
    (∀ before time limit later, shown = before ++ .fetched time limit :: later →
      (before = [] ∨ ∃ earlier started finding,
        before = earlier ++ [.fetched started schedule.signatureLimit,
          .reported (started + delay (PollEffect.looks earlier)) finding] ∧
        finding.isTerminal = false ∧ started + delay (PollEffect.looks earlier) ≤ time) ∧
      beat (PollEffect.looks before) ≤ time ∧
      ((∀ k < PollEffect.looks before, delay k ≤ period) → time = beat (PollEffect.looks before))) ∧
    (∀ k, (∀ j < k, delay j ≤ period) → beat k ≤ poller.now + durations.sum → left.isRunning = true →
      k < PollEffect.looks shown) ∧
    (left.isRunning = false → ∃ before last, shown = before ++ [last] ∧
      (last.isLast = true ∨ ∃ time, last = .died time)) := by
  intro period beat delay left shown
  have begins := poller.start_keeps memo schedule source
  have keeps : poller.Keeps schedule source left shown := begins.pass durations
  refine ⟨fun before time limit later parts => ?_, fun k quick elapsed running => ?_, fun ended => ?_⟩
  · obtain ⟨turn⟩ := keeps.follows before _ later parts
    exact ⟨turn.answered, turn.noEarlier, turn.onBeat⟩
  · obtain ⟨loop, runs⟩ := Option.isSome_iff_exists.mp running
    by_contra missed
    have fewer := Nat.le_of_not_lt missed
    have due := (keeps.runs loop runs).due_le fun j earlier => quick j (Nat.lt_of_lt_of_le earlier fewer)
    have atMost := Nat.le_trans due (poller.beat_mono schedule fewer)
    by_cases passes : durations = []
    · -- no time has passed, and the first beat is still to come
      have positive : period ≤ (k + 1) * period := Nat.le_mul_of_pos_left _ (Nat.succ_pos k)
      have short : 1 ≤ period := Nat.le_max_right _ _
      simp only [beat, passes, List.sum_nil] at elapsed
      omega
    · exact absurd (begins.pass_due passes loop runs) (Nat.not_lt.mpr (Nat.le_trans atMost elapsed))
  · exact keeps.ends (Option.isNone_iff_eq_none.mp (Option.isSome_eq_false_iff.mp ended))

/-- The least period. The first answer comes just with the next beat, which is kept. The second one is slow, so that the
third look begins with that answer, and not before. -/
theorem answer_on_the_beat_keeps_it :
    let source := Source.ofScript [⟨1, .page (.failure "offline")⟩, ⟨5, .page (.entries [])⟩]
    let shown := (pass source [60, 60] (idle.start ⟨"pl-0-1"⟩ ⟨100, 0, 3, 10⟩)).2
    ∃ first, shown = first ++ .fetched 102 10 :: [.reported 107 (.status "Waiting for payment (2/3)"),
        .fetched 107 10, .reported 107 (.timedOut 3)] ∧
      PollEffect.looks first = 1 ∧ (∀ k < 1, (source (0 + k)).delay ≤ 1) ∧ 102 = 0 + 100 + (1 + 1) * 1 := by
  intro source shown
  let first : List PollEffect := [.fetched 101 10, .reported 102 (.status "Network hiccup, retrying (1/3)")]
  have parts : shown = first ++ .fetched 102 10 :: [.reported 107 (.status "Waiting for payment (2/3)"),
      .fetched 107 10, .reported 107 (.timedOut 3)] := by decide +kernel
  have quick : ∀ k < 1, (source (0 + k)).delay ≤ 1 := by decide
  obtain ⟨turns, _⟩ := fetches_keep_their_pace idle ⟨"pl-0-1"⟩ ⟨100, 0, 3, 10⟩ source [60, 60]
  obtain ⟨_, _, onBeat⟩ := turns first 102 10 _ parts
  exact ⟨first, parts, rfl, quick, onBeat quick⟩

end Poller
end PayBridge
