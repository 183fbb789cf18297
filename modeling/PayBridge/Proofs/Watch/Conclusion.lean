import Mathlib.Data.List.TakeWhile
import PayBridge.Proofs.Search.Timing
import PayBridge.Watch.Ending

/-! What watching comes to. The answers of a source decide the outcome, and the time is that of the answer that
decided it. A shutdown before that time decides instead. -/
namespace PayBridge.Watch

def story (source : Source) (memo : Memo) (schedule : Schedule) : List PollEffect :=
  (PollLoop.start 0 memo schedule).shows source none 0

/-- What the answers of a source decide, and at which look: the first finding that ends the search, or the death of
the source where no page before it has decided anything. -/
inductive Concludes (source : Source) (memo : Memo) (schedule : Schedule) : Nat → Outcome → Prop where
  | confirmed {pages : List Page} {statuses : List Finding} {signature : String} (answers : source.Answers pages)
      (told : (Search.start memo schedule.maxAttempts).observeAll pages = statuses ++ [.confirmed signature])
      (undecided : ∀ status ∈ statuses, status.isTerminal = false) :
      Concludes source memo schedule statuses.length (.confirmed signature)
  | timedOut {pages : List Page} {statuses : List Finding} {attempts : Nat} (answers : source.Answers pages)
      (told : (Search.start memo schedule.maxAttempts).observeAll pages = statuses ++ [.timedOut attempts])
      (undecided : ∀ status ∈ statuses, status.isTerminal = false) :
      Concludes source memo schedule statuses.length (.timedOut attempts)
  | died {pages : List Page} (answers : source.Answers pages)
      (undecided : PollLoop.Undecided memo schedule pages) (death : (source pages.length).answer = .death) :
      Concludes source memo schedule pages.length .cancelled

variable {source : Source} {memo : Memo} {schedule : Schedule} {look : Nat} {outcome : Outcome}
  {pages : List Page} {statuses : List Finding} {finding : Finding}

/-- Some look decides, at the last one granted at the latest. -/
theorem exists_concludes (source : Source) (memo : Memo) (schedule : Schedule) :
    ∃ look outcome, Concludes source memo schedule look outcome := by
  suffices general : ∀ left pages, source.Answers pages → PollLoop.Undecided memo schedule pages →
      schedule.budget ≤ pages.length + left → ∃ look outcome, Concludes source memo schedule look outcome from
    general schedule.budget [] nofun nofun (Nat.le_add_left _ _)
  intro left
  induction left with
  | zero =>
    intro pages _ undecided spent
    have granted := (Search.start_pending memo schedule.maxAttempts).after undecided
    have more := granted.1.left
    rw [granted.2.1, granted.2.2] at more
    exact absurd (Nat.lt_of_lt_of_le more spent) (by simp [Search.start])
  | succ left ih =>
    intro pages answers undecided enough
    cases answer : (source pages.length).answer with
    | death => exact ⟨_, _, .died answers undecided answer⟩
    | page page =>
      have answered := Source.answers_concat.mpr ⟨answers, answer⟩
      have told : (Search.start memo schedule.maxAttempts).observeAll (pages ++ [page]) = _ :=
        Search.observeAll_append ..
      cases finding : (((Search.start memo schedule.maxAttempts).after pages).observe page).2 with
      | status text =>
        refine ih (pages ++ [page]) answered (PollLoop.undecided_concat.mpr ⟨undecided, ?_⟩) ?_
        · rw [finding]
          rfl
        · rw [List.length_append, List.length_singleton]
          omega
      | confirmed signature =>
        simp only [Search.observeAll, finding] at told
        exact ⟨_, _, .confirmed answered told undecided⟩
      | timedOut attempts =>
        simp only [Search.observeAll, finding] at told
        exact ⟨_, _, .timedOut answered told undecided⟩

/-- Findings that end in the last one are those of pages without an outcome, and of one more. -/
theorem last_page (told : (Search.start memo schedule.maxAttempts).observeAll pages = statuses ++ [finding]) :
    ∃ earlier page, pages = earlier ++ [page] ∧
      (Search.start memo schedule.maxAttempts).observeAll earlier = statuses ∧
      (((Search.start memo schedule.maxAttempts).after earlier).observe page).2 = finding := by
  cases pages using List.reverseRecOn with
  | nil => exact absurd told.symm (List.append_ne_nil_of_right_ne_nil _ (List.cons_ne_nil _ _))
  | append_singleton earlier page =>
    rw [Search.observeAll_append] at told
    obtain ⟨before, last⟩ := List.append_inj' told rfl
    exact ⟨earlier, page, rfl, before, (List.cons.inj last).1⟩

/-- What is shown up to a finding that ends the search. -/
theorem shows_told (answers : source.Answers pages)
    (told : (Search.start memo schedule.maxAttempts).observeAll pages = statuses ++ [finding])
    (undecided : ∀ status ∈ statuses, status.isTerminal = false) (last : finding.isTerminal = true) :
    story source memo schedule = schedule.looks source 0 statuses ++
      [.fetched (schedule.lookAt source statuses.length) schedule.signatureLimit,
        .reported (schedule.answeredAt source statuses.length) finding] := by
  obtain ⟨earlier, page, rfl, rfl, rfl⟩ := last_page told
  obtain ⟨before, answer⟩ := Source.answers_concat.mp answers
  rw [story, PollLoop.shows_start before undecided, PollLoop.shows_beforeLook undecided,
    PollLoop.shows_duringLook undecided, answer, Search.length_observeAll]
  simp only [last, ↓reduceIte]

/-- What is shown up to the death of the source. -/
theorem shows_died (answers : source.Answers pages) (undecided : PollLoop.Undecided memo schedule pages)
    (death : (source pages.length).answer = .death) :
    story source memo schedule =
      schedule.looks source 0 ((Search.start memo schedule.maxAttempts).observeAll pages) ++
      [.fetched (schedule.lookAt source pages.length) schedule.signatureLimit,
        .died (schedule.answeredAt source pages.length)] := by
  rw [story, PollLoop.shows_start answers undecided, PollLoop.shows_beforeLook undecided,
    PollLoop.shows_duringLook undecided, death]

theorem outcomeOf?_status (time : Nat) (undecided : finding.isTerminal = false) :
    outcomeOf? (.reported time finding) = none := by
  cases finding with
  | status text => rfl
  | confirmed | timedOut => cases undecided

theorem outcomeOf?_looks (source : Source) (k : Nat) (undecided : ∀ status ∈ statuses, status.isTerminal = false) :
    ∀ effect ∈ schedule.looks source k statuses, outcomeOf? effect = none := by
  induction statuses generalizing k with
  | nil => nofun
  | cons status rest ih =>
    obtain ⟨first, later⟩ := List.forall_mem_cons.mp undecided
    exact List.forall_mem_cons.mpr ⟨rfl, List.forall_mem_cons.mpr ⟨outcomeOf?_status _ first, ih (k + 1) later⟩⟩

/-- The story is told by looks that decide nothing, and then the one that decides. -/
theorem Concludes.shows (concludes : Concludes source memo schedule look outcome) :
    ∃ statuses last, story source memo schedule = schedule.looks source 0 statuses ++
        [.fetched (schedule.lookAt source look) schedule.signatureLimit, last] ∧
      (∀ status ∈ statuses, status.isTerminal = false) ∧
      outcomeOf? last = some (outcome, schedule.answeredAt source look) := by
  cases concludes with
  | confirmed answers told undecided | timedOut answers told undecided =>
    exact ⟨_, _, shows_told answers told undecided rfl, undecided, rfl⟩
  | died answers undecided death => exact ⟨_, _, shows_died answers undecided death, undecided, rfl⟩

theorem Concludes.ends (concludes : Concludes source memo schedule look outcome) :
    ∃ earlier last, story source memo schedule = earlier ++ [last] ∧
      (∀ effect ∈ earlier, outcomeOf? effect = none) ∧
      outcomeOf? last = some (outcome, schedule.answeredAt source look) := by
  obtain ⟨statuses, last, shown, undecided, decides⟩ := concludes.shows
  rw [List.append_cons] at shown
  refine ⟨_, last, shown, List.forall_mem_append.mpr ⟨outcomeOf?_looks source 0 undecided, ?_⟩, decides⟩
  exact List.forall_mem_singleton.mpr rfl

/-- Wherever the story is parted, the last part decides and the first does not. -/
theorem Concludes.parts {first rest : List PollEffect} (concludes : Concludes source memo schedule look outcome)
    (parts : story source memo schedule = first ++ rest) (more : rest ≠ []) :
    (∃ last ∈ rest, outcomeOf? last = some (outcome, schedule.answeredAt source look)) ∧
      ∀ effect ∈ first, outcomeOf? effect = none := by
  obtain ⟨earlier, last, ends, nothing, decides⟩ := concludes.ends
  rcases List.eq_nil_or_concat rest with empty | ⟨between, final, rfl⟩
  · exact absurd empty more
  · rw [ends, List.concat_eq_append, ← List.append_assoc] at parts
    obtain ⟨rfl, final⟩ := List.append_inj' parts rfl
    obtain rfl := (List.cons.inj final).1
    rw [List.concat_eq_append]
    exact ⟨⟨last, List.mem_append_right _ (List.mem_singleton.mpr rfl), decides⟩,
      fun effect member => nothing effect (List.mem_append_left _ member)⟩

theorem Concludes.page {signature : String} (concludes : Concludes source memo schedule look (.confirmed signature)) :
    ∃ found entry, (source look).answer = .page (.entries found) ∧ entry ∈ found ∧ entry.signature = signature ∧
      entry.carries memo = true := by
  cases concludes with
  | confirmed answers told undecided =>
    obtain ⟨earlier, page, rfl, rfl, confirms⟩ := last_page told
    obtain ⟨-, answer⟩ := Source.answers_concat.mp answers
    have before := PollLoop.Undecided.pending undecided
    obtain ⟨found, entry, rfl, member, signed, carries⟩ := Search.observe_confirmed before.undecided confirms
    rw [Search.after_memo] at carries
    rw [Search.length_observeAll]
    exact ⟨found, entry, answer, member, signed, carries⟩

theorem time_of_outcomeOf? {effect : PollEffect} {time : Nat} (decides : outcomeOf? effect = some (outcome, time)) :
    effect.time = time := by
  cases effect with
  | fetched => cases decides
  | died =>
    cases decides
    rfl
  | reported _ finding =>
    cases finding <;> cases decides
    all_goals rfl

theorem Concludes.time_le (concludes : Concludes source memo schedule look outcome) :
    ∀ effect ∈ story source memo schedule, effect.time ≤ schedule.answeredAt source look := by
  obtain ⟨earlier, last, shown, -, decides⟩ := concludes.ends
  have sorted : (story source memo schedule).Pairwise (·.time ≤ ·.time) :=
    PollLoop.shows_sorted (Search.start_pending ..)
  rw [shown] at sorted ⊢
  rw [← time_of_outcomeOf? decides]
  intro effect member
  rcases List.mem_append.mp member with before | now
  · exact (List.pairwise_append.mp sorted).2.2 effect before last (List.mem_singleton.mpr rfl)
  · exact Nat.le_of_eq (congrArg _ (List.mem_singleton.mp now))

theorem run_effects_some (source : Source) (memo : Memo) (schedule : Schedule) (stop : Nat) :
    (run source memo schedule (some stop)).effects = (story source memo schedule).takeWhile (·.time < stop) :=
  PollLoop.shows_some (Search.start_pending ..) stop

/-- A watch ends with the first of its effects that decides; without one it ends at the shutdown. -/
theorem run_eq (source : Source) (memo : Memo) (schedule : Schedule) (shutdown : Option Nat) :
    let effects := (run source memo schedule shutdown).effects
    let decided := (effects.findSome? outcomeOf?).getD (.cancelled, shutdown.getD 0)
    run source memo schedule shutdown = ⟨decided.1, decided.2, effects⟩ := rfl

/-- Without a shutdown before the answer that decides, a watch ends with that answer. -/
theorem Concludes.run_undisturbed {shutdown : Option Nat} (concludes : Concludes source memo schedule look outcome)
    (early : ∀ stop ∈ shutdown, schedule.answeredAt source look < stop) :
    run source memo schedule shutdown =
      ⟨outcome, schedule.answeredAt source look, story source memo schedule⟩ := by
  have whole : (run source memo schedule shutdown).effects = story source memo schedule := by
    cases shutdown with
    | none => rfl
    | some stop =>
      rw [run_effects_some]
      refine List.takeWhile_eq_self_iff.mpr fun effect member => decide_eq_true ?_
      exact Nat.lt_of_le_of_lt (concludes.time_le effect member) (early stop rfl)
  obtain ⟨earlier, last, shown, nothing, decides⟩ := concludes.ends
  have found : (story source memo schedule).findSome? outcomeOf? =
      some (outcome, schedule.answeredAt source look) := by
    rw [shown, List.findSome?_append, List.findSome?_eq_none_iff.mpr nothing]
    simp only [List.findSome?_cons, decides, Option.none_or]
  rw [run_eq, whole, found]
  rfl

/-- A shutdown before the answer that decides ends a watch at once. -/
theorem Concludes.run_shutdown {stop : Nat} (concludes : Concludes source memo schedule look outcome)
    (late : stop ≤ schedule.answeredAt source look) :
    run source memo schedule (some stop) =
      ⟨.cancelled, stop, (story source memo schedule).takeWhile (·.time < stop)⟩ := by
  obtain ⟨earlier, last, shown, nothing, decides⟩ := concludes.ends
  have undecided : ((story source memo schedule).takeWhile (·.time < stop)).findSome? outcomeOf? = none := by
    refine List.findSome?_eq_none_iff.mpr fun effect member => ?_
    have before : effect.time < stop := of_decide_eq_true (List.mem_takeWhile_imp member :)
    have inside := (List.takeWhile_prefix _).subset member
    rw [shown] at inside
    rcases List.mem_append.mp inside with early | deciding
    · exact nothing effect early
    · obtain rfl := List.mem_singleton.mp deciding
      have time := time_of_outcomeOf? decides
      omega
  rw [run_eq, run_effects_some, undecided]
  rfl

/-- Either the answer that decides comes first, or the shutdown. -/
theorem Concludes.run_cases (concludes : Concludes source memo schedule look outcome) (shutdown : Option Nat) :
    ((∀ stop ∈ shutdown, schedule.answeredAt source look < stop) ∧
      run source memo schedule shutdown =
        ⟨outcome, schedule.answeredAt source look, story source memo schedule⟩) ∨
    ∃ stop ∈ shutdown, stop ≤ schedule.answeredAt source look ∧
      run source memo schedule shutdown =
        ⟨.cancelled, stop, (story source memo schedule).takeWhile (·.time < stop)⟩ := by
  by_cases early : ∀ stop ∈ shutdown, schedule.answeredAt source look < stop
  · exact .inl ⟨early, concludes.run_undisturbed early⟩
  · obtain ⟨stop, asked, late⟩ : ∃ stop ∈ shutdown, stop ≤ schedule.answeredAt source look := by
      simpa only [not_forall, Nat.not_lt, exists_prop] using early
    obtain rfl : shutdown = some stop := asked
    exact .inr ⟨stop, rfl, late, concludes.run_shutdown late⟩

/-- A watch shows nothing after its end, and nothing at or after a shutdown. -/
theorem run_effects_time (source : Source) (memo : Memo) (schedule : Schedule) (shutdown : Option Nat) :
    ∀ effect ∈ (run source memo schedule shutdown).effects,
      effect.time ≤ (run source memo schedule shutdown).time ∧ ∀ stop ∈ shutdown, effect.time < stop := by
  obtain ⟨look, outcome, concludes⟩ := exists_concludes source memo schedule
  rcases concludes.run_cases shutdown with ⟨early, ends⟩ | ⟨stop, asked, -, ends⟩
  · rw [ends]
    intro effect member
    have before := concludes.time_le effect member
    exact ⟨before, fun stop asked => Nat.lt_of_le_of_lt before (early stop asked)⟩
  · rw [ends]
    intro effect member
    have before : effect.time < stop := of_decide_eq_true (List.mem_takeWhile_imp member :)
    exact ⟨Nat.le_of_lt before, fun other same => Option.mem_unique asked same ▸ before⟩

theorem run_success (source : Source) (memo : Memo) (schedule : Schedule) (shutdown : Option Nat)
    (success : (run source memo schedule shutdown).outcome.isSuccess = true) :
    ∃ look found entry,
      .fetched (schedule.lookAt source look) schedule.signatureLimit ∈ (run source memo schedule shutdown).effects ∧
      schedule.answeredAt source look ≤ (run source memo schedule shutdown).time ∧
      (source look).answer = .page (.entries found) ∧ entry ∈ found ∧ entry.carries memo = true ∧
      (run source memo schedule shutdown).outcome = .confirmed entry.signature := by
  obtain ⟨look, outcome, concludes⟩ := exists_concludes source memo schedule
  rcases concludes.run_cases shutdown with ⟨-, ends⟩ | ⟨stop, -, -, ends⟩
  · rw [ends] at success ⊢
    cases outcome with
    | timedOut | cancelled => cases success
    | confirmed signature =>
      obtain ⟨found, entry, answer, member, rfl, carries⟩ := concludes.page
      obtain ⟨statuses, last, story, -, -⟩ := concludes.shows
      refine ⟨look, found, entry, ?_, Nat.le_refl _, answer, member, carries, rfl⟩
      rw [story]
      exact List.mem_append_right _ List.mem_cons_self
  · rw [ends] at success
    cases success

end PayBridge.Watch
