import PayBridge.Proofs.Search.Firing

/-! A search over a list of pages. As long as no finding was the last one, every page has counted, and
looks are left. -/
namespace PayBridge.Search

def after (search : Search) (pages : List Page) : Search :=
  pages.foldl (fun now page => (now.observe page).1) search

theorem after_append (search : Search) (first rest : List Page) :
    search.after (first ++ rest) = (search.after first).after rest :=
  List.foldl_append

theorem after_memo (search : Search) (pages : List Page) : (search.after pages).memo = search.memo := by
  induction pages generalizing search with
  | nil => rfl
  | cons page rest ih => exact (ih _).trans (search.observe_memo page)

theorem observeAll_append (search : Search) (first rest : List Page) :
    search.observeAll (first ++ rest) = search.observeAll first ++ (search.after first).observeAll rest := by
  induction first generalizing search with
  | nil => rfl
  | cons page first ih =>
    simp only [List.cons_append, observeAll, ih]
    rfl

theorem length_observeAll (search : Search) (pages : List Page) :
    (search.observeAll pages).length = pages.length := by
  induction pages generalizing search with
  | nil => rfl
  | cons page pages ih => simp only [observeAll, List.length_cons, ih]

structure IsPending (search : Search) : Prop where
  undecided : search.outcome = none
  left : search.attempt < search.budget

theorem start_pending (memo : Memo) (maxAttempts : Nat) : (start memo maxAttempts).IsPending :=
  ⟨rfl, Nat.lt_of_lt_of_le Nat.zero_lt_one (Nat.le_max_right _ _)⟩

theorem IsPending.observe {search : Search} {page : Page} (pending : search.IsPending)
    (goesOn : (search.observe page).2.isTerminal = false) :
    (search.observe page).1.IsPending ∧ (search.observe page).1.attempt = search.attempt + 1 ∧
      (search.observe page).1.budget = search.budget := by
  have undecided := observe_outcome pending.undecided goesOn
  have counted : (search.observe page).1.attempt = search.attempt + 1 := by
    simp only [Search.observe, pending.undecided]
  have granted : (search.observe page).1.budget = search.budget := by
    simp only [Search.observe, pending.undecided]
  refine ⟨⟨undecided, ?_⟩, counted, granted⟩
  rw [counted, granted]
  -- were this the last look granted, the finding would be the last one
  simp only [Search.observe, pending.undecided, judge] at goesOn
  split at goesOn
  · cases goesOn
  · split at goesOn
    · cases goesOn
    · omega

/-- Without an outcome on some pages, all of them have counted, and looks are left. -/
theorem IsPending.after {search : Search} {pages : List Page} (pending : search.IsPending)
    (goesOn : ∀ finding ∈ search.observeAll pages, finding.isTerminal = false) :
    (search.after pages).IsPending ∧ (search.after pages).attempt = search.attempt + pages.length ∧
      (search.after pages).budget = search.budget := by
  induction pages generalizing search with
  | nil => exact ⟨pending, rfl, rfl⟩
  | cons page rest ih =>
    obtain ⟨first, later⟩ := List.forall_mem_cons.mp goesOn
    obtain ⟨still, counted, granted⟩ := pending.observe first
    obtain ⟨left, attempts, budget⟩ := ih still later
    refine ⟨left, attempts.trans ?_, budget.trans granted⟩
    rw [counted, List.length_cons, Nat.add_assoc, Nat.add_comm 1]

theorem judge_confirmed {memo : Memo} {attempt budget : Nat} {page : Page} {signature : String}
    (confirmed : judge memo attempt budget page = .confirmed signature) :
    ∃ entry, match? memo page = some entry ∧ entry.signature = signature := by
  unfold judge at confirmed
  split at confirmed
  · rename_i entry matched
    cases confirmed
    exact ⟨entry, matched, rfl⟩
  · split at confirmed <;> cases confirmed

/-- What is confirmed was found on one of the pages, unless it was the outcome before them. -/
theorem confirmed_on_page {search : Search} {pages : List Page} {signature : String}
    (told : .confirmed signature ∈ search.observeAll pages)
    (news : search.outcome ≠ some (.confirmed signature)) :
    ∃ page ∈ pages, ∃ entry, match? search.memo page = some entry ∧ entry.signature = signature := by
  induction pages generalizing search with
  | nil => exact absurd told List.not_mem_nil
  | cons page rest ih =>
    by_cases now : (search.observe page).2 = .confirmed signature
    · cases outcome : search.outcome with
      | some finding =>
        simp only [Search.observe, outcome] at now
        exact absurd (outcome.trans (congrArg some now)) news
      | none =>
        simp only [Search.observe, outcome] at now
        obtain ⟨entry, matched, signed⟩ := judge_confirmed now
        exact ⟨page, List.mem_cons_self, entry, matched, signed⟩
    · have later := (List.mem_cons.mp told).resolve_left (Ne.symm now)
      have still : (search.observe page).1.outcome ≠ some (.confirmed signature) := by
        intro decided
        cases outcome : search.outcome with
        | some finding =>
          simp only [Search.observe, outcome] at decided
          exact news (outcome.trans decided)
        | none =>
          simp only [Search.observe, outcome] at decided now
          split at decided
          · exact now (Option.some.inj decided)
          · cases decided
      obtain ⟨other, member, found⟩ := ih later still
      rw [observe_memo] at found
      exact ⟨other, List.mem_cons_of_mem _ member, found⟩

end PayBridge.Search
