import PayBridge.Proofs.Search.Observing

/-! What a search makes of its pages, from the first to the last. It is decided by the first page that shows the memo,
if that comes within the looks granted, and else by the last of these. Every page before is a look of its own,
whether it lists entries or reports a failed fetch; no page after it counts. -/
namespace PayBridge

def Page.Shows (memo : Memo) (page : Page) : Prop :=
  ∃ found, page = .entries found ∧ ∃ entry ∈ found, entry.carries memo = true

namespace Search

/-- Which look decides, and what it finds: a page that shows the memo confirms its first entry that carries it, and
without one the last look granted gives up. -/
inductive Decides (memo : Memo) (budget : Nat) (pages : List Page) : Nat → Finding → Prop where
  | confirmed {earlier later : List Page} {before behind : List LedgerEntry} {entry : LedgerEntry}
      (parts : pages = earlier ++ .entries (before ++ entry :: behind) :: later)
      (silent : ∀ page ∈ earlier, ¬ page.Shows memo) (first : ∀ other ∈ before, other.carries memo = false)
      (carries : entry.carries memo = true) (granted : earlier.length < budget) :
      Decides memo budget pages (earlier.length + 1) (.confirmed entry.signature)
  | timedOut (silent : ∀ page ∈ pages.take budget, ¬ page.Shows memo) (enough : budget ≤ pages.length) :
      Decides memo budget pages budget (.timedOut budget)

/-- What looks that decide nothing are reported as, counted from the first of them. -/
def statuses (budget first : Nat) (pages : List Page) : List Finding :=
  (pages.zipIdx first).map fun (page, look) => .status (statusText page look budget)

variable {memo : Memo} {attempt budget look : Nat} {page : Page} {pages : List Page} {entry : LedgerEntry}
  {outcome : Finding} {search : Search}

theorem match?_eq_some_iff : match? memo page = some entry ↔ ∃ before behind,
    page = .entries (before ++ entry :: behind) ∧ (∀ other ∈ before, other.carries memo = false) ∧
      entry.carries memo = true := by
  cases page with
  | failure reason =>
    refine ⟨nofun, ?_⟩
    rintro ⟨_, _, ⟨⟩, _⟩
  | entries found =>
    simp only [match?, List.find?_eq_some_iff_append, Bool.not_eq_true', Page.entries.injEq]
    constructor
    · rintro ⟨carries, before, behind, parts, first⟩
      exact ⟨before, behind, parts, first, carries⟩
    · rintro ⟨before, behind, parts, first, carries⟩
      exact ⟨carries, before, behind, parts, first⟩

theorem match?_eq_none_iff : match? memo page = none ↔ ¬ page.Shows memo := by
  cases page with
  | failure reason =>
    refine ⟨fun _ => ?_, fun _ => rfl⟩
    rintro ⟨_, ⟨⟩, _⟩
  | entries found =>
    simp only [match?, List.find?_eq_none, Page.Shows, Page.entries.injEq, exists_eq_left', not_exists, not_and,
      Bool.not_eq_true]

theorem observe_silent (silent : ¬ page.Shows memo) (left : attempt + 1 < budget) :
    observe ⟨memo, attempt, budget, none⟩ page =
      (⟨memo, attempt + 1, budget, none⟩, .status (statusText page (attempt + 1) budget)) := by
  simp only [observe, judge, match?_eq_none_iff.mpr silent, Nat.not_le.mpr left, ↓reduceIte]
  rfl

theorem observe_last (silent : ¬ page.Shows memo) :
    observe ⟨memo, attempt, attempt + 1, none⟩ page =
      (⟨memo, attempt + 1, attempt + 1, some (.timedOut (attempt + 1))⟩, .timedOut (attempt + 1)) := by
  simp only [observe, judge, match?_eq_none_iff.mpr silent, Nat.le_refl, ↓reduceIte]
  rfl

theorem observe_shown (found : match? memo page = some entry) :
    observe ⟨memo, attempt, budget, none⟩ page =
      (⟨memo, attempt + 1, budget, some (.confirmed entry.signature)⟩, .confirmed entry.signature) := by
  simp only [observe, judge, found]
  rfl

theorem observe_decided (decided : search.outcome = some outcome) (page : Page) :
    search.observe page = (search, outcome) := by
  simp only [observe, decided]

/-- Pages that do not show the memo are looks that decide nothing, while looks are left. -/
theorem after_silent (silent : ∀ page ∈ pages, ¬ page.Shows memo) (left : attempt + pages.length < budget) :
    after ⟨memo, attempt, budget, none⟩ pages = ⟨memo, attempt + pages.length, budget, none⟩ ∧
      observeAll ⟨memo, attempt, budget, none⟩ pages = statuses budget (attempt + 1) pages := by
  induction pages generalizing attempt with
  | nil => exact ⟨rfl, rfl⟩
  | cons page pages ih =>
    obtain ⟨here, later⟩ := List.forall_mem_cons.mp silent
    have counted : attempt + (page :: pages).length = attempt + 1 + pages.length := by
      rw [List.length_cons, Nat.add_assoc, Nat.add_comm 1]
    rw [counted] at left ⊢
    have look := observe_silent here (Nat.lt_of_le_of_lt (Nat.le_add_right _ _) left)
    obtain ⟨state, told⟩ := ih later left
    constructor
    · rw [after, List.foldl_cons, look]
      exact state
    · rw [observeAll, look, told]
      rfl

/-- Once it is decided, a search stays as it is and repeats its outcome, whatever the pages hold. -/
theorem after_decided (decided : search.outcome = some outcome) (pages : List Page) :
    search.after pages = search ∧ search.observeAll pages = List.replicate pages.length outcome := by
  induction pages with
  | nil => exact ⟨rfl, rfl⟩
  | cons page pages ih =>
    have look := observe_decided decided page
    constructor
    · rw [after, List.foldl_cons, look]
      exact ih.1
    · rw [observeAll, look, ih.2]
      rfl

/-- The look that decides: the pages before it do not show the memo, and it is granted. -/
theorem Decides.at_look (decides : Decides memo budget pages look outcome) (granted : 0 < budget) :
    ∃ earlier page later, pages = earlier ++ page :: later ∧ look = earlier.length + 1 ∧ look ≤ budget ∧
      (∀ page ∈ earlier, ¬ page.Shows memo) ∧
      observe ⟨memo, earlier.length, budget, none⟩ page = (⟨memo, look, budget, some outcome⟩, outcome) := by
  cases decides with
  | @confirmed earlier later before behind entry parts silent first carries granted =>
    have found := match?_eq_some_iff.mpr ⟨before, behind, rfl, first, carries⟩
    exact ⟨earlier, _, later, parts, rfl, granted, silent, observe_shown found⟩
  | timedOut silent enough =>
    obtain ⟨taken, rfl⟩ := Nat.exists_eq_add_one_of_ne_zero (Nat.ne_of_gt granted)
    have inside : taken < pages.length := enough
    have parts : pages = pages.take taken ++ pages[taken] :: pages.drop (taken + 1) := by
      rw [List.getElem_cons_drop, List.take_append_drop]
    have length : (pages.take taken).length = taken := List.length_take_of_le (Nat.le_of_lt inside)
    rw [List.take_succ_eq_append_getElem inside] at silent
    obtain ⟨before, last⟩ := List.forall_mem_append.mp silent
    refine ⟨pages.take taken, pages[taken], _, parts, by rw [length], Nat.le_refl _, before, ?_⟩
    rw [length]
    exact observe_last (last _ (List.mem_singleton.mpr rfl))

/-- Pages decide, unless none of them shows the memo and they are fewer than the looks granted. -/
theorem decides_or_silent (memo : Memo) (budget : Nat) (pages : List Page) :
    (∃ look outcome, Decides memo budget pages look outcome) ∨
      (∀ page ∈ pages, ¬ page.Shows memo) ∧ pages.length < budget := by
  cases shown : (pages.take budget).find? fun page => (match? memo page).isSome with
  | some page =>
    obtain ⟨carries, earlier, later, parts, silent⟩ := List.find?_eq_some_iff_append.mp shown
    obtain ⟨entry, found⟩ := Option.isSome_iff_exists.mp carries
    obtain ⟨before, behind, rfl, first, carries⟩ := match?_eq_some_iff.mp found
    have all : pages = earlier ++ .entries (before ++ entry :: behind) :: (later ++ pages.drop budget) := by
      rw [← List.cons_append, ← List.append_assoc, ← parts, List.take_append_drop]
    have granted : earlier.length < budget := by
      have taken := congrArg List.length parts
      rw [List.length_take, List.length_append, List.length_cons] at taken
      omega
    refine .inl ⟨_, _, .confirmed all (fun page member => match?_eq_none_iff.mp ?_) first carries granted⟩
    simpa using silent page member
  | none =>
    have silent : ∀ page ∈ pages.take budget, ¬ page.Shows memo := fun page member => match?_eq_none_iff.mp
      (Option.not_isSome_iff_eq_none.mp (List.find?_eq_none.mp shown page member))
    by_cases enough : budget ≤ pages.length
    · exact .inl ⟨_, _, .timedOut silent enough⟩
    · have few := Nat.lt_of_not_le enough
      rw [List.take_of_length_le (Nat.le_of_lt few)] at silent
      exact .inr ⟨silent, few⟩

theorem start_silent {maxAttempts : Nat} (silent : ∀ page ∈ pages, ¬ page.Shows memo)
    (left : pages.length < max maxAttempts 1) :
    (start memo maxAttempts).after pages = ⟨memo, pages.length, max maxAttempts 1, none⟩ ∧
      (start memo maxAttempts).observeAll pages = statuses (max maxAttempts 1) 1 pages := by
  rw [← Nat.zero_add pages.length] at left ⊢
  exact after_silent silent left

/-- A new search tells of the looks before the one that decides, and from then on its outcome. -/
theorem Decides.start {maxAttempts : Nat} (decides : Decides memo (max maxAttempts 1) pages look outcome) :
    look ≤ pages.length ∧ look ≤ max maxAttempts 1 ∧
      (start memo maxAttempts).after pages = ⟨memo, look, max maxAttempts 1, some outcome⟩ ∧
      (start memo maxAttempts).observeAll pages =
        statuses (max maxAttempts 1) 1 (pages.take (look - 1)) ++
          List.replicate (pages.length + 1 - look) outcome := by
  obtain ⟨earlier, page, later, rfl, rfl, within, silent, last⟩ :=
    decides.at_look (Nat.lt_of_lt_of_le Nat.zero_lt_one (Nat.le_max_right _ _))
  obtain ⟨state, told⟩ := start_silent silent within
  have ended : (⟨memo, earlier.length + 1, max maxAttempts 1, some outcome⟩ : Search).outcome = some outcome := rfl
  obtain ⟨stays, repeats⟩ := after_decided ended later
  have length : (earlier ++ page :: later).length = earlier.length + 1 + later.length := by
    rw [List.length_append, List.length_cons, Nat.add_assoc, Nat.add_comm 1]
  have remaining : (earlier ++ page :: later).length + 1 - (earlier.length + 1) = later.length + 1 := by omega
  refine ⟨by omega, within, ?_, ?_⟩
  · rw [after_append, state, after, List.foldl_cons, last]
    exact stays
  · rw [observeAll_append, state, told, observeAll, last, repeats, remaining, Nat.add_sub_cancel, List.take_left,
      List.replicate_succ]

/-- Whatever its pages are, a search reports the looks before the one that decides by their numbers, and from this
one on the outcome, and stays as it is then. Where nothing decides it has counted all its looks. It never counts
more than are granted, so the counter keeps to 32 bits. -/
theorem searches_decide_at_one_look (memo : Memo) (maxAttempts : UInt32) (pages : List Page) :
    let search := start memo maxAttempts.toNat
    let budget := max maxAttempts.toNat 1
    (∀ look outcome, Decides memo budget pages look outcome →
      look ≤ pages.length ∧
      search.observeAll pages =
        statuses budget 1 (pages.take (look - 1)) ++ List.replicate (pages.length + 1 - look) outcome ∧
      search.after pages = ⟨memo, look, budget, some outcome⟩ ∧
      ∀ page, (search.after pages).observe page = (search.after pages, outcome)) ∧
    ((∀ look outcome, ¬ Decides memo budget pages look outcome) →
      pages.length < budget ∧
      search.observeAll pages = statuses budget 1 pages ∧
      search.after pages = ⟨memo, pages.length, budget, none⟩) ∧
    (search.after pages).attempt ≤ budget ∧ budget < 2 ^ 32 := by
  intro search budget
  refine ⟨?_, ?_, ?_, Nat.max_lt.mpr ⟨maxAttempts.toNat_lt, by decide⟩⟩
  · intro look outcome decides
    obtain ⟨inside, -, state, told⟩ := decides.start
    exact ⟨inside, told, state, observe_decided (congrArg Search.outcome state)⟩
  · intro nothing
    obtain ⟨silent, few⟩ := (decides_or_silent memo budget pages).resolve_left fun ⟨look, outcome, decides⟩ =>
      nothing look outcome decides
    obtain ⟨state, told⟩ := start_silent silent few
    exact ⟨few, told, state⟩
  · rcases decides_or_silent memo budget pages with ⟨look, outcome, decides⟩ | ⟨silent, few⟩
    · obtain ⟨-, within, state, -⟩ := decides.start
      exact Nat.le_trans (Nat.le_of_eq (congrArg Search.attempt state)) within
    · exact Nat.le_trans (Nat.le_of_eq (congrArg Search.attempt (start_silent silent few).1)) (Nat.le_of_lt few)

-- A failed fetch is a look, the last look granted may still confirm, and a later page changes nothing.
example :
    let paid : Page := .entries [⟨"other", some "[6] pl-0-2"⟩, ⟨"paid", some "[6] pl-0-1"⟩]
    let late : Page := .entries [⟨"late", some "[6] pl-0-1"⟩]
    (start ⟨"pl-0-1"⟩ 2).observeAll [.failure "node unavailable", paid, late] =
      [.status "Network hiccup, retrying (1/2)", .confirmed "paid", .confirmed "paid"] := by
  decide +kernel

end Search
end PayBridge
