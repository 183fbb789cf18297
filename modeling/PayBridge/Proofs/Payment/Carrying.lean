import PayBridge.Proofs.Payment.Minting

/-! Which memos a log carries. Without the separator in them, all that were written, and no others. A memo that holds
the separator is taken apart with the log, so it is only found where it is the whole log: in company it is missed. -/
namespace PayBridge.Memo

open PayBridge.Text

variable {s : List Char} {c : Char} {texts : List String} {text : String} {memo : Memo} {lead : String}

/-- Logs of texts without the separator tell what was written: they carry the texts that are not blank, trimmed and in
their order, and a memo is found if it is one of them, but for blanks around it. -/
theorem logs_tell_what_was_written (undivided : ∀ text ∈ texts, IsUndivided text.toList) :
    carried (log texts) = (texts.map trimmed).filter (· != "") ∧
    ∀ memo : Memo, IsUndivided memo.text.toList → trimmed memo.text ≠ "" →
      (memo.isIn (log texts) = true ↔ ∃ text ∈ texts, trimmed text = trimmed memo.text) :=
  ⟨carried_log undivided, fun _ whole solid => isIn_log_iff undivided whole solid⟩

/-- Texts that look like lengths, end in half a separator, are blank, or have blanks of other scripts around them. -/
theorem odd_texts_are_told :
    let texts := ["[3] foo", "a;", " \u2003", "\u00a0b c\u3000", ""]
    (∀ text ∈ texts, IsUndivided text.toList) ∧
      log texts = "[7] [3] foo; [2] a;; [4]  \u2003; [8] \u00a0b c\u3000; [0] " ∧
      carried (log texts) = ["[3] foo", "a;", "b c"] ∧
      (⟨"b c\u2028"⟩ : Memo).isIn (log texts) = true ∧ (⟨"foo"⟩ : Memo).isIn (log texts) = false := by
  intro texts
  have undivided : ∀ text ∈ texts, IsUndivided text.toList := by
    unfold IsUndivided
    decide +kernel
  obtain ⟨told, found⟩ := logs_tell_what_was_written undivided
  have whole : IsUndivided "b c\u2028".toList ∧ IsUndivided "foo".toList := by
    unfold IsUndivided
    decide +kernel
  refine ⟨undivided, by decide +kernel, told.trans (by decide +kernel), ?_, ?_⟩
  · exact (found ⟨"b c\u2028"⟩ whole.1 (by decide +kernel)).mpr (by decide +kernel)
  · exact Bool.eq_false_iff.mpr (mt (found ⟨"foo"⟩ whole.2 (by decide +kernel)).mp (by decide +kernel))

theorem dropLength_isSuffix (s : List Char) : dropLength s <:+ s := by
  unfold dropLength
  split
  · rename_i rest
    split
    · rename_i body _ cut
      have behind : body <:+ rest := (List.suffix_cons _ _).trans (cut ▸ List.dropWhile_suffix isDecimalDigit)
      exact ((List.dropWhile_suffix isBlank).trans behind).trans (List.suffix_cons _ _)
    · exact List.suffix_refl _
  · exact List.suffix_refl _

theorem entryText_isInfix (s : List Char) : entryText s <:+: s :=
  (trim_isInfix _).trans ((dropLength_isSuffix _).isInfix.trans (trim_isInfix s))

theorem undivided_of_mem_carried {log : String} (member : text ∈ carried log) : IsUndivided text.toList := by
  obtain ⟨_, listed, rfl⟩ := List.mem_map.mp member
  obtain ⟨entry, cut, rfl⟩ := List.mem_map.mp (List.mem_filter.mp listed).1
  rw [String.toList_ofList]
  exact (undivided_of_mem_entries cut).within (entryText_isInfix entry)

/-- Whatever was written beside it, a memo without the separator is found where it was written. -/
theorem isIn_log_of_mem (undivided : IsUndivided memo.text.toList) (solid : trimmed memo.text ≠ "")
    (written : memo.text ∈ texts) : memo.isIn (log texts) = true := by
  have entry : logEntry memo.text ∈ entries (log texts).toList := by
    rw [entries_log (List.ne_nil_of_mem written)]
    refine List.mem_flatMap.mpr ⟨memo.text, written, ?_⟩
    rw [entries_undivided (logEntry_undivided undivided)]
    exact List.mem_singleton_self _
  have full : (!(trim memo.text.toList).isEmpty) = true := by
    rw [ofList_trim_eq_empty]
    exact bne_iff_ne.mpr solid
  have carries : trimmed memo.text ∈ carried (log texts) :=
    List.mem_map_of_mem (List.mem_filter.mpr
      ⟨List.mem_map.mpr ⟨logEntry memo.text, entry, entryText_logEntry memo.text⟩, full⟩)
  rw [isIn, Bool.or_eq_true, List.any_eq_true]
  exact .inr ⟨trimmed memo.text, carries, beq_iff_eq.mpr (toList_trimmed _)⟩

theorem count_trim (solid : isBlank c = false) (s : List Char) : (trim s).count c = s.count c := by
  have started (s : List Char) : (s.dropWhile isBlank).count c = s.count c := by
    have blanks : (s.takeWhile isBlank).count c = 0 := List.count_eq_zero.mpr fun member =>
      absurd ((List.mem_takeWhile_imp member).symm.trans solid) (by decide)
    rw [← Nat.zero_add (List.count _ _), ← blanks, ← List.count_append, List.takeWhile_append_dropWhile]
  rw [trim, trimEnd, List.count_reverse, started, List.count_reverse, trimStart, started]

/-- A log has a bracket more than any text in it. -/
theorem count_log (written : text ∈ texts) : text.toList.count '[' < (log texts).toList.count '[' := by
  have entry (text : String) : text.toList.count '[' < (logEntry text).count '[' := by
    rw [logEntry_eq, List.count_append, List.count_cons_self, List.count_cons_of_ne (by decide),
      List.count_cons_of_ne (by decide)]
    omega
  induction texts with
  | nil => cases written
  | cons first texts ih =>
    cases texts with
    | nil =>
      rw [toList_log_singleton, List.mem_singleton.mp written]
      exact entry first
    | cons next texts =>
      rw [toList_log_cons, List.count_append, List.count_cons_of_ne (by decide), List.count_cons_of_ne (by decide)]
      rcases List.mem_cons.mp written with rfl | later
      · exact Nat.lt_of_lt_of_le (entry _) (Nat.le_add_right _ _)
      · exact Nat.lt_of_lt_of_le (ih later) (Nat.le_add_left _ _)

/-- A log of several texts, read as one entry, is none of them. -/
theorem entryText_log_ne {next : String} (written : memo.text ∈ text :: next :: texts) :
    entryText (log (text :: next :: texts)).toList ≠ trim memo.text.toList := by
  intro same
  have brackets := congrArg (List.count '[') same
  rw [entryText_log, count_trim rfl, count_trim rfl, List.count_append, List.count_cons_of_ne (by decide),
    List.count_cons_of_ne (by decide)] at brackets
  rcases List.mem_cons.mp written with here | later
  · have more := count_log (List.mem_cons_self : next ∈ next :: texts)
    rw [here] at brackets
    omega
  · have more := count_log later
    omega

/-- A memo with the separator is found where it was written alone, and nowhere else. -/
theorem isIn_log_divided_iff (divided : ¬ IsUndivided (trim memo.text.toList)) (written : memo.text ∈ texts) :
    memo.isIn (log texts) = true ↔ texts = [memo.text] := by
  rw [isIn, Bool.or_eq_true, List.any_eq_true, beq_iff_eq]
  constructor
  · rintro (whole | ⟨text, listed, same⟩)
    · cases texts with
      | nil => cases written
      | cons text texts =>
        cases texts with
        | nil => rw [List.mem_singleton.mp written]
        | cons next texts => exact absurd whole (entryText_log_ne written)
    · have undivided := undivided_of_mem_carried listed
      rw [beq_iff_eq.mp same] at undivided
      exact absurd undivided divided
  · rintro rfl
    rw [toList_log_singleton, entryText_logEntry]
    exact .inl rfl

/-- What a memo begins with keeps its separator when the memo is trimmed. -/
theorem ofNumbers_divided (divided : ¬ IsUndivided lead.toList) (sequence random : Nat) :
    ¬ IsUndivided (trim (ofNumbers lead sequence random).text.toList) := by
  obtain ⟨front, behind, cut⟩ := not_not.mp divided
  have kept : trimStart lead.toList = trimStart front ++ ';' :: (' ' :: behind) := by
    rw [← cut, List.append_assoc]
    exact trimStart_append (c := ';') rfl front (' ' :: behind)
  refine not_not.mpr ⟨trimStart front, behind ++ '-' :: decimal sequence ++ '-' :: Nat.toDigits 16 random, ?_⟩
  rw [trim_ofNumbers, kept]
  simp only [List.append_assoc, List.cons_append, List.nil_append]

/-- A generated memo is found in the log of any texts among which it was written, unless what it begins with holds the
separator: then it is found only if nothing else was written. -/
theorem generated_memos_are_found_alone_or_undivided (mint : Mint) (lead : String) (random : Nat)
    (written : (mint.generate lead random).1.text ∈ texts) :
    (mint.generate lead random).1.isIn (log texts) = true ↔
      IsUndivided lead.toList ∨ texts = [(mint.generate lead random).1.text] := by
  by_cases undivided : IsUndivided lead.toList
  · have found := isIn_log_of_mem (ofNumbers_undivided undivided mint.next random)
      (ofNumbers_solid lead mint.next random) written
    exact iff_of_true found (.inl undivided)
  · rw [or_iff_right undivided]
    exact isIn_log_divided_iff (ofNumbers_divided undivided mint.next random) written

/-- A memo whose lead looks like a length and ends in half a separator is found beside texts with separators. -/
theorem half_a_separator_is_found :
    let memo := (Mint.generate ⟨7⟩ "[2] a;" 10).1
    let texts := ["x; y", "[2] a;-7-a", "; "]
    memo.text ∈ texts ∧ log texts = "[4] x; y; [10] [2] a;-7-a; [2] ; " ∧ memo.isIn (log texts) = true := by
  intro memo texts
  have written : memo.text ∈ texts := by decide +kernel
  refine ⟨written, by decide +kernel,
    (generated_memos_are_found_alone_or_undivided ⟨7⟩ "[2] a;" 10 written).mpr (.inl ?_)⟩
  unfold IsUndivided
  decide +kernel

/-- The memo of an order, in a transaction that carries another memo before it, or behind it. -/
theorem memos_with_a_separator_are_missed :
    let memo := (Mint.generate {} "order; 42" 255).1
    memo.text = "order; 42-0-ff" ∧
      ∀ texts ∈ [["foo", "order; 42-0-ff"], ["order; 42-0-ff", "foo"]],
        memo.text ∈ texts ∧ memo.isIn (log texts) = false := by
  decide +kernel

end PayBridge.Memo
