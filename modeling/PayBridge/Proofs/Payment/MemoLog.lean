import PayBridge.Payment.Memo
import PayBridge.Proofs.Text.Trim

/-! Logs of memos, written and read. As long as no text holds the separator, the entries of a log are the texts that
were written into it, and a memo is found in the log if it was written there, but for blanks around it. -/
namespace PayBridge.Memo

open PayBridge.Text

def IsUndivided (s : List Char) : Prop := ¬ [';', ' '] <:+: s

variable {s rest : List Char} {texts : List String} {text : String} {memo : Memo}

theorem IsUndivided.within {part : List Char} (undivided : IsUndivided s) (inside : part <:+: s) : IsUndivided part :=
  fun divided => undivided (divided.trans inside)

theorem isUndivided_cons {c : Char} :
    IsUndivided (c :: s) ↔ (c = ';' → s.head? ≠ some ' ') ∧ IsUndivided s := by
  have first : [';', ' '] <+: c :: s ↔ c = ';' ∧ s.head? = some ' ' := by
    cases s <;> simp [List.cons_prefix_cons, eq_comm]
  rw [IsUndivided, List.infix_cons_iff, first, not_or, not_and]
  exact Iff.rfl

/-- A text that begins with no blank may follow an undivided one as long as it is undivided itself. -/
theorem IsUndivided.append (undivided : IsUndivided s) (follows : IsUndivided rest) (closed : rest.head? ≠ some ' ') :
    IsUndivided (s ++ rest) := by
  induction s with
  | nil => exact follows
  | cons c s ih =>
    obtain ⟨here, later⟩ := isUndivided_cons.mp undivided
    refine isUndivided_cons.mpr ⟨fun mark => ?_, ih later⟩
    cases s with
    | nil => exact closed
    | cons d s => exact here mark

theorem isUndivided_of_no_mark (unmarked : ';' ∉ s) : IsUndivided s :=
  fun divided => unmarked (divided.subset List.mem_cons_self)

theorem entries_undivided (undivided : IsUndivided s) : entries s = [s] := by
  induction s with
  | nil => rfl
  | cons c s ih =>
    obtain ⟨here, later⟩ := isUndivided_cons.mp undivided
    rw [entries, ih later]
    rintro rest rfl rfl
    exact here rfl rfl

/-- The first entry of a log goes to the first separator. -/
theorem entries_cut (undivided : IsUndivided s) (rest : List Char) :
    entries (s ++ ';' :: ' ' :: rest) = s :: entries rest := by
  induction s with
  | nil => rfl
  | cons c s ih =>
    obtain ⟨here, later⟩ := isUndivided_cons.mp undivided
    rw [List.cons_append, entries, ih later]
    rintro others rfl same
    cases s with
    | nil => cases same
    | cons d s =>
      obtain rfl := (List.cons.inj same).1
      exact here rfl rfl

/-- A text holds no separator, or it has a first one. -/
theorem undivided_or_cut (s : List Char) :
    IsUndivided s ∨ ∃ first rest, IsUndivided first ∧ s = first ++ ';' :: ' ' :: rest := by
  induction s with
  | nil => exact .inl (isUndivided_of_no_mark List.not_mem_nil)
  | cons c s ih =>
    by_cases here : c = ';' ∧ s.head? = some ' '
    · obtain ⟨rfl, blank⟩ := here
      obtain ⟨rest, rfl⟩ := List.head?_eq_some_iff.mp blank
      exact .inr ⟨[], rest, isUndivided_of_no_mark List.not_mem_nil, rfl⟩
    · rcases ih with undivided | ⟨first, rest, undivided, rfl⟩
      · exact .inl (isUndivided_cons.mpr ⟨fun mark blank => here ⟨mark, blank⟩, undivided⟩)
      · refine .inr ⟨c :: first, rest, isUndivided_cons.mpr ⟨fun mark blank => here ⟨mark, ?_⟩, undivided⟩, rfl⟩
        rw [List.head?_append_of_ne_nil _ (by rintro rfl; cases blank)]
        exact blank

/-- Induction on the separators of a text, from the first of them on. -/
theorem cut_induction {motive : List Char → Prop} (whole : ∀ s, IsUndivided s → motive s)
    (cut : ∀ first rest, IsUndivided first → motive rest → motive (first ++ ';' :: ' ' :: rest)) (s : List Char) :
    motive s := by
  induction length : s.length using Nat.strongRecOn generalizing s with
  | ind n ih =>
    rcases undivided_or_cut s with undivided | ⟨first, rest, undivided, rfl⟩
    · exact whole s undivided
    · refine cut first rest undivided (ih rest.length ?_ rest rfl)
      rw [← length, List.length_append, List.length_cons, List.length_cons]
      omega

theorem entries_append (s rest : List Char) : entries (s ++ ';' :: ' ' :: rest) = entries s ++ entries rest := by
  induction s using cut_induction with
  | whole s undivided =>
    rw [entries_cut undivided, entries_undivided undivided]
    rfl
  | cut first later undivided ih =>
    rw [List.append_assoc, List.cons_append, List.cons_append, entries_cut undivided, entries_cut undivided, ih]
    rfl

theorem undivided_of_mem_entries {entry : List Char} (member : entry ∈ entries s) : IsUndivided entry := by
  induction s using cut_induction with
  | whole s undivided =>
    rw [entries_undivided undivided] at member
    exact List.mem_singleton.mp member ▸ undivided
  | cut first rest undivided ih =>
    rw [entries_cut undivided] at member
    rcases List.mem_cons.mp member with rfl | later
    · exact undivided
    · exact ih later

theorem logEntry_eq (text : String) :
    logEntry text = ('[' :: decimal text.utf8ByteSize) ++ ']' :: ' ' :: text.toList := rfl

theorem logEntry_undivided (undivided : IsUndivided text.toList) : IsUndivided (logEntry text) := by
  have length : IsUndivided ('[' :: decimal text.utf8ByteSize) := by
    refine isUndivided_of_no_mark fun marked => ?_
    have digit := (List.mem_cons.mp marked).resolve_left (by decide)
    exact absurd (Nat.isDigit_of_mem_toDigits (by decide) (by decide) digit) (by decide)
  have behind : IsUndivided (']' :: ' ' :: text.toList) :=
    isUndivided_cons.mpr ⟨nofun, isUndivided_cons.mpr ⟨nofun, undivided⟩⟩
  rw [logEntry_eq]
  exact length.append behind nofun

theorem toList_log_cons (text next : String) (texts : List String) :
    (log (text :: next :: texts)).toList = logEntry text ++ ';' :: ' ' :: (log (next :: texts)).toList := by
  simp only [log, String.toList_ofList, List.map_cons, List.intercalate_cons_cons, List.append_assoc,
    List.cons_append, List.nil_append]

theorem toList_log_singleton (text : String) : (log [text]).toList = logEntry text := by
  simp only [log, String.toList_ofList, List.map_cons, List.map_nil, List.intercalate_singleton]

/-- The entries of a log are those of its texts, one text after the other. -/
theorem entries_log (written : texts ≠ []) :
    entries (log texts).toList = texts.flatMap fun text => entries (logEntry text) := by
  induction texts with
  | nil => exact absurd rfl written
  | cons text texts ih =>
    cases texts with
    | nil => rw [toList_log_singleton, List.flatMap_singleton]
    | cons next texts =>
      rw [toList_log_cons, entries_append, ih (List.cons_ne_nil _ _)]
      rfl

theorem entries_log_undivided (undivided : ∀ text ∈ texts, IsUndivided text.toList) (written : texts ≠ []) :
    entries (log texts).toList = texts.map logEntry := by
  have single : ∀ text ∈ texts, entries (logEntry text) = [logEntry text] :=
    fun text member => entries_undivided (logEntry_undivided (undivided text member))
  rw [entries_log written, List.map_eq_flatMap]
  exact List.flatMap_congr single

theorem dropLength_length (n : Nat) (body : List Char) :
    dropLength ('[' :: (decimal n ++ ']' :: body)) = trimStart body := by
  have digital : ∀ c ∈ decimal n, isDecimalDigit c = true := fun c member =>
    isDecimalDigit_of_isDigit (Nat.isDigit_of_mem_toDigits (by decide) (by decide) member)
  obtain ⟨first, others, digits⟩ : ∃ first others, decimal n = first :: others :=
    List.exists_cons_of_ne_nil Nat.toDigits_ne_nil
  rw [dropLength, List.takeWhile_append_of_pos digital, List.dropWhile_append_of_pos digital,
    List.takeWhile_cons_of_neg (by decide), List.dropWhile_cons_of_neg (by decide), List.append_nil, digits]
  rfl

/-- An entry without its length is what stands behind the length, trimmed. -/
theorem entryText_length (n : Nat) (body : List Char) :
    entryText ('[' :: (decimal n ++ ']' :: ' ' :: body)) = trim body := by
  have kept : trim ('[' :: (decimal n ++ ']' :: ' ' :: body)) = '[' :: (decimal n ++ ']' :: trimEnd (' ' :: body)) := by
    have framed := trim_append (c := ']') rfl ('[' :: decimal n) (' ' :: body)
    exact framed.trans (congrArg (· ++ _) (trimStart_append (c := '[') rfl [] (decimal n)))
  have blank : trim (' ' :: body) = trim body := congrArg trimEnd (List.dropWhile_cons_of_pos rfl)
  rw [entryText, kept, dropLength_length, trimStart_trimEnd, trim_trim, blank]

theorem entryText_logEntry (text : String) : entryText (logEntry text) = trim text.toList :=
  entryText_length text.utf8ByteSize text.toList

theorem ofList_trim_eq_empty (text : String) : (trim text.toList).isEmpty = (trimmed text == "") := by
  rw [Bool.eq_iff_iff, List.isEmpty_iff, beq_iff_eq, trimmed, ← String.toList_inj, String.toList_ofList]
  rfl

/-- Without separators in the texts, a log carries the texts that are not blank, trimmed and in their order. -/
theorem carried_log (undivided : ∀ text ∈ texts, IsUndivided text.toList) :
    carried (log texts) = (texts.map trimmed).filter (· != "") := by
  by_cases written : texts = []
  · subst written
    rfl
  · have texted : (texts.map logEntry).map entryText = texts.map fun text => trim text.toList := by
      rw [List.map_map]
      exact List.map_congr_left fun text _ => entryText_logEntry text
    have solid : ((!·.isEmpty) ∘ fun text : String => trim text.toList) = ((· != "") ∘ trimmed) := by
      funext text
      exact congrArg not (ofList_trim_eq_empty text)
    rw [carried, entries_log_undivided undivided written, texted, List.filter_map, List.filter_map, solid, List.map_map]
    rfl

/-- A log of several texts, read as one entry, is all that stands behind its first length. -/
theorem entryText_log (text next : String) (texts : List String) :
    entryText (log (text :: next :: texts)).toList =
      trim (text.toList ++ ';' :: ' ' :: (log (next :: texts)).toList) := by
  have body : (log (text :: next :: texts)).toList = '[' :: (decimal text.utf8ByteSize ++
      ']' :: ' ' :: (text.toList ++ ';' :: ' ' :: (log (next :: texts)).toList)) := by
    rw [toList_log_cons, logEntry_eq]
    simp only [List.cons_append, List.append_assoc]
  rw [body, entryText_length]

theorem entryText_log_divided (text next : String) (texts : List String) :
    ¬ IsUndivided (entryText (log (text :: next :: texts)).toList) := by
  obtain ⟨behind, more⟩ : ∃ behind, (log (next :: texts)).toList = '[' :: behind := by
    cases texts with
    | nil => exact ⟨_, toList_log_singleton next⟩
    | cons other texts => exact ⟨_, toList_log_cons next other texts⟩
  -- the bracket of the next entry keeps the blank of the separator from being trimmed
  have kept := trim_append (c := '[') rfl (text.toList ++ [';', ' ']) behind
  rw [List.append_assoc, trimStart_append (c := ';') rfl, List.append_assoc] at kept
  rw [entryText_log, more]
  exact fun undivided => undivided ⟨trimStart text.toList, '[' :: trimEnd behind, by
    rw [List.append_assoc]
    exact kept.symm⟩

theorem toList_trimmed (s : String) : (trimmed s).toList = trim s.toList := by
  rw [trimmed, String.toList_ofList]

/-- Without separators, a memo is in a log if one of the texts is the memo, but for blanks around them. -/
theorem isIn_log_iff (undivided : ∀ text ∈ texts, IsUndivided text.toList) (whole : IsUndivided memo.text.toList)
    (solid : trimmed memo.text ≠ "") :
    memo.isIn (log texts) = true ↔ ∃ text ∈ texts, trimmed text = trimmed memo.text := by
  have same (text : String) : text.toList = trim memo.text.toList ↔ text = trimmed memo.text := by
    rw [← toList_trimmed, String.toList_inj]
  simp only [isIn, Bool.or_eq_true, beq_iff_eq, List.any_eq_true, same, carried_log undivided]
  constructor
  · rintro (alone | ⟨_, listed, rfl⟩)
    · cases texts with
      | nil => exact absurd ((same "").mp alone).symm solid
      | cons text texts =>
        cases texts with
        | nil =>
          rw [toList_log_singleton, entryText_logEntry, ← toList_trimmed, same] at alone
          exact ⟨text, List.mem_singleton.mpr rfl, alone⟩
        | cons next texts =>
          have divided := entryText_log_divided text next texts
          rw [alone] at divided
          exact absurd (whole.within (trim_isInfix _)) divided
    · obtain ⟨text, member, trims⟩ := List.mem_map.mp (List.mem_filter.mp listed).1
      exact ⟨text, member, trims⟩
  · rintro ⟨text, member, trims⟩
    refine .inr ⟨trimmed memo.text, List.mem_filter.mpr ⟨?_, bne_iff_ne.mpr solid⟩, rfl⟩
    exact List.mem_map.mpr ⟨text, member, trims⟩

end PayBridge.Memo
