import Mathlib.Data.List.Pairwise
import Mathlib.Data.List.Perm.Subperm
import PayBridge.Proofs.Payment.MemoLog
import PayBridge.Text.Pieces

/-! The memos that one process makes. The number of a memo stands between its last two dashes, whatever it begins
with, so no two memos of a process are the same, and none is taken for another in a log. -/
namespace PayBridge.Memo

open PayBridge.Text

/-- The memos of some calls with their leads and random numbers, in the order in which the calls take their
numbers. -/
def Mint.series (mint : Mint) : List (String × Nat) → List Memo
  | [] => []
  | (lead, random) :: rest => (mint.generate lead random).1 :: (mint.generate lead random).2.series rest

theorem mem_hexDigits {n : Nat} {c : Char} (member : c ∈ Nat.toDigits 16 n) : ∃ d < 16, c = Nat.digitChar d := by
  induction n using Nat.strongRecOn with
  | ind n ih =>
    by_cases single : n < 16
    · rw [Nat.toDigits_of_lt_base single, List.mem_singleton] at member
      exact ⟨n, single, member⟩
    · rw [Nat.toDigits_of_base_le (by decide) (Nat.le_of_not_lt single), List.mem_append, List.mem_singleton]
        at member
      rcases member with front | last
      · exact ih (n / 16) (by omega) front
      · exact ⟨n % 16, Nat.mod_lt _ (by decide), last⟩

theorem mem_hexDigits_solid {n : Nat} {c : Char} (member : c ∈ Nat.toDigits 16 n) : c ≠ '-' ∧ isBlank c = false := by
  obtain ⟨d, below, rfl⟩ := mem_hexDigits member
  have all : ∀ d < 16, Nat.digitChar d ≠ '-' ∧ isBlank (Nat.digitChar d) = false := by decide
  exact all d below

/-- What stands before and behind the last of its marks is told by a text. -/
theorem last_mark_inj {mark : Char} {a b x y : List Char} (same : a ++ mark :: x = b ++ mark :: y)
    (left : mark ∉ x) (right : mark ∉ y) : a = b ∧ x = y := by
  have cuts (front behind : List Char) (apart : mark ∉ behind) :
      cutAt? mark (front ++ mark :: behind).reverse = some (behind.reverse, front.reverse) := by
    rw [List.reverse_append, List.reverse_cons, List.append_assoc]
    exact cutAt?_append (fun marked => apart (List.mem_reverse.mp marked)) front.reverse
  have cut := (cuts a x left).symm.trans ((congrArg (cutAt? mark ·.reverse) same).trans (cuts b y right))
  obtain ⟨behind, front⟩ := Prod.mk.inj (Option.some.inj cut)
  exact ⟨List.reverse_injective front, List.reverse_injective behind⟩

theorem decimal_inj {m n : Nat} (same : decimal m = decimal n) : m = n := by
  have values := congrArg (fun digits => Nat.ofDigitChars 10 digits 0) same
  simpa only [decimal, Nat.ofDigitChars_ten_toDigits] using values

variable {lead : String} {memo : Memo}

theorem trim_ofNumbers (lead : String) (sequence random : Nat) :
    trim (ofNumbers lead sequence random).text.toList =
      trimStart lead.toList ++ '-' :: decimal sequence ++ '-' :: Nat.toDigits 16 random := by
  have ends : trimEnd (Nat.toDigits 16 random) = Nat.toDigits 16 random := by
    refine List.rdropWhile_eq_self_iff.mpr fun digits => ?_
    simp [(mem_hexDigits_solid (List.getLast_mem digits)).2]
  rw [ofNumbers, String.toList_ofList, List.append_assoc, List.cons_append, trim_append (c := '-') rfl,
    trimEnd_append (c := '-') rfl, ends, List.append_assoc, List.cons_append]

/-- Memos that are the same after trimming have the same number. -/
theorem ofNumbers_sequence {lead lead' : String} {sequence sequence' random random' : Nat}
    (same : trimmed (ofNumbers lead sequence random).text = trimmed (ofNumbers lead' sequence' random').text) :
    sequence = sequence' := by
  have dashless (n : Nat) : '-' ∉ Nat.toDigits 16 n := fun dash => (mem_hexDigits_solid dash).1 rfl
  have undashed (n : Nat) : '-' ∉ decimal n := fun dash =>
    absurd (Nat.isDigit_of_mem_toDigits (by decide) (by decide) dash) (by decide)
  have texts := congrArg String.toList same
  rw [toList_trimmed, toList_trimmed, trim_ofNumbers, trim_ofNumbers] at texts
  have numbered := (last_mark_inj texts (dashless random) (dashless random')).1
  exact decimal_inj (last_mark_inj numbered (undashed sequence) (undashed sequence')).2

theorem ofNumbers_solid (lead : String) (sequence random : Nat) :
    trimmed (ofNumbers lead sequence random).text ≠ "" := by
  intro none
  have empty := congrArg String.toList none
  rw [toList_trimmed, trim_ofNumbers] at empty
  simp at empty

theorem ofNumbers_undivided (undivided : IsUndivided lead.toList) (sequence random : Nat) :
    IsUndivided (ofNumbers lead sequence random).text.toList := by
  rw [ofNumbers, String.toList_ofList, List.append_assoc, List.cons_append]
  refine undivided.append (isUndivided_of_no_mark fun marked => ?_) nofun
  simp only [List.mem_cons, List.mem_append] at marked
  rcases marked with dash | digit | dash | digit
  · exact absurd dash (by decide)
  · exact absurd (Nat.isDigit_of_mem_toDigits (by decide) (by decide) digit) (by decide)
  · exact absurd dash (by decide)
  · obtain ⟨d, below, same⟩ := mem_hexDigits digit
    have all : ∀ d < 16, ';' ≠ Nat.digitChar d := by decide
    exact all d below same

/-- The numbers of a series go up, as long as the counter does not start over. -/
theorem mem_series {n : Nat} {calls : List (String × Nat)} (room : n + calls.length ≤ 2 ^ 64)
    (member : memo ∈ Mint.series ⟨n⟩ calls) :
    ∃ call ∈ calls, ∃ sequence, n ≤ sequence ∧ memo = ofNumbers call.1 sequence call.2 := by
  induction calls generalizing n with
  | nil => cases member
  | cons call rest ih =>
    rcases List.mem_cons.mp member with rfl | later
    · exact ⟨call, List.mem_cons_self, n, Nat.le_refl n, rfl⟩
    · cases rest with
      | nil => cases later
      | cons next rest =>
        rw [List.length_cons, List.length_cons] at room
        have counts : (n + 1) % 2 ^ 64 = n + 1 := Nat.mod_eq_of_lt (by omega)
        have later : memo ∈ Mint.series ⟨n + 1⟩ (next :: rest) := counts ▸ later
        obtain ⟨other, listed, sequence, above, same⟩ := ih (by rw [List.length_cons]; omega) later
        exact ⟨other, List.mem_cons_of_mem _ listed, sequence, by omega, same⟩

theorem series_pairwise {n : Nat} {calls : List (String × Nat)} (room : n + calls.length ≤ 2 ^ 64) :
    (Mint.series ⟨n⟩ calls).Pairwise fun memo other => trimmed memo.text ≠ trimmed other.text := by
  induction calls generalizing n with
  | nil => exact .nil
  | cons call rest ih =>
    cases rest with
    | nil => exact List.pairwise_singleton ..
    | cons next rest =>
      rw [List.length_cons, List.length_cons] at room
      have room : n + 1 + (next :: rest).length ≤ 2 ^ 64 := by
        rw [List.length_cons]
        omega
      have counts : (n + 1) % 2 ^ 64 = n + 1 := Nat.mod_eq_of_lt (by rw [List.length_cons] at room; omega)
      rw [Mint.series, Mint.generate, counts]
      refine .cons (fun memo later same => ?_) (ih room)
      obtain ⟨other, _, sequence, above, rfl⟩ := mem_series room later
      have equal : n = sequence := ofNumbers_sequence same
      omega

/-- The memos of one process, of at most as many calls as there are numbers, in whatever order the calls came to
take their numbers and to finish: no two are the same, nor are they after trimming. If no lead holds the separator
of logs, the log of any of these memos holds exactly these: no other memo of the process is found there. -/
theorem generated_memos_stay_apart {calls : List (String × Nat)} (few : calls.length ≤ 2 ^ 64) {made : List Memo}
    (finished : made.Subperm (({} : Mint).series calls)) :
    made.Pairwise (fun memo other => memo.text ≠ other.text ∧ trimmed memo.text ≠ trimmed other.text) ∧
    ((∀ call ∈ calls, IsUndivided call.1.toList) → ∀ listed : List Memo, (∀ memo ∈ listed, memo ∈ made) →
      ∀ memo ∈ made, memo.isIn (log (listed.map Memo.text)) = true ↔ memo ∈ listed) := by
  have room : 0 + calls.length ≤ 2 ^ 64 := by rwa [Nat.zero_add]
  have apart : made.Pairwise fun memo other => trimmed memo.text ≠ trimmed other.text := by
    obtain ⟨kept, same, part⟩ := finished
    exact ((series_pairwise room).sublist part).perm same Ne.symm
  refine ⟨apart.imp fun differ => ⟨fun same => differ (congrArg trimmed same), differ⟩, ?_⟩
  intro unmarked listed inside memo member
  have shape (memo : Memo) (member : memo ∈ made) :
      IsUndivided memo.text.toList ∧ trimmed memo.text ≠ "" := by
    obtain ⟨call, called, sequence, _, rfl⟩ := mem_series room (finished.subset member)
    exact ⟨ofNumbers_undivided (unmarked call called) sequence call.2, ofNumbers_solid call.1 sequence call.2⟩
  have undivided : ∀ text ∈ listed.map Memo.text, IsUndivided text.toList := by
    intro text written
    obtain ⟨other, here, rfl⟩ := List.mem_map.mp written
    exact (shape other (inside other here)).1
  rw [isIn_log_iff undivided (shape memo member).1 (shape memo member).2]
  constructor
  · rintro ⟨text, written, same⟩
    obtain ⟨other, here, rfl⟩ := List.mem_map.mp written
    have equal : other = memo := by
      by_contra differ
      have symmetric : Std.Symm fun memo other : Memo => trimmed memo.text ≠ trimmed other.text := ⟨fun _ _ => Ne.symm⟩
      exact apart.forall (inside other here) member differ same
    exact equal ▸ here
  · exact fun here => ⟨memo.text, List.mem_map_of_mem here, rfl⟩

/-- Leads with dashes, digits, blanks, a length and half a separator, of calls that finish in another order than they
took their numbers. -/
theorem mixed_memos_stay_apart :
    let calls := [("[2] a;", 10), ("[2] a;-0", 10), (" pl ", 255), ("", 10)]
    let made : List Memo := [⟨" pl -2-ff"⟩, ⟨"[2] a;-0-a"⟩, ⟨"-3-a"⟩, ⟨"[2] a;-0-1-a"⟩]
    let listed : List Memo := [⟨"[2] a;-0-a"⟩, ⟨" pl -2-ff"⟩]
    calls.length ≤ 2 ^ 64 ∧ made.Subperm (({} : Mint).series calls) ∧
      (made.Pairwise fun memo other => memo.text ≠ other.text ∧ trimmed memo.text ≠ trimmed other.text) ∧
      log (listed.map Memo.text) = "[10] [2] a;-0-a; [9]  pl -2-ff" ∧
      ∀ memo ∈ made, memo.isIn (log (listed.map Memo.text)) = true ↔ memo ∈ listed := by
  intro calls made listed
  have few : calls.length ≤ 2 ^ 64 := by decide
  have finished : made.Subperm (({} : Mint).series calls) := by decide +kernel
  obtain ⟨apart, found⟩ := generated_memos_stay_apart few finished
  have unmarked : ∀ call ∈ calls, IsUndivided call.1.toList := by
    unfold IsUndivided
    decide +kernel
  exact ⟨few, finished, apart, by decide +kernel, found unmarked listed (by decide)⟩

end PayBridge.Memo
