import Mathlib.Data.List.DropRight
import PayBridge.Text.Blank

/-! What trimming leaves: nothing of a text of blanks, else the text from its first character that is not blank to
its last one. Trimming again leaves it as it is. -/
namespace PayBridge.Text

variable {s : List Char} {c : Char}

theorem trimStart_append (solid : isBlank c = false) (front rest : List Char) :
    trimStart (front ++ c :: rest) = trimStart front ++ c :: rest := by
  have stops : trimStart (c :: rest) = c :: rest := List.dropWhile_cons_of_neg (by simp [solid])
  induction front with
  | nil => exact stops
  | cons d front ih =>
    cases blank : isBlank d with
    | true =>
      have drops (t : List Char) : trimStart (d :: t) = trimStart t := List.dropWhile_cons_of_pos blank
      rw [List.cons_append, drops, drops, ih]
    | false =>
      have keeps (t : List Char) : trimStart (d :: t) = d :: t := List.dropWhile_cons_of_neg (by simp [blank])
      rw [List.cons_append, keeps, keeps, List.cons_append]

/-- Trimming the end is trimming the start of the text read backwards. -/
theorem trimEnd_append (solid : isBlank c = false) (front rest : List Char) :
    trimEnd (front ++ c :: rest) = front ++ c :: trimEnd rest := by
  have backwards : (front ++ c :: rest).reverse = rest.reverse ++ c :: front.reverse := by
    rw [List.reverse_append, List.reverse_cons, List.append_assoc, List.singleton_append]
  have trimmed : ((front ++ c :: rest).reverse).dropWhile isBlank = trimStart rest.reverse ++ c :: front.reverse := by
    rw [backwards]
    exact trimStart_append solid rest.reverse front.reverse
  rw [trimEnd, trimmed, List.reverse_append, List.reverse_cons, List.reverse_reverse, List.append_assoc,
    List.singleton_append]
  rfl

theorem trim_append (solid : isBlank c = false) (front rest : List Char) :
    trim (front ++ c :: rest) = trimStart front ++ c :: trimEnd rest := by
  rw [trim, trimStart_append solid, trimEnd_append solid]

theorem trim_isInfix (s : List Char) : trim s <:+: s :=
  (List.rdropWhile_prefix isBlank (trimStart s)).isInfix.trans (List.dropWhile_suffix isBlank).isInfix

/-- A text is all blank, or it has a first character that is not. -/
theorem blank_or_solid (s : List Char) : (∀ c ∈ s, isBlank c = true) ∨
    ∃ front c rest, s = front ++ c :: rest ∧ isBlank c = false ∧ ∀ d ∈ front, isBlank d = true := by
  induction s with
  | nil => exact .inl nofun
  | cons c rest ih =>
    cases blank : isBlank c with
    | false => exact .inr ⟨[], c, rest, rfl, blank, nofun⟩
    | true =>
      rcases ih with blanks | ⟨front, d, others, rfl, solid, blanks⟩
      · exact .inl (List.forall_mem_cons.mpr ⟨blank, blanks⟩)
      · exact .inr ⟨c :: front, d, others, rfl, solid, List.forall_mem_cons.mpr ⟨blank, blanks⟩⟩

theorem trimStart_blanks (blanks : ∀ c ∈ s, isBlank c = true) : trimStart s = [] :=
  List.dropWhile_eq_nil_iff.mpr blanks

theorem trim_eq_nil_iff : trim s = [] ↔ ∀ c ∈ s, isBlank c = true := by
  rcases blank_or_solid s with blanks | ⟨front, c, rest, rfl, solid, _⟩
  · rw [trim, trimStart_blanks blanks]
    exact ⟨fun _ => blanks, fun _ => rfl⟩
  · rw [trim_append solid]
    refine ⟨fun none => by simp at none, fun blanks => ?_⟩
    have blank := blanks c (List.mem_append_right _ List.mem_cons_self)
    exact absurd (blank.symm.trans solid) (by decide)

theorem trimStart_trimEnd (s : List Char) : trimStart (trimEnd s) = trim s := by
  rcases blank_or_solid s with blanks | ⟨front, c, rest, rfl, solid, _⟩
  · have none : trimEnd s = [] := List.rdropWhile_eq_nil_iff.mpr blanks
    rw [none, trim_eq_nil_iff.mpr blanks]
    rfl
  · rw [trim_append solid, trimEnd_append solid, trimStart_append solid]

theorem trim_trim (s : List Char) : trim (trim s) = trim s := by
  rcases blank_or_solid s with blanks | ⟨front, c, rest, rfl, solid, blanks⟩
  · rw [trim_eq_nil_iff.mpr blanks]
    rfl
  · have twice : trimEnd (trimEnd rest) = trimEnd rest := List.rdropWhile_idempotent isBlank rest
    rw [trim_append solid, trimStart_blanks blanks, trim_append solid, twice]
    rfl

theorem trimmed_trimmed (s : String) : trimmed (trimmed s) = trimmed s := by
  rw [trimmed, trimmed, String.toList_ofList, trim_trim]

end PayBridge.Text
