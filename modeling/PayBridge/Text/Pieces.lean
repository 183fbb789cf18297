/-! Cutting a text: at the first mark, or at every mark. Joining the pieces with the mark gives the
text back. -/
namespace PayBridge.Text

/-- The text before the first character that is a mark, and the rest from the mark on. -/
def upTo (isMark : Char → Bool) (s : List Char) : List Char × List Char :=
  (s.takeWhile (!isMark ·), s.dropWhile (!isMark ·))

/-- The texts before and after the first `mark`, none without one. -/
def cutAt? (mark : Char) (s : List Char) : Option (List Char × List Char) :=
  match s.dropWhile (· != mark) with
  | [] => none
  | _ :: rest => some (s.takeWhile (· != mark), rest)

/-- The texts between the marks: one more than there are marks. -/
def pieces (mark : Char) : List Char → List (List Char)
  | [] => [[]]
  | c :: rest =>
    if c = mark then [] :: pieces mark rest
    else match pieces mark rest with
      | [] => [[c]]
      | first :: others => (c :: first) :: others

def startsWith (lead s : List Char) : Bool := lead.isPrefixOf s

theorem upTo_unmarked {isMark : Char → Bool} {s : List Char} (apart : ∀ c ∈ s, isMark c = false) :
    upTo isMark s = (s, []) := by
  have others : ∀ c ∈ s, (!isMark c) = true := fun c member => by rw [apart c member]; rfl
  have taken : (s ++ []).takeWhile (!isMark ·) = s ++ [].takeWhile (!isMark ·) :=
    List.takeWhile_append_of_pos others
  have dropped : (s ++ []).dropWhile (!isMark ·) = [].dropWhile (!isMark ·) :=
    List.dropWhile_append_of_pos others
  rw [List.append_nil, List.takeWhile_nil, List.append_nil] at taken
  rw [List.append_nil, List.dropWhile_nil] at dropped
  exact Prod.ext taken dropped

/-- A text is cut where the mark stands first. -/
theorem cutAt?_append {mark : Char} {before : List Char} (apart : mark ∉ before) (rest : List Char) :
    cutAt? mark (before ++ mark :: rest) = some (before, rest) := by
  have others : ∀ c ∈ before, (c != mark) = true :=
    fun c member => bne_iff_ne.mpr fun same => apart (same ▸ member)
  rw [cutAt?, List.dropWhile_append_of_pos others, List.takeWhile_append_of_pos others,
    List.dropWhile_cons_of_neg (by simp), List.takeWhile_cons_of_neg (by simp), List.append_nil]

theorem cutAt?_none {mark : Char} {s : List Char} (apart : mark ∉ s) : cutAt? mark s = none := by
  have others : ∀ c ∈ s, (c != mark) = true :=
    fun c member => bne_iff_ne.mpr fun same => apart (same ▸ member)
  have passed : (s ++ []).dropWhile (· != mark) = [].dropWhile (· != mark) :=
    List.dropWhile_append_of_pos others
  rw [List.append_nil, List.dropWhile_nil] at passed
  rw [cutAt?, passed]

theorem pieces_unmarked {mark : Char} {s : List Char} (apart : mark ∉ s) : pieces mark s = [s] := by
  induction s with
  | nil => rfl
  | cons c rest ih =>
    obtain ⟨other, later⟩ := not_or.mp (mt List.mem_cons.mpr apart)
    rw [pieces, if_neg (Ne.symm other), ih later]

/-- The first piece goes to the first mark. -/
theorem pieces_append {mark : Char} {before : List Char} (apart : mark ∉ before) (rest : List Char) :
    pieces mark (before ++ mark :: rest) = before :: pieces mark rest := by
  induction before with
  | nil => rw [List.nil_append, pieces, if_pos rfl]
  | cons c before ih =>
    obtain ⟨other, later⟩ := not_or.mp (mt List.mem_cons.mpr apart)
    rw [List.cons_append, pieces, if_neg (Ne.symm other), ih later]

/-- Texts without the mark, joined with it, are the pieces of what they make. -/
theorem pieces_intercalate {mark : Char} {parts : List (List Char)} (apart : ∀ part ∈ parts, mark ∉ part)
    (given : parts ≠ []) : pieces mark ([mark].intercalate parts) = parts := by
  induction parts with
  | nil => exact absurd rfl given
  | cons part parts ih =>
    obtain ⟨here, later⟩ := List.forall_mem_cons.mp apart
    cases parts with
    | nil => rw [List.intercalate_singleton, pieces_unmarked here]
    | cons next parts =>
      rw [List.intercalate_cons_cons, List.append_assoc, List.singleton_append, pieces_append here,
        ih later (List.cons_ne_nil _ _)]

theorem mem_of_mem_intercalate {mark c : Char} {parts : List (List Char)}
    (member : c ∈ [mark].intercalate parts) : c = mark ∨ ∃ part ∈ parts, c ∈ part := by
  induction parts with
  | nil => cases member
  | cons part parts ih =>
    cases parts with
    | nil =>
      rw [List.intercalate_singleton] at member
      exact .inr ⟨part, List.mem_cons_self, member⟩
    | cons next parts =>
      rw [List.intercalate_cons_cons, List.append_assoc, List.mem_append, List.singleton_append, List.mem_cons]
        at member
      rcases member with here | rfl | later
      · exact .inr ⟨part, List.mem_cons_self, here⟩
      · exact .inl rfl
      · exact (ih later).imp_right fun ⟨other, among, inside⟩ => ⟨other, List.mem_cons_of_mem _ among, inside⟩

end PayBridge.Text
