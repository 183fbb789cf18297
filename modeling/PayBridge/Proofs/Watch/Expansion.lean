import PayBridge.Watch.Expansion

/-! Expanding changes a text only where a reference is resolved. A text that is put together from plain pieces and
references with a name is expanded piece by piece: no piece takes a character of the next one, and a value is not read
again. Where nothing is resolved, any text comes out as it is, however its marks and braces stand. -/
namespace PayBridge.Watch

variable {lookup : Lookup} {name rest text : List Char} {c : Char}

def IsWordCharacter (c : Char) : Prop := c.isAlphanum = true ∨ c = '_'

instance : DecidablePred IsWordCharacter := fun _ => inferInstanceAs (Decidable (_ ∨ _))

theorem isNameCharacter_iff : isNameCharacter c = true ↔ IsWordCharacter c := by
  rw [isNameCharacter, Bool.or_eq_true, beq_iff_eq]
  rfl

/-- A piece of a text: characters that stand for themselves, or a reference by a name. -/
inductive Segment where
  | literal (text : List Char)
  | bare (name : List Char)
  | braced (name : List Char)
  deriving DecidableEq, Repr

namespace Segment

def written : Segment → List Char
  | .literal text => text
  | .bare name => '$' :: name
  | .braced name => '$' :: '\x7b' :: name ++ ['\x7d']

def name? : Segment → Option String
  | .literal _ => none
  | .bare name | .braced name => some (String.ofList name)

/-- What a piece becomes: the value that its name has, or itself. -/
def expanded (lookup : Lookup) (segment : Segment) : List Char :=
  ((segment.name?.bind lookup).map String.toList).getD segment.written

/-- A piece is written so that it is told apart in front of `rest`. -/
def IsProper (rest : List Char) : Segment → Prop
  | .literal text => '$' ∉ text
  | .bare name => name ≠ [] ∧ (∀ c ∈ name, IsWordCharacter c) ∧ ∀ c ∈ rest.head?, ¬ IsWordCharacter c
  | .braced name => name ≠ [] ∧ '\x7d' ∉ name

/-- Only the characters at hand are looked at, not all that there are. -/
instance (rest : List Char) : DecidablePred (IsProper rest)
  | .literal _ => inferInstanceAs (Decidable (_ ∉ _))
  | .bare name =>
    have : Decidable (∀ c ∈ name, IsWordCharacter c) := List.decidableBAll _ name
    have : Decidable (∀ c ∈ rest.head?, ¬ IsWordCharacter c) := Option.decidableForallMem rest.head?
    inferInstanceAs (Decidable (_ ∧ _))
  | .braced _ => inferInstanceAs (Decidable (_ ∧ _))

/-- Every piece is proper in front of those behind it. -/
def AreProper : List Segment → Prop
  | [] => True
  | segment :: rest => segment.IsProper (rest.flatMap written) ∧ AreProper rest

instance decidableAreProper : DecidablePred AreProper
  | [] => isTrue trivial
  | _ :: rest =>
    have := decidableAreProper rest
    inferInstanceAs (Decidable (_ ∧ _))

end Segment

namespace Reference

/-- A name without braces ends where its characters end. -/
theorem read_bare (named : name ≠ []) (inside : ∀ c ∈ name, IsWordCharacter c)
    (ends : ∀ c ∈ rest.head?, ¬ IsWordCharacter c) : read (name ++ rest) = (.bare name, rest) := by
  have inside : ∀ c ∈ name, isNameCharacter c = true := fun c member => isNameCharacter_iff.mpr (inside c member)
  have ends : ∀ c ∈ rest.head?, ¬ isNameCharacter c = true :=
    fun c first => mt isNameCharacter_iff.mp (ends c first)
  have taken : (name ++ rest).takeWhile isNameCharacter = name := by
    rw [List.takeWhile_append_of_pos inside]
    cases rest with
    | nil => exact List.append_nil name
    | cons c rest => rw [List.takeWhile_cons_of_neg (ends c rfl), List.append_nil]
  have dropped : (name ++ rest).dropWhile isNameCharacter = rest := by
    rw [List.dropWhile_append_of_pos inside]
    cases rest with
    | nil => rfl
    | cons c rest => exact List.dropWhile_cons_of_neg (ends c rfl)
  unfold read
  split
  case h_1 after opens =>
    -- a brace is no character of a name
    cases name with
    | nil => exact absurd rfl named
    | cons c name =>
      obtain ⟨rfl, -⟩ := List.cons.inj opens
      exact absurd (inside _ List.mem_cons_self) (by decide)
  case h_2 => rw [taken, dropped]

/-- A name in braces ends at the first brace that closes. -/
theorem read_braced (apart : '\x7d' ∉ name) (rest : List Char) :
    read ('\x7b' :: (name ++ '\x7d' :: rest)) = (.braced name, rest) := by
  have others : ∀ c ∈ name, (c != '\x7d') = true :=
    fun c member => bne_iff_ne.mpr (ne_of_mem_of_not_mem member apart)
  have taken : (name ++ '\x7d' :: rest).takeWhile (· != '\x7d') = name := by
    rw [List.takeWhile_append_of_pos others, List.takeWhile_cons_of_neg (by decide), List.append_nil]
  have dropped : (name ++ '\x7d' :: rest).dropWhile (· != '\x7d') = '\x7d' :: rest := by
    rw [List.dropWhile_append_of_pos others, List.dropWhile_cons_of_neg (by decide)]
  simp only [read, dropped, taken]

/-- No character is lost by reading a reference. -/
theorem written_read (s : List Char) : (read s).1.written ++ (read s).2 = '$' :: s := by
  unfold read
  split
  case h_1 inner =>
    have parts : inner.takeWhile (· != '\x7d') ++ inner.dropWhile (· != '\x7d') = inner :=
      List.takeWhile_append_dropWhile
    split
    case h_1 => exact List.append_nil _
    case h_2 brace after closed =>
      have stops := List.head?_dropWhile_not (· != '\x7d') inner
      rw [closed, List.head?_cons] at stops
      obtain rfl : brace = '\x7d' := bne_eq_false_iff_eq.mp stops
      rw [closed] at parts
      change '$' :: '\x7b' :: (inner.takeWhile (· != '\x7d') ++ ['\x7d'] ++ after) = _
      rw [List.append_assoc, List.singleton_append, parts]
  case h_2 => exact congrArg ('$' :: ·) List.takeWhile_append_dropWhile

theorem resolved_named (reference : Reference) (named : reference.name ≠ []) :
    reference.resolved lookup = ((lookup (String.ofList reference.name)).map String.toList).getD reference.written := by
  have given : reference.name.isEmpty = false := List.isEmpty_eq_false_iff.mpr named
  rw [resolved, value?, given, if_neg Bool.false_ne_true]

theorem resolved_unresolved (unresolved : ∀ name, name ≠ "" → lookup name = none) (reference : Reference) :
    reference.resolved lookup = reference.written := by
  cases unnamed : reference.name with
  | nil =>
    rw [resolved, value?, unnamed]
    rfl
  | cons c name =>
    have named : reference.name ≠ [] := by simp [unnamed]
    have given : String.ofList reference.name ≠ "" := fun empty => named (String.ofList_eq_empty_iff.mp empty)
    rw [resolved_named reference named, unresolved _ given]
    rfl

end Reference

theorem expandCharacters_mark (lookup : Lookup) (s : List Char) : expandCharacters lookup ('$' :: s) =
    (Reference.read s).1.resolved lookup ++ expandCharacters lookup (Reference.read s).2 := by
  rw [expandCharacters, if_pos rfl]

theorem expandCharacters_literal (apart : '$' ∉ text) (rest : List Char) :
    expandCharacters lookup (text ++ rest) = text ++ expandCharacters lookup rest := by
  induction text with
  | nil => rfl
  | cons c text ih =>
    have other : c ≠ '$' := (List.ne_of_not_mem_cons apart).symm
    rw [List.cons_append, expandCharacters, if_neg other, ih (List.not_mem_of_not_mem_cons apart), List.cons_append]

theorem expandCharacters_unresolved (unresolved : ∀ name, name ≠ "" → lookup name = none) (s : List Char) :
    expandCharacters lookup s = s := by
  induction s using expandCharacters.induct with
  | case1 => rw [expandCharacters]
  | case2 rest found ih =>
    rw [expandCharacters_mark, Reference.resolved_unresolved unresolved, ih, Reference.written_read]
  | case3 c rest other ih => rw [expandCharacters, if_neg other, ih]

namespace Segment

/-- A piece is expanded by itself, whatever is behind it. -/
theorem IsProper.expandCharacters_append {segment : Segment} (proper : segment.IsProper rest) (lookup : Lookup) :
    expandCharacters lookup (segment.written ++ rest) = segment.expanded lookup ++ expandCharacters lookup rest := by
  cases segment with
  | literal text => exact expandCharacters_literal proper rest
  | bare name =>
    obtain ⟨named, inside, ends⟩ := proper
    rw [written, List.cons_append, expandCharacters_mark, Reference.read_bare named inside ends,
      Reference.resolved_named (.bare name) named]
    rfl
  | braced name =>
    obtain ⟨named, apart⟩ := proper
    have closes : (braced name).written ++ rest = '$' :: '\x7b' :: (name ++ '\x7d' :: rest) := by
      simp only [written, List.cons_append, List.append_assoc, List.nil_append]
    rw [closes, expandCharacters_mark, Reference.read_braced apart,
      Reference.resolved_named (.braced name) named]
    rfl

theorem AreProper.expandCharacters_flatMap {segments : List Segment} (proper : AreProper segments) (lookup : Lookup) :
    expandCharacters lookup (segments.flatMap written) = segments.flatMap (expanded lookup) := by
  induction segments with
  | nil => rw [List.flatMap_nil, List.flatMap_nil, expandCharacters]
  | cons segment rest ih =>
    obtain ⟨first, proper⟩ := proper
    rw [List.flatMap_cons, List.flatMap_cons, first.expandCharacters_append, ih proper]

end Segment

/-- Of a text in pieces just the references that have a value change, each into its value as it is. All else stays as
it is written, and so does every text where no name has a value. -/
theorem expanding_changes_resolved_references_only (lookup : Lookup) :
    (∀ segments, Segment.AreProper segments →
      expand lookup (String.ofList (segments.flatMap Segment.written)) =
        String.ofList (segments.flatMap (Segment.expanded lookup))) ∧
    ((∀ name, name ≠ "" → lookup name = none) → ∀ text, expand lookup text = text) := by
  constructor
  · intro segments proper
    rw [expand, String.toList_ofList, proper.expandCharacters_flatMap]
  · intro unresolved text
    rw [expand, expandCharacters_unresolved unresolved, String.ofList_toList]

/-- A value with a mark in it, a name in braces that no word is, names without a value, and marks without a name, also
where the empty name has a value. -/
theorem odd_references_are_expanded_in_place :
    let lookup : Lookup := fun name =>
      if name = "WHO" then some "$WHO_1" else if name = "a $b" then some "" else none
    let nameless : Lookup := fun name => if name = "" then some "value" else none
    let segments : List Segment := [.literal "é=".toList, .bare "WHO".toList, .braced "a $b".toList,
      .literal "-".toList, .bare "GONE".toList, .braced "GO\x7bNE".toList, .literal "_1".toList]
    Segment.AreProper segments ∧
      expand lookup "é=$WHO$\x7ba $b\x7d-$GONE$\x7bGO\x7bNE\x7d_1" = "é=$WHO_1-$GONE$\x7bGO\x7bNE\x7d_1" ∧
      (∀ name, name ≠ "" → nameless name = none) ∧
      expand nameless "5$ $\x7b\x7d $\x7bWHO $" = "5$ $\x7b\x7d $\x7bWHO $" := by
  intro lookup nameless segments
  have proper : Segment.AreProper segments := by decide +kernel
  have unresolved : ∀ name, name ≠ "" → nameless name = none := fun name given => if_neg given
  refine ⟨proper, ?_, unresolved, (expanding_changes_resolved_references_only nameless).2 unresolved _⟩
  have expanded := (expanding_changes_resolved_references_only lookup).1 segments proper
  have before : String.ofList (segments.flatMap Segment.written) = "é=$WHO$\x7ba $b\x7d-$GONE$\x7bGO\x7bNE\x7d_1" := by
    decide +kernel
  have after : String.ofList (segments.flatMap (Segment.expanded lookup)) = "é=$WHO_1-$GONE$\x7bGO\x7bNE\x7d_1" := by
    decide +kernel
  rwa [before, after] at expanded

end PayBridge.Watch
