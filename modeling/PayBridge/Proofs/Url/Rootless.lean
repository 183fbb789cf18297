import PayBridge.Proofs.Decimal.Text
import PayBridge.Url.Rootless

/-! Rootless addresses are read back as they are written, where path and query are of visible characters. -/
namespace PayBridge.Url

open PayBridge.Text

/-- A character that is written as it is: printable, of ASCII, and no blank. -/
def IsVisible (c : Char) : Prop := 0x20 < c.toNat ∧ c.toNat < 0x7F

variable {s : List Char} {c : Char}

theorem IsVisible.not_isMargin (visible : IsVisible c) : isMargin c = false :=
  decide_eq_false (Nat.not_le.mpr visible.1)

theorem IsVisible.not_isBreak (visible : IsVisible c) : isBreak c = false := by
  have apart (d : Char) (blank : d.toNat ≤ 0x20) : (c == d) = false :=
    beq_eq_false_iff_ne.mpr fun same => absurd visible.1 (Nat.not_lt.mpr (same ▸ blank))
  rw [isBreak, apart '\t' (by decide), apart '\n' (by decide), apart '\r' (by decide)]
  rfl

theorem IsVisible.pathCharacter (visible : IsVisible c) : pathCharacter c = [c] := by
  have kept : (0x20 ≤ c.toNat && c.toNat < 0x7F) = true := by
    simp only [Bool.and_eq_true, decide_eq_true_eq]
    exact ⟨Nat.le_of_lt visible.1, visible.2⟩
  rw [Url.pathCharacter, if_pos kept]

theorem IsVisible.not_isBlank (visible : IsVisible c) : isBlank c = false := by
  obtain ⟨above, below⟩ := visible
  simp only [isBlank, Bool.or_eq_false_iff, Bool.and_eq_false_imp, decide_eq_true_eq, decide_eq_false_iff_not,
    beq_eq_false_iff_ne]
  omega

theorem upper_range (upper : c.isUpper = true) : 65 ≤ c.toNat ∧ c.toNat ≤ 90 :=
  of_decide_eq_true upper

theorem lower_range (small : c.isLower = true) : 97 ≤ c.toNat ∧ c.toNat ≤ 122 := by
  have range : (decide ('a'.val ≤ c.val) && decide (c.val ≤ 'z'.val)) = true := small
  rw [Bool.and_eq_true, decide_eq_true_eq, decide_eq_true_eq] at range
  exact range

theorem isAlphanumeric_of_isLower (small : c.isLower = true) : isAlphanumeric c = true := by
  have alpha : (c.isUpper || c.isLower) = true := by rw [small, Bool.or_true]
  exact Bool.or_eq_true_iff.mpr (.inl alpha)

theorem isVisible_of_isAlphanumeric (alphanumeric : isAlphanumeric c = true) : IsVisible c := by
  have kinds : ((c.isUpper || c.isLower) || c.isDigit) = true := alphanumeric
  rw [Bool.or_eq_true, Bool.or_eq_true] at kinds
  rw [IsVisible]
  rcases kinds with (upper | small) | digit
  · have range := upper_range upper
    omega
  · have range := lower_range small
    omega
  · have range := digit_range digit
    omega

theorem cleaned_visible (visible : ∀ c ∈ s, IsVisible c) : cleaned s = s := by
  have kept (t : List Char) (inside : ∀ c ∈ t, c ∈ s) : t.dropWhile isMargin = t := by
    cases t with
    | nil => rfl
    | cons c rest =>
      have first := (visible c (inside c List.mem_cons_self)).not_isMargin
      exact List.dropWhile_cons_of_neg (by rw [first]; decide)
  rw [cleaned, kept s fun _ => id, kept s.reverse fun _ => List.mem_reverse.mp, List.reverse_reverse]
  exact List.filter_eq_self.mpr fun c member => by rw [(visible c member).not_isBreak]; rfl

theorem lower_of_isLower (small : c.isLower = true) : lower c = c := by
  refine dif_neg fun large => ?_
  have below : c.toNat ≤ 90 := large.2
  have range := lower_range small
  omega

theorem splitScheme?_append {scheme : List Char} (letters : ∀ c ∈ scheme, c.isLower = true) (named : scheme ≠ [])
    (rest : List Char) : splitScheme? (scheme ++ ':' :: rest) = some (scheme, rest) := by
  have kept : ∀ c ∈ scheme, isSchemeCharacter c = true := fun c member => by
    simp only [isSchemeCharacter, isAlphanumeric_of_isLower (letters c member), Bool.true_or]
  have small : lowered scheme = scheme :=
    (List.map_congr_left fun c member => lower_of_isLower (letters c member)).trans (List.map_id scheme)
  obtain ⟨first, more, rfl⟩ := List.exists_cons_of_ne_nil named
  have alpha : first.isAlpha = true := Bool.or_eq_true_iff.mpr (.inr (letters first List.mem_cons_self))
  rw [splitScheme?, List.takeWhile_append_of_pos kept, List.dropWhile_append_of_pos kept,
    List.takeWhile_cons_of_neg (by decide), List.dropWhile_cons_of_neg (by decide), List.append_nil]
  simp only [alpha, ↓reduceIte, small]

theorem upTo_mark {isMark : Char → Bool} {behind : List Char} (unmarked : ∀ c ∈ s, isMark c = false)
    (marked : ∀ c ∈ behind.head?, isMark c = true) : upTo isMark (s ++ behind) = (s, behind) := by
  have kept : ∀ c ∈ s, (!isMark c) = true := fun c member => by rw [unmarked c member]; rfl
  rw [upTo, List.takeWhile_append_of_pos kept, List.dropWhile_append_of_pos kept]
  cases behind with
  | nil => simp
  | cons c rest =>
    have stop : (!isMark c) ≠ true := by simp [marked c rfl]
    rw [List.takeWhile_cons, List.dropWhile_cons, if_neg stop, if_neg stop, List.append_nil]

theorem rootlessPath?_append {path behind : List Char} (plain : ∀ c ∈ path, isAlphanumeric c = true)
    (closed : ∀ c ∈ behind.head?, c = '?') : rootlessPath? (path ++ behind) = some path := by
  have unmarked : ∀ c ∈ path, (c == '?' || c == '#') = false := by
    intro c member
    rw [Bool.or_eq_false_iff, beq_eq_false_iff_ne, beq_eq_false_iff_ne]
    constructor <;> rintro rfl <;> exact absurd (plain _ member) (by decide)
  have cut : upTo (fun c => c == '?' || c == '#') (path ++ behind) = (path, behind) :=
    upTo_mark unmarked fun c first => by rw [closed c first]; rfl
  have kept : path.flatMap pathCharacter = path := by
    have each : path.map pathCharacter = path.map fun c => [c] :=
      List.map_congr_left fun c member => (isVisible_of_isAlphanumeric (plain c member)).pathCharacter
    rw [List.flatMap_def, each, ← List.flatMap_def, List.flatMap_singleton']
  rw [rootlessPath?, cut, kept]
  rintro rest slash
  cases path with
  | nil =>
    rw [List.nil_append] at slash
    exact absurd (closed '/' (by rw [slash]; rfl)) (by decide)
  | cons c path =>
    obtain rfl := (List.cons.inj slash).1
    exact absurd (plain _ List.mem_cons_self) (by decide)

/-- A scheme of small letters and a path of letters and digits are read as they are, with or without a query. -/
theorem Rootless.read?_append {scheme path behind : List Char} (letters : ∀ c ∈ scheme, c.isLower = true)
    (named : scheme ≠ []) (plain : ∀ c ∈ path, isAlphanumeric c = true) (visible : ∀ c ∈ behind, IsVisible c)
    (closed : ∀ c ∈ behind.head?, c = '?') :
    Rootless.read? (scheme ++ ':' :: (path ++ behind)) = some ⟨scheme, path⟩ := by
  have clean : ∀ c ∈ scheme ++ ':' :: (path ++ behind), IsVisible c := by
    simp only [List.mem_append, List.mem_cons]
    rintro c (inScheme | rfl | inPath | inQuery)
    · exact isVisible_of_isAlphanumeric (isAlphanumeric_of_isLower (letters c inScheme))
    · exact ⟨by decide, by decide⟩
    · exact isVisible_of_isAlphanumeric (plain c inPath)
    · exact visible c inQuery
  rw [Rootless.read?, cleaned_visible clean, splitScheme?_append letters named]
  simp only [Option.bind_eq_bind, Option.bind_some, rootlessPath?_append plain closed]

end PayBridge.Url
