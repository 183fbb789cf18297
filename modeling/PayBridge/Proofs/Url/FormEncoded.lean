import PayBridge.Proofs.Url.Rootless
import PayBridge.Url.FormEncoded

/-! A query is decoded to the names and values it was encoded from, whatever characters they have. What is encoded
holds only plain characters, pluses and percent signs, so no text can end its value or begin another pair. -/
namespace PayBridge.Url

open PayBridge.Text

theorem hexValue?_hexDigit {n : Nat} (below : n < 16) : hexValue? (hexDigit n) = some n := by
  have all : ∀ n < 16, hexValue? (hexDigit n) = some n := by decide
  exact all n below

theorem percentDecode_percentByte (b : UInt8) (rest : List Char) :
    percentDecode (percentByte b ++ rest) = b :: percentDecode rest := by
  have bound : b.toNat < 256 := b.toNat_lt
  have high := hexValue?_hexDigit (n := b.toNat / 16) (by omega)
  have low := hexValue?_hexDigit (n := b.toNat % 16) (by omega)
  change percentDecode ('%' :: hexDigit (b.toNat / 16) :: hexDigit (b.toNat % 16) :: rest) = _
  rw [percentDecode, high, low]
  simp only [Nat.div_add_mod, UInt8.ofNat_toNat]

theorem percentDecode_bytes (bytes : List UInt8) (rest : List Char) :
    percentDecode (bytes.flatMap percentByte ++ rest) = bytes ++ percentDecode rest := by
  induction bytes with
  | nil => rfl
  | cons b bytes ih =>
    rw [List.flatMap_cons, List.append_assoc, percentDecode_percentByte, ih]
    rfl

theorem percentDecode_cons {c : Char} (other : c ≠ '%') (rest : List Char) :
    percentDecode (c :: rest) = String.utf8EncodeChar c ++ percentDecode rest := by
  rw [percentDecode]
  rintro a b others rfl
  exact absurd rfl other

namespace FormEncoded

def IsEncoded (c : Char) : Prop := isPlain c = true ∨ c = '+' ∨ c = '%'

instance (c : Char) : Decidable (IsEncoded c) := inferInstanceAs (Decidable (_ ∨ _))

theorem isPlain_hexDigit {n : Nat} (below : n < 16) : isPlain (hexDigit n) = true := by
  have all : ∀ n < 16, isPlain (hexDigit n) = true := by decide
  exact all n below

theorem mem_percentByte {b : UInt8} {c : Char} (member : c ∈ percentByte b) : c = '%' ∨ isPlain c = true := by
  have bound : b.toNat < 256 := b.toNat_lt
  simp only [percentByte, List.mem_cons, List.not_mem_nil, or_false] at member
  rcases member with rfl | rfl | rfl
  · exact .inl rfl
  · exact .inr (isPlain_hexDigit (by omega))
  · exact .inr (isPlain_hexDigit (by omega))

theorem mem_encodeText {s : String} {c : Char} (member : c ∈ encodeText s) : IsEncoded c := by
  obtain ⟨d, -, inside⟩ := List.mem_flatMap.mp member
  unfold encodeCharacter at inside
  split at inside
  case isTrue plain =>
    rw [List.mem_singleton.mp inside]
    exact .inl plain
  case isFalse =>
    split at inside
    case isTrue => exact .inr (.inl (List.mem_singleton.mp inside))
    case isFalse =>
      obtain ⟨b, -, inByte⟩ := List.mem_flatMap.mp inside
      rcases mem_percentByte inByte with percent | plain
      · exact .inr (.inr percent)
      · exact .inl plain

def spaced (s : List Char) : List Char := s.map fun c => if c = '+' then ' ' else c

theorem spaced_of_not_mem {s : List Char} (apart : '+' ∉ s) : spaced s = s := by
  refine (List.map_congr_left fun c member => if_neg ?_).trans (List.map_id s)
  rintro rfl
  exact apart member

theorem percentDecode_encodeCharacter (c : Char) (rest : List Char) :
    percentDecode (spaced (encodeCharacter c) ++ rest) = String.utf8EncodeChar c ++ percentDecode rest := by
  unfold encodeCharacter
  by_cases plain : isPlain c = true
  · rw [if_pos plain, spaced_of_not_mem, List.singleton_append, percentDecode_cons]
    · rintro rfl
      exact absurd plain (by decide)
    · intro plus
      rw [← List.mem_singleton.mp plus] at plain
      exact absurd plain (by decide)
  · rw [if_neg plain]
    by_cases space : c = ' '
    · subst space
      exact percentDecode_cons (by decide) rest
    · rw [if_neg space, spaced_of_not_mem, percentDecode_bytes]
      intro plus
      obtain ⟨b, -, inByte⟩ := List.mem_flatMap.mp plus
      exact absurd (mem_percentByte inByte) (by decide)

theorem percentDecode_encodeText (s : String) : percentDecode (spaced (encodeText s)) = utf8 s.toList := by
  unfold encodeText utf8
  induction s.toList with
  | nil => rfl
  | cons c rest ih =>
    rw [List.flatMap_cons, List.flatMap_cons, spaced, List.map_append]
    exact (percentDecode_encodeCharacter c _).trans (congrArg _ ih)

theorem decodeText?_encodeText (s : String) : decodeText? (encodeText s) = some s := by
  have bytes := percentDecode_encodeText s
  rw [spaced] at bytes
  rw [decodeText?, bytes, ofUtf8?_utf8, Option.map_some, String.ofList_toList]

theorem decodePair?_encodePair (pair : String × String) : decodePair? (encodePair pair) = some pair := by
  have apart : '=' ∉ encodeText pair.1 := fun member => absurd (mem_encodeText member) (by decide)
  have cut := cutAt?_append apart (encodeText pair.2)
  rw [decodePair?, encodePair, cut]
  simp only [Option.getD_some, decodeText?_encodeText, Option.bind_eq_bind, Option.bind_some]

theorem mem_encodePair {pair : String × String} {c : Char} (member : c ∈ encodePair pair) : IsEncoded c ∨ c = '=' := by
  rw [encodePair, List.mem_append, List.mem_cons] at member
  rcases member with inName | equality | inValue
  · exact .inl (mem_encodeText inName)
  · exact .inr equality
  · exact .inl (mem_encodeText inValue)

theorem mem_encode {pairs : List (String × String)} {c : Char} (member : c ∈ encode pairs) :
    IsEncoded c ∨ c = '=' ∨ c = '&' := by
  rcases mem_of_mem_intercalate member with ampersand | ⟨_, among, inside⟩
  · exact .inr (.inr ampersand)
  · obtain ⟨pair, -, rfl⟩ := List.mem_map.mp among
    exact (mem_encodePair inside).imp_right .inl

theorem IsEncoded.isVisible {c : Char} (encoded : IsEncoded c) : IsVisible c := by
  simp only [IsEncoded, isPlain, Bool.or_eq_true, beq_iff_eq] at encoded
  rcases encoded with ((((alphanumeric | rfl) | rfl) | rfl) | rfl) | rfl | rfl
  · exact isVisible_of_isAlphanumeric alphanumeric
  all_goals exact ⟨by decide, by decide⟩

/-- A query is written in visible characters, and never ends in a fragment. -/
theorem encode_isVisible (pairs : List (String × String)) : (∀ c ∈ encode pairs, IsVisible c) ∧ '#' ∉ encode pairs := by
  constructor
  · intro c member
    rcases mem_encode member with encoded | rfl | rfl
    · exact encoded.isVisible
    all_goals exact ⟨by decide, by decide⟩
  · intro member
    exact absurd (mem_encode member) (by decide)

/-- What is encoded is decoded to the same pairs, in the same order. -/
theorem decode?_encode (pairs : List (String × String)) : decode? (encode pairs) = some pairs := by
  have decoded : (pairs.map encodePair).mapM decodePair? = some pairs := by
    have each : decodePair? ∘ encodePair = fun pair => pure (id pair) := funext decodePair?_encodePair
    rw [List.mapM_map, each, List.mapM_pure, List.map_id]
    rfl
  cases pairs with
  | nil => rfl
  | cons first others =>
    have apart : ∀ part ∈ (first :: others).map encodePair, '&' ∉ part := by
      intro part member mark
      obtain ⟨pair, -, rfl⟩ := List.mem_map.mp member
      rcases mem_encodePair mark with encoded | equality
      · exact absurd encoded (by decide)
      · exact absurd equality (by decide)
    have filled : ∀ part ∈ (first :: others).map encodePair, (!part.isEmpty) = true := by
      intro part member
      obtain ⟨pair, -, rfl⟩ := List.mem_map.mp member
      simp [encodePair]
    rw [decode?, encode, pieces_intercalate apart (List.cons_ne_nil _ _), List.filter_eq_self.mpr filled, decoded]

end FormEncoded
end PayBridge.Url
