import PayBridge.Proofs.Text.Numeral
import PayBridge.Url.Ipv6

/-! IPv6 addresses are eight pieces of 16 bits each, however they were spelt. They are written to base sixteen, with
the longest run of zeros left out, and what is written is read as the same pieces. -/
namespace PayBridge.Url

open PayBridge.Text

def ArePieces (pieces : List Nat) : Prop := ∀ n ∈ pieces, n < 2 ^ 16

variable {s : List Char} {pieces front back : List Nat} {n : Nat} {last : Bool}

section Reading

theorem readPiece?_lt (read : readPiece? s = some n) : n < 2 ^ 16 := by
  unfold readPiece? at read
  split at read
  case isTrue => cases read
  case isFalse short =>
    calc n
      _ < 16 ^ s.length := numeral?_lt read
      _ ≤ 16 ^ 4 := Nat.pow_le_pow_right (by decide) (Nat.le_of_not_lt short)

theorem readByte?_lt (read : readByte? s = some n) : n < 256 := by
  simp only [readByte?, Option.bind_eq_bind] at read
  split at read
  · cases read
  · obtain ⟨value, -, fits⟩ := Option.bind_eq_some_iff.mp read
    simp only [Option.ite_none_right_eq_some, Option.some.injEq] at fits
    obtain ⟨below, rfl⟩ := fits
    exact below

theorem readEmbedded?_pieces (read : readEmbedded? s = some pieces) : ArePieces pieces := by
  unfold readEmbedded? at read
  split at read
  case h_2 => cases read
  case h_1 =>
    obtain ⟨a, first, read⟩ := Option.bind_eq_some_iff.mp read
    obtain ⟨b, second, read⟩ := Option.bind_eq_some_iff.mp read
    obtain ⟨c, third, read⟩ := Option.bind_eq_some_iff.mp read
    obtain ⟨d, fourth, read⟩ := Option.bind_eq_some_iff.mp read
    cases read
    have aByte := readByte?_lt first
    have bByte := readByte?_lt second
    have cByte := readByte?_lt third
    have dByte := readByte?_lt fourth
    simp only [ArePieces, List.forall_mem_cons, List.not_mem_nil, false_implies, implies_true, and_true]
    constructor <;> omega

theorem readGroups?_pieces {groups : List (List Char)} (read : readGroups? last groups = some pieces) :
    ArePieces pieces := by
  induction groups generalizing pieces with
  | nil =>
    cases read
    exact nofun
  | cons group rest ih =>
    cases rest with
    | nil =>
      rw [readGroups?] at read
      split at read
      · exact readEmbedded?_pieces read
      · obtain ⟨n, piece, rfl⟩ := Option.map_eq_some_iff.mp read
        exact List.forall_mem_singleton.mpr (readPiece?_lt piece)
    | cons next rest =>
      obtain ⟨n, piece, read⟩ := Option.bind_eq_some_iff.mp read
      obtain ⟨others, later, read⟩ := Option.bind_eq_some_iff.mp read
      cases read
      exact List.forall_mem_cons.mpr ⟨readPiece?_lt piece, ih later⟩

theorem readSide?_pieces (read : readSide? last s = some pieces) : ArePieces pieces := by
  unfold readSide? at read
  split at read
  · cases read
    exact nofun
  · exact readGroups?_pieces read

/-- What is read are eight pieces, whether zeros were left out or not. -/
theorem readIpv6?_pieces (read : readIpv6? s = some pieces) : pieces.length = 8 ∧ ArePieces pieces := by
  unfold readIpv6? at read
  split at read
  · obtain ⟨all, side, read⟩ := Option.bind_eq_some_iff.mp read
    simp only [Option.ite_none_right_eq_some, Option.some.injEq] at read
    obtain ⟨eight, rfl⟩ := read
    exact ⟨eight, readSide?_pieces side⟩
  · obtain ⟨front, before, read⟩ := Option.bind_eq_some_iff.mp read
    obtain ⟨back, after, read⟩ := Option.bind_eq_some_iff.mp read
    simp only [Option.ite_none_right_eq_some, Option.some.injEq] at read
    obtain ⟨few, rfl⟩ := read
    have zeros : ArePieces (List.replicate (8 - (front.length + back.length)) 0) := by
      intro n member
      rw [List.eq_of_mem_replicate member]
      decide
    refine ⟨?_, ?_⟩
    · simp only [List.length_append, List.length_replicate]
      omega
    · exact List.forall_mem_append.mpr
        ⟨List.forall_mem_append.mpr ⟨readSide?_pieces before, zeros⟩, readSide?_pieces after⟩

end Reading

section Writing

theorem mem_piece {c : Char} (member : c ∈ Nat.toDigits 16 n) :
    c.isDigit = true ∨ c ∈ ['a', 'b', 'c', 'd', 'e', 'f'] := by
  obtain ⟨d, below, rfl⟩ := mem_toDigits (by decide) member
  have all : ∀ d < 16, (Nat.digitChar d).isDigit = true ∨ Nat.digitChar d ∈ ['a', 'b', 'c', 'd', 'e', 'f'] := by
    decide
  exact all d below

theorem mem_writePieces {c : Char} (member : c ∈ writePieces pieces) :
    c = ':' ∨ c.isDigit = true ∨ c ∈ ['a', 'b', 'c', 'd', 'e', 'f'] := by
  rcases mem_of_mem_intercalate member with colon | ⟨piece, among, inside⟩
  · exact .inl colon
  · obtain ⟨n, -, rfl⟩ := List.mem_map.mp among
    exact .inr (mem_piece inside)

theorem mem_writeIpv6 {c : Char} (member : c ∈ writeIpv6 pieces) :
    c = ':' ∨ c.isDigit = true ∨ c ∈ ['a', 'b', 'c', 'd', 'e', 'f'] := by
  simp only [writeIpv6] at member
  split at member
  · exact mem_writePieces member
  · simp only [List.mem_append, List.mem_cons] at member
    rcases member with before | colon | colon | after
    · exact mem_writePieces before
    · exact .inl colon
    · exact .inl colon
    · exact mem_writePieces after

theorem colon_not_mem_piece (n : Nat) : ':' ∉ Nat.toDigits 16 n := fun member =>
  absurd (mem_piece member) (by decide)

theorem readPiece?_toDigits (fits : n < 2 ^ 16) : readPiece? (Nat.toDigits 16 n) = some n := by
  have short : (Nat.toDigits 16 n).length ≤ 4 := (Nat.length_toDigits_le_iff (by decide) (by decide)).mpr fits
  rw [readPiece?, if_neg (Nat.not_lt.mpr short), numeral?_toDigits (by decide) (by decide)]

theorem readGroups?_toDigits (fit : ArePieces pieces) :
    readGroups? last (pieces.map (Nat.toDigits 16)) = some pieces := by
  induction pieces with
  | nil => rfl
  | cons n rest ih =>
    obtain ⟨fits, others⟩ := List.forall_mem_cons.mp fit
    cases rest with
    | nil =>
      have pointless : (Nat.toDigits 16 n).contains '.' = false := by
        refine Bool.eq_false_iff.mpr fun point => ?_
        exact absurd (mem_piece (List.contains_iff_mem.mp point)) (by decide)
      rw [List.map_cons, List.map_nil, readGroups?, pointless, Bool.and_false, readPiece?_toDigits fits]
      rfl
    | cons next rest =>
      have later := ih others
      rw [List.map_cons] at later
      rw [List.map_cons, List.map_cons, readGroups?, readPiece?_toDigits fits, later]
      · rfl
      · nofun

theorem pieces_writePieces (given : pieces ≠ []) :
    Text.pieces ':' (writePieces pieces) = pieces.map (Nat.toDigits 16) := by
  refine pieces_intercalate ?_ (by simpa using given)
  intro group among
  obtain ⟨n, -, rfl⟩ := List.mem_map.mp among
  exact colon_not_mem_piece n

theorem writePieces_cons (n : Nat) (pieces : List Nat) :
    ∃ c rest, writePieces (n :: pieces) = c :: rest ∧ c ≠ ':' := by
  obtain ⟨c, digits, digital⟩ := List.exists_cons_of_ne_nil (Nat.toDigits_ne_nil (n := n) (b := 16))
  have other : c ≠ ':' := by
    rintro rfl
    exact colon_not_mem_piece n (digital ▸ List.mem_cons_self)
  cases pieces with
  | nil =>
    rw [writePieces, List.map_cons, List.map_nil, List.intercalate_singleton, digital]
    exact ⟨c, digits, rfl, other⟩
  | cons next rest =>
    rw [writePieces, List.map_cons, List.map_cons, List.intercalate_cons_cons, digital]
    exact ⟨c, _, rfl, other⟩

/-- Pieces are read between colons as they are written. -/
theorem readSide?_writePieces (fit : ArePieces pieces) : readSide? last (writePieces pieces) = some pieces := by
  cases pieces with
  | nil => rfl
  | cons n rest =>
    obtain ⟨c, others, begins, -⟩ := writePieces_cons n rest
    have filled : (writePieces (n :: rest)).isEmpty = false := by
      rw [begins]
      rfl
    rw [readSide?, filled, if_neg Bool.false_ne_true, pieces_writePieces (List.cons_ne_nil _ _),
      readGroups?_toDigits fit]

theorem cutAtColons?_cons {c : Char} (other : c ≠ ':') (rest : List Char) :
    cutAtColons? (c :: rest) = (cutAtColons? rest).map fun (before, after) => (c :: before, after) := by
  rw [cutAtColons?]
  rintro _ rfl
  exact absurd rfl other

/-- One colon alone does not cut. -/
theorem cutAtColons?_colon {c : Char} (other : c ≠ ':') (rest : List Char) :
    cutAtColons? (':' :: c :: rest) =
      (cutAtColons? (c :: rest)).map fun (before, after) => (':' :: before, after) := by
  rw [cutAtColons?]
  rintro _ _ same
  exact other (List.cons.inj same).1

theorem cutAtColons?_group {group : List Char} (apart : ':' ∉ group) (rest : List Char) :
    cutAtColons? (group ++ rest) = (cutAtColons? rest).map fun (before, after) => (group ++ before, after) := by
  induction group with
  | nil => simp
  | cons c group ih =>
    obtain ⟨other, later⟩ := not_or.mp (mt List.mem_cons.mpr apart)
    rw [List.cons_append, cutAtColons?_cons (Ne.symm other), ih later, Option.map_map]
    rfl

theorem cutAtColons?_writePieces (pieces : List Nat) (rest : List Char) :
    cutAtColons? (writePieces pieces ++ rest) =
      (cutAtColons? rest).map fun (before, after) => (writePieces pieces ++ before, after) := by
  induction pieces with
  | nil => simp [writePieces]
  | cons n pieces ih =>
    cases pieces with
    | nil =>
      rw [writePieces, List.map_cons, List.map_nil, List.intercalate_singleton]
      exact cutAtColons?_group (colon_not_mem_piece n) rest
    | cons next pieces =>
      obtain ⟨c, others, begins, other⟩ := writePieces_cons next pieces
      have shape : writePieces (n :: next :: pieces) = Nat.toDigits 16 n ++ ':' :: writePieces (next :: pieces) := by
        rw [writePieces, List.map_cons, List.map_cons, List.intercalate_cons_cons, List.append_assoc]
        rfl
      rw [shape, List.append_assoc, cutAtColons?_group (colon_not_mem_piece n), List.cons_append, begins,
        List.cons_append, cutAtColons?_colon other, ← List.cons_append, ← begins, ih, Option.map_map, Option.map_map]
      refine congrArg (Option.map · _) (funext fun _ => ?_)
      simp only [Function.comp_apply, List.append_assoc, List.cons_append]

end Writing

section Zeros

/-- A run of zeros in front, cut off at some length. -/
theorem eq_zeros_append {length : Nat} (zeros : length ≤ zerosInFront pieces) :
    pieces = List.replicate length 0 ++ pieces.drop length := by
  induction length generalizing pieces with
  | zero => rfl
  | succ length ih =>
    cases pieces with
    | nil => cases zeros
    | cons n rest =>
      by_cases zero : n = 0
      · subst zero
        have fewer : length + 1 ≤ zerosInFront rest + 1 := zeros
        rw [List.replicate_succ, List.cons_append, List.drop_succ_cons, ← ih (Nat.le_of_succ_le_succ fewer)]
      · have none : zerosInFront (n :: rest) = 0 := by
          rw [zerosInFront, List.takeWhile_cons_of_neg (by simpa using zero), List.length_nil]
        rw [none] at zeros
        cases zeros

theorem longestZeros_le (pieces : List Nat) :
    (longestZeros pieces).2 ≤ zerosInFront (pieces.drop (longestZeros pieces).1) := by
  unfold longestZeros
  refine List.foldlRecOn (motive := fun best : Nat × Nat => best.2 ≤ zerosInFront (pieces.drop best.1))
    (List.range pieces.length) _ (Nat.zero_le _) fun best within start _ => ?_
  simp only
  split
  · exact Nat.le_refl _
  · exact within

/-- The pieces before the run, the run, and the pieces behind it. -/
theorem longestZeros_split (pieces : List Nat) :
    pieces = pieces.take (longestZeros pieces).1 ++ List.replicate (longestZeros pieces).2 0 ++
      pieces.drop ((longestZeros pieces).1 + (longestZeros pieces).2) := by
  have behind := eq_zeros_append (longestZeros_le pieces)
  rw [List.drop_drop] at behind
  rw [List.append_assoc, ← behind, List.take_append_drop]

end Zeros

theorem readIpv6?_writeIpv6 (eight : pieces.length = 8) (fit : ArePieces pieces) :
    readIpv6? (writeIpv6 pieces) = some pieces := by
  unfold writeIpv6
  generalize shape : longestZeros pieces = run
  obtain ⟨start, length⟩ := run
  have split := longestZeros_split pieces
  rw [shape] at split
  simp only at split ⊢
  by_cases short : length < 2
  · have uncut := cutAtColons?_writePieces pieces []
    rw [List.append_nil] at uncut
    rw [if_pos short, readIpv6?, uncut]
    simp only [cutAtColons?, Option.map_none, readSide?_writePieces fit, Option.bind_eq_bind, Option.bind_some, eight,
      ↓reduceIte]
  · have before : ArePieces (pieces.take start) := fun n member => fit n (List.mem_of_mem_take member)
    have after : ArePieces (pieces.drop (start + length)) := fun n member => fit n (List.mem_of_mem_drop member)
    generalize pieces.take start = front at split before ⊢
    generalize pieces.drop (start + length) = back at split after ⊢
    have total : front.length + length + back.length = 8 := by
      rw [← eight, split, List.length_append, List.length_append, List.length_replicate]
    have few : front.length + back.length ≤ 7 := by omega
    have zeros : 8 - (front.length + back.length) = length := by omega
    rw [if_neg short, readIpv6?, cutAtColons?_writePieces front]
    simp only [cutAtColons?, Option.map_some, List.append_nil, readSide?_writePieces before,
      readSide?_writePieces after, Option.bind_eq_bind, Option.bind_some, few, ↓reduceIte, zeros, ← split]

end PayBridge.Url
