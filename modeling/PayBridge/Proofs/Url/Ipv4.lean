import PayBridge.Proofs.Url.Domain
import PayBridge.Url.Ipv4

/-! IPv4 addresses are written as four bytes to base ten. That is one of the spellings that are read, and read as the
same address, and it is a domain for which the reader of addresses is asked. -/
namespace PayBridge.Url

open PayBridge.Text

variable {address room : Nat} {host : List Char} {labels : List (List Char)} {numbers : List Nat}

/-- A byte to base ten is read as a number to base ten: it has no zero in front. -/
theorem ipv4Number_decimal {n : Nat} (byte : n < 256) : ipv4Number (decimal n) = .value n := by
  have all : ∀ n < 256, ipv4Number (decimal n) = .value n := by decide +kernel
  exact all n byte

theorem decimal_isDigit {n : Nat} : ∀ c ∈ decimal n, c.isDigit = true := fun _ member =>
  Nat.isDigit_of_mem_toDigits (by decide) (by decide) member

def ipv4Bytes (address : Nat) : List Nat := [2 ^ 24, 2 ^ 16, 2 ^ 8, 1].map fun unit => address / unit % 256

theorem writeIpv4_eq (address : Nat) : writeIpv4 address = ['.'].intercalate ((ipv4Bytes address).map decimal) := by
  rw [writeIpv4, ipv4Bytes, List.map_map]
  rfl

theorem ipv4Bytes_lt (address : Nat) : ∀ byte ∈ ipv4Bytes address, byte < 256 := by
  intro byte member
  obtain ⟨unit, -, rfl⟩ := List.mem_map.mp member
  exact Nat.mod_lt _ (by decide)

theorem pieces_writeIpv4 (address : Nat) : pieces '.' (writeIpv4 address) = (ipv4Bytes address).map decimal := by
  rw [writeIpv4_eq]
  refine pieces_intercalate ?_ (List.cons_ne_nil _ _)
  intro label among point
  obtain ⟨n, -, rfl⟩ := List.mem_map.mp among
  exact absurd (decimal_isDigit '.' point) (by decide)

theorem ipv4Labels_writeIpv4 (address : Nat) : ipv4Labels (writeIpv4 address) = (ipv4Bytes address).map decimal := by
  have ends : ((ipv4Bytes address).map decimal).getLast? = some (decimal (address / 1 % 256)) := rfl
  have filled : (some (decimal (address / 1 % 256)) == some []) = false :=
    beq_eq_false_iff_ne.mpr fun same => Nat.toDigits_ne_nil (Option.some.inj same)
  rw [ipv4Labels, pieces_writeIpv4, ends]
  simp only [filled, Bool.false_eq_true, ↓reduceIte]

theorem ipv4Numbers?_decimal (bytes : ∀ n ∈ numbers, n < 256) : ipv4Numbers? (numbers.map decimal) = some numbers := by
  induction numbers with
  | nil => rfl
  | cons n rest ih =>
    obtain ⟨byte, bytes⟩ := List.forall_mem_cons.mp bytes
    rw [List.map_cons, ipv4Numbers?, ipv4Number_decimal byte]
    simp only [ih bytes, Option.map_some]

theorem ipv4Combine?_bytes (fits : address < 2 ^ 32) : ipv4Combine? 4 (ipv4Bytes address) = some address := by
  have high : ¬ 255 < address / 2 ^ 24 % 256 := by omega
  have second : ¬ 255 < address / 2 ^ 16 % 256 := by omega
  have third : ¬ 255 < address / 2 ^ 8 % 256 := by omega
  have low : address / 1 % 256 < 256 ^ (4 - 1 - 1 - 1) := by omega
  simp only [ipv4Bytes, List.map_cons, List.map_nil, ipv4Combine?, high, second, third, low, ↓reduceIte,
    Option.map_some, Option.some.injEq]
  omega

theorem readIpv4?_writeIpv4 (fits : address < 2 ^ 32) : readIpv4? (writeIpv4 address) = some address := by
  rw [readIpv4?, ipv4Labels_writeIpv4, ipv4Numbers?_decimal (ipv4Bytes_lt address)]
  exact ipv4Combine?_bytes fits

theorem endsInNumber_writeIpv4 (address : Nat) : endsInNumber (writeIpv4 address) = true := by
  have ends : ((ipv4Bytes address).map decimal).getLast? = some (decimal (address / 1 % 256)) := rfl
  have digits : (decimal (address / 1 % 256)).all Char.isDigit = true := List.all_eq_true.mpr decimal_isDigit
  have filled : (!(decimal (address / 1 % 256)).isEmpty) = true := by
    simpa using show decimal (address / 1 % 256) ≠ [] from Nat.toDigits_ne_nil
  rw [endsInNumber, ipv4Labels_writeIpv4, ends]
  simp only [filled, digits, Bool.and_self, Bool.true_or]

/-- Digits are in no need of being changed, and allowed in a domain. -/
theorem plain_of_isDigit {c : Char} (digit : c.isDigit = true) :
    isAscii c = true ∧ lower c = c ∧ isForbidden c = false := by
  have range := digit_range digit
  have undigital : "%#/:<>?@[\\]^|".toList.any Char.isDigit = false := by decide
  refine ⟨decide_eq_true (by omega), ?_, ?_⟩
  · rcases lower_cases c with ⟨_, same⟩ | ⟨large, _⟩
    · exact same
    · omega
  · have above : ¬ c.toNat ≤ 0x20 := by omega
    have other : c.toNat ≠ 0x7F := by omega
    have unsigned : "%#/:<>?@[\\]^|".toList.contains c = false := by
      refine Bool.eq_false_iff.mpr fun sign => ?_
      exact List.any_eq_false.mp undigital c (List.contains_iff_mem.mp sign) digit
    rw [isForbidden, unsigned, decide_eq_false above, beq_eq_false_iff_ne.mpr other]
    rfl

theorem isLabel_decimal (n : Nat) : isLabel (decimal n) = true := by
  have begins : startsWith punycodeLead (decimal n) = false := by
    refine Bool.eq_false_iff.mpr fun lead => ?_
    have first := (List.isPrefixOf_iff_prefix.mp lead).subset (by decide : 'x' ∈ punycodeLead)
    exact absurd (decimal_isDigit 'x' first) (by decide)
  rw [isLabel, begins]
  rfl

theorem writeIpv4_isDomain (address : Nat) : IsDomain (writeIpv4 address) := by
  have made : ∀ c ∈ writeIpv4 address, isAscii c = true ∧ lower c = c ∧ isForbidden c = false := by
    intro c member
    rw [writeIpv4_eq] at member
    rcases mem_of_mem_intercalate member with rfl | ⟨label, among, inside⟩
    · decide
    · obtain ⟨n, -, rfl⟩ := List.mem_map.mp among
      exact plain_of_isDigit (decimal_isDigit c inside)
  have small : lowered (writeIpv4 address) = writeIpv4 address :=
    (List.map_congr_left fun c member => (made c member).2.1).trans (List.map_id _)
  refine ⟨fun c member => (made c member).1, asciiDomain?_eq_some.mpr ⟨small, fun c member => (made c member).2.2, ?_⟩⟩
  rw [pieces_writeIpv4]
  intro label among
  obtain ⟨n, -, rfl⟩ := List.mem_map.mp among
  exact isLabel_decimal n

/-- Numbers for the bytes that are left make up an address that has room in them. -/
theorem ipv4Combine?_lt (few : numbers.length ≤ room) (combines : ipv4Combine? room numbers = some address) :
    address < 256 ^ room := by
  induction numbers generalizing room address with
  | nil => cases combines
  | cons n rest ih =>
    cases rest with
    | nil =>
      simp only [ipv4Combine?, Option.ite_none_right_eq_some, Option.some.injEq] at combines
      obtain ⟨fits, rfl⟩ := combines
      exact fits
    | cons next rest =>
      simp only [ipv4Combine?, Option.ite_none_left_eq_some] at combines
      obtain ⟨byte, combines⟩ := combines
      obtain ⟨others, read, rfl⟩ := Option.map_eq_some_iff.mp combines
      obtain ⟨left, rfl⟩ : ∃ left, room = left + 1 := ⟨room - 1, by simp at few; omega⟩
      rw [Nat.add_sub_cancel] at read ⊢
      have below := ih (Nat.le_of_succ_le_succ few) read
      rw [Nat.pow_succ]
      have most : n * 256 ^ left ≤ 255 * 256 ^ left := Nat.mul_le_mul_right _ (Nat.le_of_not_lt byte)
      omega

theorem length_ipv4Numbers? (read : ipv4Numbers? labels = some numbers) : numbers.length = labels.length := by
  induction labels generalizing numbers with
  | nil =>
    cases read
    rfl
  | cons label rest ih =>
    rw [ipv4Numbers?] at read
    split at read
    · obtain ⟨others, later, rfl⟩ := Option.map_eq_some_iff.mp read
      rw [List.length_cons, List.length_cons, ih later]
    · cases read

theorem readIpv4?_lt (read : readIpv4? host = some address) : address < 2 ^ 32 := by
  simp only [readIpv4?, Option.bind_eq_bind] at read
  split at read
  case isTrue => cases read
  case isFalse few =>
    obtain ⟨numbers, numbered, combines⟩ := Option.bind_eq_some_iff.mp read
    have length := length_ipv4Numbers? numbered
    exact ipv4Combine?_lt (by omega) combines

end PayBridge.Url
