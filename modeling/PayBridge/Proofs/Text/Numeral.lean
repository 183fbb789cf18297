import PayBridge.Word

/-! Numbers to a base of sixteen at most. What is written is read as the same number, and what is read keeps to the
room that its digits have. -/
namespace PayBridge.Text

variable {base n : Nat} {s : List Char} {c : Char}

theorem hexValue?_digitChar {d : Nat} (below : d < 16) : hexValue? d.digitChar = some d := by
  have all : ∀ d < 16, hexValue? (Nat.digitChar d) = some d := by decide
  exact all d below

/-- The value of some digits and one more behind them. -/
def appendDigit (base value : Nat) (c : Char) : Option Nat := do
  let digit ← hexValue? c
  if digit < base then some (value * base + digit) else none

theorem numeral?_eq_foldlM (given : s ≠ []) : numeral? base s = s.foldlM (appendDigit base) 0 := by
  unfold numeral?
  split
  · exact absurd rfl given
  · rfl

theorem appendDigit_digitChar {d value : Nat} (below : d < base) (least : base ≤ 16) :
    appendDigit base value d.digitChar = some (value * base + d) := by
  rw [appendDigit, hexValue?_digitChar (Nat.lt_of_lt_of_le below least), Option.bind_eq_bind, Option.bind_some,
    if_pos below]

theorem numeral?_toDigits (proper : 1 < base) (least : base ≤ 16) (n : Nat) :
    numeral? base (Nat.toDigits base n) = some n := by
  induction n using Nat.strongRecOn with
  | ind n ih =>
    rw [numeral?_eq_foldlM Nat.toDigits_ne_nil]
    by_cases small : n < base
    · rw [Nat.toDigits_of_lt_base small, List.foldlM_cons, appendDigit_digitChar small least]
      simp only [Option.bind_eq_bind, Option.bind_some, List.foldlM_nil, Nat.zero_mul, Nat.zero_add]
      rfl
    · have large := Nat.le_of_not_lt small
      have shorter : n / base < n :=
        Nat.div_lt_self (Nat.lt_of_lt_of_le (Nat.lt_trans Nat.zero_lt_one proper) large) proper
      have front := ih (n / base) shorter
      rw [numeral?_eq_foldlM Nat.toDigits_ne_nil] at front
      have last : appendDigit base (n / base) (n % base).digitChar = some (n / base * base + n % base) :=
        appendDigit_digitChar (Nat.mod_lt n (Nat.lt_trans Nat.zero_lt_one proper)) least
      rw [Nat.toDigits_of_base_le proper large, List.foldlM_append, front]
      simp only [Option.bind_eq_bind, Option.bind_some, List.foldlM_cons, List.foldlM_nil, last, Nat.div_add_mod']
      rfl

theorem mem_toDigits (proper : 1 < base) (member : c ∈ Nat.toDigits base n) : ∃ d < base, c = d.digitChar := by
  induction n using Nat.strongRecOn with
  | ind n ih =>
    by_cases small : n < base
    · rw [Nat.toDigits_of_lt_base small] at member
      exact ⟨n, small, List.mem_singleton.mp member⟩
    · have positive := Nat.lt_trans Nat.zero_lt_one proper
      have shorter : n / base < n := Nat.div_lt_self (Nat.lt_of_lt_of_le positive (Nat.le_of_not_lt small)) proper
      rw [Nat.toDigits_of_base_le proper (Nat.le_of_not_lt small)] at member
      rcases List.mem_append.mp member with front | last
      · exact ih (n / base) shorter front
      · exact ⟨n % base, Nat.mod_lt n positive, List.mem_singleton.mp last⟩

theorem foldlM_appendDigit_lt {value : Nat} (read : s.foldlM (appendDigit base) value = some n) :
    n < (value + 1) * base ^ s.length := by
  induction s generalizing value with
  | nil =>
    cases read
    rw [List.length_nil, Nat.pow_zero, Nat.mul_one]
    exact Nat.lt_succ_self n
  | cons c rest ih =>
    rw [List.foldlM_cons] at read
    obtain ⟨next, first, later⟩ := Option.bind_eq_some_iff.mp read
    obtain ⟨digit, _, fits⟩ := Option.bind_eq_some_iff.mp first
    split at fits
    case isFalse => cases fits
    case isTrue below =>
      obtain rfl := Option.some.inj fits
      have room : value * base + digit + 1 ≤ (value + 1) * base := by
        rw [Nat.succ_mul]
        exact Nat.add_le_add_left below _
      calc n
        _ < (value * base + digit + 1) * base ^ rest.length := ih later
        _ ≤ (value + 1) * base * base ^ rest.length := Nat.mul_le_mul_right _ room
        _ = (value + 1) * base ^ (c :: rest).length := by
          rw [List.length_cons, Nat.pow_succ', Nat.mul_assoc]

/-- So many digits write no larger number. -/
theorem numeral?_lt (read : numeral? base s = some n) : n < base ^ s.length := by
  have given : s ≠ [] := by
    rintro rfl
    cases read
  rw [numeral?_eq_foldlM given] at read
  have below := foldlM_appendDigit_lt read
  rwa [Nat.zero_add, Nat.one_mul] at below

end PayBridge.Text
