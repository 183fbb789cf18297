import PayBridge.Solana.Currency
import PayBridge.Solana.Sha256

/-! Token accounts. Tokens do not reach their owner's address but an account whose address is computed from
owner, token program and mint: a hash that is no point of the curve, so no key pair can claim it. -/
namespace PayBridge.Solana.TokenAccount

def program : Address :=
  (Address.read? "ATokenGPvbdGVxr1b2hvZbsiqW5xWH25efTNsLJA8knL").get (by decide +kernel)

/-- What ends the hashed bytes of an address that a program derives. -/
def derivedMark : List UInt8 := "ProgramDerivedAddress".toUTF8.toList

def addressOf (bytes : List UInt8) : Address :=
  ⟨Base58.ofPlaces 256 (bytes.map UInt8.toNat) % 256 ^ 32, Nat.mod_lt _ (by decide)⟩

def candidate (seeds : List UInt8) (bump : Nat) : Address :=
  addressOf (Sha256.hash (seeds ++ UInt8.ofNat bump :: program.bytes ++ derivedMark))

/-- The first candidate off the curve, the bumps counting down. Half of all candidates are off it, so the
last bump is never seen to be needed. -/
def derive (seeds : List UInt8) : Nat → Address
  | 0 => candidate seeds 0
  | bump + 1 =>
    let address := candidate seeds (bump + 1)
    if address.isOnCurve then derive seeds bump else address

/-- Of the candidates down from a bump, the first one off the curve is derived; only the last one may be on it. -/
theorem derive_isFirst (seeds : List UInt8) (last : Nat) : ∃ bump ≤ last, derive seeds last = candidate seeds bump ∧
    (0 < bump → (candidate seeds bump).isOnCurve = false) ∧
    ∀ other, bump < other → other ≤ last → (candidate seeds other).isOnCurve = true := by
  induction last with
  | zero =>
    refine ⟨0, Nat.le_refl _, rfl, fun some => absurd some (Nat.lt_irrefl 0), fun other above most => ?_⟩
    exact absurd above (Nat.not_lt.mpr most)
  | succ last ih =>
    simp only [derive]
    by_cases on : (candidate seeds (last + 1)).isOnCurve = true
    · obtain ⟨bump, most, derived, off, before⟩ := ih
      rw [if_pos on]
      refine ⟨bump, Nat.le_succ_of_le most, derived, off, fun other above below => ?_⟩
      rcases Nat.le_or_eq_of_le_succ below with earlier | rfl
      · exact before other above earlier
      · exact on
    · rw [if_neg on]
      refine ⟨last + 1, Nat.le_refl _, rfl, fun _ => Bool.eq_false_iff.mpr on, fun other above most => ?_⟩
      exact absurd above (Nat.not_lt.mpr most)

def address (owner mint : Address) (tokenProgram : TokenProgram) : Address :=
  derive (owner.bytes ++ tokenProgram.address.bytes ++ mint.bytes) 255

/-- A token account is a hash of owner, token program and mint, in this order: of the bumps from 255 down the first
one that is no point of the curve. -/
theorem address_isFirst (owner mint : Address) (tokenProgram : TokenProgram) :
    let seeds := owner.bytes ++ tokenProgram.address.bytes ++ mint.bytes
    ∃ bump ≤ 255, address owner mint tokenProgram = candidate seeds bump ∧
      (0 < bump → (address owner mint tokenProgram).isOnCurve = false) ∧
      ∀ other, bump < other → other ≤ 255 → (candidate seeds other).isOnCurve = true := by
  intro seeds
  obtain ⟨bump, most, derived, off, before⟩ := derive_isFirst seeds 255
  have here : address owner mint tokenProgram = candidate seeds bump := derived
  rw [here]
  exact ⟨bump, most, rfl, off, before⟩

end PayBridge.Solana.TokenAccount
