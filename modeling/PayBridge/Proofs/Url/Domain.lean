import PayBridge.Proofs.Url.Rootless
import PayBridge.Url.Domain

/-! Domains as they are read: in ASCII, in small letters, of labels that are allowed. Whatever was read of a host, by
its letters or by Punycode, is read as itself again. -/
namespace PayBridge.Url

open PayBridge.Text

variable {host name : List Char} {c : Char}

namespace Punycode

theorem digit_isAscii {value : Nat} (below : value < 36) : isAscii (digit value) = true := by
  have all : ∀ value < 36, isAscii (digit value) = true := by decide
  exact all value below

theorem writeSteps_isAscii (bias k steps : Nat) : ∀ c ∈ writeSteps bias k steps, isAscii c = true := by
  induction k, steps using writeSteps.induct bias with
  | case1 k steps t last =>
    rw [writeSteps, if_pos last]
    have small := threshold_le k bias
    exact List.forall_mem_singleton.mpr (digit_isAscii (by omega))
  | case2 k steps t more ih =>
    rw [writeSteps, if_neg more]
    have least := threshold_pos k bias
    have small := threshold_le k bias
    have rest : (steps - threshold k bias) % (36 - threshold k bias) < 36 - threshold k bias :=
      Nat.mod_lt _ (by omega)
    exact List.forall_mem_cons.mpr ⟨digit_isAscii (by omega), ih⟩

theorem visit_isAscii {p : Progress} (written : ∀ c ∈ p.written, isAscii c = true) (basic current : Nat) (c : Char) :
    ∀ d ∈ (p.visit basic current c).written, isAscii d = true := by
  unfold Progress.visit
  split
  · exact written
  split
  · exact List.forall_mem_append.mpr ⟨written, writeSteps_isAscii _ _ _⟩
  · exact written

theorem visits_isAscii (basic current : Nat) (label : List Char) {p : Progress}
    (written : ∀ c ∈ p.written, isAscii c = true) :
    ∀ c ∈ (label.foldl (Progress.visit basic current) p).written, isAscii c = true := by
  induction label generalizing p with
  | nil => exact written
  | cons c rest ih => exact ih (visit_isAscii written basic current c)

theorem place_isAscii (label : List Char) (basic : Nat) (numbers : List Nat) (next : Nat) {p : Progress}
    (written : ∀ c ∈ p.written, isAscii c = true) :
    ∀ c ∈ (place label basic numbers next p).written, isAscii c = true := by
  induction numbers generalizing next p with
  | nil => exact written
  | cons current rest ih => exact ih _ (visits_isAscii basic current label written)

theorem encode_isAscii (label : List Char) : ∀ c ∈ encode label, isAscii c = true := by
  have basic : ∀ c ∈ label.filter isAscii, isAscii c = true := fun c member => (List.mem_filter.mp member).2
  unfold encode
  refine List.forall_mem_append.mpr ⟨?_, place_isAscii _ _ _ _ nofun⟩
  split
  · exact nofun
  · exact List.forall_mem_append.mpr ⟨basic, List.forall_mem_singleton.mpr rfl⟩

end Punycode

/-- The small letter of a capital stands 32 places behind it. Other characters stay. -/
theorem lower_cases (c : Char) : (¬ (65 ≤ c.toNat ∧ c.toNat ≤ 90) ∧ lower c = c) ∨
    ((65 ≤ c.toNat ∧ c.toNat ≤ 90) ∧ (lower c).toNat = c.toNat + 32) := by
  by_cases large : 65 ≤ c.toNat ∧ c.toNat ≤ 90
  · refine .inr ⟨large, ?_⟩
    have moved : lower c = ⟨c.val + ('a'.val - 'A'.val), _⟩ := dif_pos large
    have below : c.val.toNat ≤ 90 := large.2
    rw [moved]
    change (c.val + ('a'.val - 'A'.val)).toNat = c.val.toNat + 32
    rw [UInt32.toNat_add]
    change (c.val.toNat + 32) % 2 ^ 32 = c.val.toNat + 32
    omega
  · exact .inl ⟨large, dif_neg large⟩

theorem lower_lower (c : Char) : lower (lower c) = lower c := by
  rcases lower_cases (lower c) with ⟨_, same⟩ | ⟨large, _⟩
  · exact same
  · rcases lower_cases c with ⟨small, same⟩ | ⟨_, moved⟩
    · rw [same] at large
      exact absurd large small
    · omega

theorem lowered_lowered (s : List Char) : lowered (lowered s) = lowered s := by
  simp only [lowered, List.map_map, Function.comp_def, lower_lower]

theorem isAscii_lower (ascii : isAscii c = true) : isAscii (lower c) = true := by
  have below : c.toNat < 128 := of_decide_eq_true ascii
  refine decide_eq_true ?_
  rcases lower_cases c with ⟨_, same⟩ | ⟨_, moved⟩
  · rwa [same]
  · omega

theorem asciiLabel_isAscii (label : List Char) : ∀ c ∈ asciiLabel label, isAscii c = true := by
  unfold asciiLabel
  split
  case isTrue ascii => exact List.all_eq_true.mp ascii
  case isFalse =>
    have lead : punycodeLead.all isAscii = true := by decide
    exact List.forall_mem_append.mpr ⟨List.all_eq_true.mp lead, Punycode.encode_isAscii label⟩

/-- A host of letters that may stand in a domain is its small letters, if its labels are allowed. -/
theorem asciiDomain?_eq_some : asciiDomain? host = some name ↔ lowered host = name ∧
    (∀ c ∈ name, isForbidden c = false) ∧ ∀ label ∈ pieces '.' name, isLabel label = true := by
  unfold asciiDomain?
  by_cases refused : ((lowered host).any isForbidden || !(pieces '.' (lowered host)).all isLabel) = true
  · simp only [refused, ↓reduceIte, reduceCtorEq, false_iff]
    rintro ⟨rfl, plain, allowed⟩
    have free : (lowered host).any isForbidden = false := List.any_eq_false.mpr fun c member => by simp [plain c member]
    rw [free, List.all_eq_true.mpr allowed] at refused
    cases refused
  · simp only [refused, Bool.false_eq_true, ↓reduceIte, Option.some.injEq]
    rw [Bool.not_eq_true, Bool.or_eq_false_iff, Bool.not_eq_false', List.any_eq_false, List.all_eq_true] at refused
    refine ⟨?_, And.left⟩
    rintro rfl
    exact ⟨rfl, fun c member => by simpa using refused.1 c member, refused.2⟩

structure IsDomain (name : List Char) : Prop where
  ascii : ∀ c ∈ name, isAscii c = true
  kept : asciiDomain? name = some name

namespace IsDomain

theorem plain (domain : IsDomain name) : ∀ c ∈ name, isForbidden c = false := (asciiDomain?_eq_some.mp domain.kept).2.1

theorem apart (domain : IsDomain name) {mark : Char} (forbidden : isForbidden mark = true) : mark ∉ name := by
  intro member
  rw [domain.plain mark member] at forbidden
  cases forbidden

theorem isVisible (domain : IsDomain name) : ∀ c ∈ name, IsVisible c := by
  intro c member
  have below : c.toNat < 128 := of_decide_eq_true (domain.ascii c member)
  have plain := domain.plain c member
  simp only [isForbidden, Bool.or_eq_false_iff, decide_eq_false_iff_not, beq_eq_false_iff_ne] at plain
  obtain ⟨⟨above, other⟩, -⟩ := plain
  exact ⟨by omega, by omega⟩

theorem domain? (domain : IsDomain name) : domain? name = some name := by
  rw [Url.domain?, if_pos (List.all_eq_true.mpr domain.ascii)]
  exact domain.kept

end IsDomain

/-- Whatever the host was, what is read of it is a domain. -/
theorem domain?_isDomain (read : domain? host = some name) : IsDomain name := by
  unfold domain? at read
  split at read
  case isTrue ascii =>
    obtain ⟨rfl, plain, allowed⟩ := asciiDomain?_eq_some.mp read
    refine ⟨?_, asciiDomain?_eq_some.mpr ⟨lowered_lowered host, plain, allowed⟩⟩
    intro c member
    obtain ⟨d, among, rfl⟩ := List.mem_map.mp member
    exact isAscii_lower (List.all_eq_true.mp ascii d among)
  case isFalse =>
    obtain ⟨text, -, checked⟩ := Option.bind_eq_some_iff.mp read
    simp only [Option.ite_none_right_eq_some, Option.some.injEq] at checked
    obtain ⟨kept, rfl⟩ := checked
    refine ⟨?_, kept⟩
    intro c member
    rcases mem_of_mem_intercalate member with rfl | ⟨label, among, inside⟩
    · rfl
    · obtain ⟨given, -, rfl⟩ := List.mem_map.mp among
      exact asciiLabel_isAscii given c inside

end PayBridge.Url
