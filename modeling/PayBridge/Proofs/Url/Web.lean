import Mathlib.Data.List.TakeWhile
import PayBridge.Proofs.Url.FormEncoded
import PayBridge.Proofs.Url.Ipv4
import PayBridge.Proofs.Url.Ipv6
import PayBridge.Url.Basic

/-! Scheme, host and port of a web address, written as a text, are read as themselves. What is read of any address, in
whatever spelling, is such that this holds: its host is a domain that is no number, or an address, and its port is not
the one that the scheme implies. -/
namespace PayBridge.Url

open PayBridge.Text

variable {s name : List Char} {c : Char} {scheme : WebScheme} {host : Host} {port : Option Nat}

inductive Host.IsNormal : Host → Prop where
  | domain {name : List Char} (domain : IsDomain name) (filled : name ≠ []) (worded : endsInNumber name = false) :
      IsNormal (.domain name)
  | ipv4 {address : Nat} (fits : address < 2 ^ 32) : IsNormal (.ipv4 address)
  | ipv6 {pieces : List Nat} (eight : pieces.length = 8) (fit : ArePieces pieces) : IsNormal (.ipv6 pieces)

/-- A port that is given has 16 bits and is not the one that the scheme implies. -/
def IsExplicit (scheme : WebScheme) (port : Option Nat) : Prop :=
  ∀ number ∈ port, number ≤ 65535 ∧ number ≠ scheme.defaultPort

theorem percentDecode_plain (apart : '%' ∉ s) : percentDecode s = utf8 s := by
  induction s with
  | nil => rfl
  | cons c rest ih =>
    obtain ⟨other, later⟩ := not_or.mp (mt List.mem_cons.mpr apart)
    rw [percentDecode_cons (Ne.symm other), ih later]
    rfl

namespace Host

theorem readName?_isNormal (read : readName? s = some host) : host.IsNormal := by
  obtain ⟨text, -, read⟩ := Option.bind_eq_some_iff.mp read
  obtain ⟨name, named, read⟩ := Option.bind_eq_some_iff.mp read
  have domain := domain?_isDomain named
  split at read
  case isTrue => cases read
  case isFalse filled =>
    split at read
    case isTrue =>
      obtain ⟨address, fits, rfl⟩ := Option.map_eq_some_iff.mp read
      exact .ipv4 (readIpv4?_lt fits)
    case isFalse worded =>
      obtain rfl := Option.some.inj read
      exact .domain domain (by simpa using filled) (by simpa using worded)

theorem read?_isNormal (read : Host.read? s = some host) : host.IsNormal := by
  unfold Host.read? at read
  split at read
  · split at read
    · obtain ⟨pieces, found, rfl⟩ := Option.map_eq_some_iff.mp read
      obtain ⟨eight, fit⟩ := readIpv6?_pieces found
      exact .ipv6 eight fit
    · cases read
  · exact readName?_isNormal read

/-- A domain stands for itself, or for an address if it ends in a number. -/
theorem read?_domain (domain : IsDomain name) (filled : name ≠ []) : Host.read? name =
    if endsInNumber name then (readIpv4? name).map .ipv4 else some (.domain name) := by
  have unbracketed : Host.read? name = readName? name := by
    unfold Host.read?
    split
    · exact absurd List.mem_cons_self (domain.apart (by decide : isForbidden '[' = true))
    · rfl
  have unescaped : '%' ∉ name := domain.apart (by decide)
  have some : name.isEmpty = false := by simpa using filled
  rw [unbracketed, readName?, percentDecode_plain unescaped, ofUtf8?_utf8]
  simp only [Option.bind_eq_bind, Option.bind_some, domain.domain?, some, Bool.false_eq_true, ↓reduceIte]

theorem IsNormal.read?_text (normal : host.IsNormal) : Host.read? host.text = some host := by
  cases normal with
  | @domain name domain filled worded =>
    rw [text, read?_domain domain filled, worded, if_neg Bool.false_ne_true]
  | @ipv4 address fits =>
    have filled : writeIpv4 address ≠ [] := by
      intro none
      have ends := endsInNumber_writeIpv4 address
      rw [none] at ends
      cases ends
    rw [text, read?_domain (writeIpv4_isDomain address) filled, endsInNumber_writeIpv4, if_pos rfl,
      readIpv4?_writeIpv4 fits, Option.map_some]
  | @ipv6 pieces eight fit =>
    have closed : (writeIpv6 pieces ++ [']']).getLast? = some ']' := List.getLast?_concat
    have inside : (writeIpv6 pieces ++ [']']).dropLast = writeIpv6 pieces := List.dropLast_concat
    rw [text, List.cons_append, Host.read?, closed, inside, readIpv6?_writeIpv6 eight fit]
    rfl

/-- What a host is written in: visible signs that neither end an authority nor end a user in front of it. -/
def IsSign (c : Char) : Prop := IsVisible c ∧ c ∉ ['/', '\\', '?', '#', '@']

theorem isSign_of_isDomain (domain : IsDomain name) : ∀ c ∈ name, IsSign c := by
  intro c member
  refine ⟨domain.isVisible c member, fun mark => ?_⟩
  have forbidden : ['/', '\\', '?', '#', '@'].all isForbidden = true := by decide
  exact domain.apart (List.all_eq_true.mp forbidden c mark) member

theorem isSign_of_isDigit (digit : c.isDigit = true) : IsSign c := by
  have alphanumeric : isAlphanumeric c = true := Bool.or_eq_true_iff.mpr (.inr digit)
  have undigital : ['/', '\\', '?', '#', '@'].any Char.isDigit = false := by decide
  exact ⟨isVisible_of_isAlphanumeric alphanumeric, fun mark => List.any_eq_false.mp undigital c mark digit⟩

theorem IsNormal.isSign (normal : host.IsNormal) : ∀ c ∈ host.text, IsSign c := by
  cases normal with
  | domain domain => exact isSign_of_isDomain domain
  | ipv4 => exact isSign_of_isDomain (writeIpv4_isDomain _)
  | @ipv6 pieces eight fit =>
    have signs : ∀ c ∈ ['[', ']', ':', 'a', 'b', 'c', 'd', 'e', 'f'], IsSign c := by
      simp [IsSign, IsVisible]
    rw [text]
    simp only [List.cons_append, List.mem_cons, List.mem_append, List.not_mem_nil, or_false]
    rintro c (rfl | inside | rfl)
    · exact signs _ (by decide)
    · rcases mem_writeIpv6 inside with rfl | digit | letter
      · exact signs _ (by decide)
      · exact isSign_of_isDigit digit
      · exact signs c (List.mem_append_right ['[', ']', ':'] letter)
    · exact signs _ (by decide)

/-- Without brackets, and without a colon unless inside of brackets, all belongs to the host. -/
theorem splitHost_append {inBrackets : Bool} (unbracketed : ∀ c ∈ name, c ∉ ['[', ']'])
    (colons : ':' ∈ name → inBrackets = true) (rest : List Char) :
    splitHost inBrackets (name ++ rest) =
      (name ++ (splitHost inBrackets rest).1, (splitHost inBrackets rest).2) := by
  induction name with
  | nil => rfl
  | cons c name ih =>
    obtain ⟨here, later⟩ := List.forall_mem_cons.mp unbracketed
    simp only [List.mem_cons, List.not_mem_nil, or_false, not_or] at here
    have kept : (c = ':' && !inBrackets) = false := by
      by_cases colon : c = ':'
      · rw [colons (colon ▸ List.mem_cons_self)]
        exact Bool.and_false _
      · rw [decide_eq_false colon]
        rfl
    rw [List.cons_append, splitHost]
    simp only [kept, here, Bool.false_eq_true, ↓reduceIte, ih later fun colon => colons (List.mem_cons_of_mem c colon),
      List.cons_append]

theorem splitHost_portText (port : Option Nat) : splitHost false (portText port) = ([], portText port) := by
  cases port with
  | none => rfl
  | some number => rfl

theorem splitHost_domain (domain : IsDomain name) (port : Option Nat) :
    splitHost false (name ++ portText port) = (name, portText port) := by
  have forbidden : ['[', ']'].all isForbidden = true := by decide
  have unbracketed : ∀ c ∈ name, c ∉ ['[', ']'] := fun c member bracket =>
    domain.apart (List.all_eq_true.mp forbidden c bracket) member
  have uncolonned : ':' ∉ name := domain.apart (by decide)
  rw [splitHost_append unbracketed fun colon => absurd colon uncolonned, splitHost_portText, List.append_nil]

/-- Host and port are told apart, also where the host holds colons. -/
theorem IsNormal.splitHost (normal : host.IsNormal) (port : Option Nat) :
    splitHost false (host.text ++ portText port) = (host.text, portText port) := by
  cases normal with
  | domain domain => exact splitHost_domain domain port
  | ipv4 => exact splitHost_domain (writeIpv4_isDomain _) port
  | @ipv6 pieces eight fit =>
    have unbracketed : ∀ c ∈ writeIpv6 pieces, c ∉ ['[', ']'] := by
      intro c member bracket
      rcases mem_writeIpv6 member with rfl | digit | letter
      · exact absurd bracket (by decide)
      · have undigital : ['[', ']'].any Char.isDigit = false := by decide
        exact List.any_eq_false.mp undigital c bracket digit
      · have unlettered : ['[', ']'].any (['a', 'b', 'c', 'd', 'e', 'f'].contains ·) = false := by decide
        exact List.any_eq_false.mp unlettered c bracket (List.contains_iff_mem.mpr letter)
    have behind : Url.splitHost true (']' :: portText port) = ([']'], portText port) := by
      rw [Url.splitHost]
      simp only [Bool.not_true, Bool.and_false, Bool.false_eq_true, ↓reduceIte, Char.reduceEq, splitHost_portText]
    have opens : '[' :: writeIpv6 pieces ++ [']'] ++ portText port =
        '[' :: (writeIpv6 pieces ++ ']' :: portText port) := by
      simp only [List.cons_append, List.append_assoc, List.nil_append]
    rw [text, opens, Url.splitHost]
    simp only [Char.reduceEq, decide_false, Bool.false_and, Bool.false_eq_true, ↓reduceIte,
      splitHost_append unbracketed fun _ => rfl, behind, List.cons_append]

end Host

/-- A port that is read is explicit: the one that the scheme implies is not kept. -/
theorem readPort?_isExplicit (read : readPort? scheme s = some port) : IsExplicit scheme port := by
  unfold readPort? at read
  split at read
  · split at read
    · cases read
      exact nofun
    · obtain ⟨number, -, read⟩ := Option.bind_eq_some_iff.mp read
      simp only [Option.ite_none_left_eq_some] at read
      obtain ⟨fits, read⟩ := read
      split at read
      case isTrue =>
        cases read
        exact nofun
      case isFalse other =>
        cases read
        rintro _ ⟨⟩
        exact ⟨Nat.le_of_not_lt fits, other⟩
  · cases read
    exact nofun

theorem IsExplicit.readPort?_portText (explicit : IsExplicit scheme port) :
    readPort? scheme (portText port) = some port := by
  cases port with
  | none => rfl
  | some number =>
    obtain ⟨fits, other⟩ := explicit number rfl
    have filled : (decimal number).isEmpty = false := by
      simpa using show decimal number ≠ [] from Nat.toDigits_ne_nil
    have read : numeral? 10 (decimal number) = some number := numeral?_toDigits (by decide) (by decide) number
    simp only [portText, readPort?, filled, Bool.false_eq_true, ↓reduceIte, read, Option.bind_eq_bind,
      Option.bind_some, Nat.not_lt.mpr fits, other]

theorem isSign_portText (port : Option Nat) : ∀ c ∈ portText port, Host.IsSign c := by
  cases port with
  | none => exact nofun
  | some number =>
    refine List.forall_mem_cons.mpr ⟨⟨⟨by decide, by decide⟩, by decide⟩, fun c member => ?_⟩
    exact Host.isSign_of_isDigit (decimal_isDigit c member)

/-- The web address that a text holds, whatever its spelling, has a host in normal form and an explicit port. -/
theorem readWeb?_isNormal {found : WebScheme} (read : readWeb? found s = some (.web scheme host port)) :
    host.IsNormal ∧ IsExplicit scheme port := by
  obtain ⟨hostRead, named, read⟩ := Option.bind_eq_some_iff.mp read
  obtain ⟨portRead, numbered, read⟩ := Option.bind_eq_some_iff.mp read
  cases read
  exact ⟨Host.read?_isNormal named, readPort?_isExplicit numbered⟩

theorem read?_isNormal (read : read? s = some (.web scheme host port)) : host.IsNormal ∧ IsExplicit scheme port := by
  obtain ⟨⟨name, rest⟩, -, read⟩ := Option.bind_eq_some_iff.mp read
  simp only at read
  split at read
  · exact readWeb?_isNormal read
  split at read
  · exact readWeb?_isNormal read
  split at read
  · obtain ⟨path, -, inline⟩ := Option.map_eq_some_iff.mp read
    cases inline
  · cases read

section Authority

variable {authority : List Char}

theorem endsAuthority_of_isSign (sign : Host.IsSign c) : endsAuthority c = false := by
  have other := sign.2
  simp only [List.mem_cons, List.not_mem_nil, or_false, not_or] at other
  simp [endsAuthority, isSlash, other]

/-- Slashes in front of an authority are dropped, and no more. -/
theorem dropWhile_isSlash (signs : ∀ c ∈ authority, Host.IsSign c) :
    ('/' :: '/' :: authority).dropWhile isSlash = authority := by
  rw [List.dropWhile_cons_of_pos rfl, List.dropWhile_cons_of_pos rfl]
  refine List.dropWhile_eq_self_iff.mpr fun filled => ?_
  have ends := endsAuthority_of_isSign (signs _ (List.getElem_mem filled))
  simp only [endsAuthority, Bool.or_eq_false_iff] at ends
  simp only [ends, Bool.false_eq_true, not_false_eq_true]

/-- An authority of host and port alone has no user to drop. -/
theorem dropUser_eq (signs : ∀ c ∈ authority, Host.IsSign c) : dropUser authority = authority := by
  have anonymous : ∀ c ∈ authority.reverse, (c != '@') = true := by
    intro c member
    have other := (signs c (List.mem_reverse.mp member)).2
    simp only [List.mem_cons, List.not_mem_nil, or_false, not_or] at other
    simp [other]
  rw [dropUser, List.takeWhile_eq_self_iff.mpr anonymous, List.reverse_reverse]

end Authority

theorem readWeb?_text (normal : host.IsNormal) (explicit : IsExplicit scheme port) :
    readWeb? scheme ('/' :: '/' :: (host.text ++ portText port)) = some (.web scheme host port) := by
  have signs : ∀ c ∈ host.text ++ portText port, Host.IsSign c :=
    List.forall_mem_append.mpr ⟨normal.isSign, isSign_portText port⟩
  rw [readWeb?, dropWhile_isSlash signs, upTo_unmarked fun c member => endsAuthority_of_isSign (signs c member)]
  simp only [dropUser_eq signs, normal.splitHost, normal.read?_text, explicit.readPort?_portText,
    Option.bind_eq_bind, Option.bind_some]

theorem name_isLower (scheme : WebScheme) : ∀ c ∈ scheme.name, c.isLower = true := by
  have small : scheme.name.all Char.isLower = true := by cases scheme <;> decide
  exact List.all_eq_true.mp small

theorem originText_eq (scheme : WebScheme) (host : Host) (port : Option Nat) :
    originText scheme host port = scheme.name ++ ':' :: '/' :: '/' :: (host.text ++ portText port) := by
  simp only [originText, List.append_assoc, List.cons_append, List.nil_append]

theorem originText_isVisible (normal : host.IsNormal) : ∀ c ∈ originText scheme host port, IsVisible c := by
  rw [originText_eq]
  simp only [List.mem_append, List.mem_cons]
  rintro c (inScheme | rfl | rfl | rfl | inHost | inPort)
  · exact isVisible_of_isAlphanumeric (isAlphanumeric_of_isLower (name_isLower scheme c inScheme))
  · exact ⟨by decide, by decide⟩
  · exact ⟨by decide, by decide⟩
  · exact ⟨by decide, by decide⟩
  · exact (normal.isSign c inHost).1
  · exact (isSign_portText port c inPort).1

theorem read?_originText (normal : host.IsNormal) (explicit : IsExplicit scheme port) :
    read? (originText scheme host port) = some (.web scheme host port) := by
  have named : scheme.name ≠ [] := by cases scheme <;> decide
  rw [read?, cleaned_visible (originText_isVisible normal), originText_eq,
    splitScheme?_append (name_isLower scheme) named]
  simp only [Option.bind_eq_bind, Option.bind_some]
  cases scheme with
  | http =>
    rw [if_pos rfl]
    exact readWeb?_text normal explicit
  | https =>
    rw [if_neg (by decide), if_pos rfl]
    exact readWeb?_text normal explicit

end PayBridge.Url
