import Mathlib.Data.List.Forall2
import PayBridge.Host.Page
import PayBridge.Proofs.Json.Fields
import PayBridge.Proofs.Text.Trim

/-! What sanitizing makes of a page's list. Each entry that offers a wallet becomes one, by itself and in its place,
and the rest of the list is left out. What was sanitized may be written down and sanitized again, and stays as it
is. -/
namespace PayBridge.Wallet

open PayBridge.Text
open PayBridge.Json (bool?_eq_some string?_eq_some)

/-- The entries of a list; what is no list has none. -/
def entries : Json → List Json
  | .array items => items
  | _ => []

def isOffer : Json → Bool
  | .object fields =>
    match fields.lookup "name" with
    | some (.string name) => name.toList.any (!isBlank ·)
    | _ => false
  | _ => false

/-- What may become of an icon: it is absent like the entry's own, or the entry's own text, trimmed and on the list
of allowed ones, or the neutral glyph, in the place of what is not allowed. -/
inductive Shows (given : Option Json) : Option String → Prop where
  | absent (missing : given = none ∨ given = some .null) : Shows given none
  | own {icon : String} (text : given = some (.string icon)) (allowed : isAllowedIcon (trimmed icon).toList = true) :
      Shows given (some (trimmed icon))
  | refused {icon : String} (text : given = some (.string icon))
      (other : isAllowedIcon (trimmed icon).toList = false) : Shows given (some neutralIcon)
  | textless {value : Json} (present : given = some value) (other : value ≠ .null)
      (noText : ∀ icon, value ≠ .string icon) : Shows given (some neutralIcon)

/-- The wallet is what its entry says. A flag that is no truth value counts as not given. -/
structure Describes (entry : Json) (wallet : Wallet) : Prop where
  name : ∃ name, entry.get? "name" = some (.string name) ∧ wallet.name = trimmed name
  icon : Shows (entry.get? "icon") wallet.icon
  installed : wallet.installed = true ↔ entry.get? "installed" = some (.bool true)
  connectable : ∀ flag, wallet.connectable = some flag ↔ entry.get? "connectable" = some (.bool flag)

structure IsSanitized (wallet : Wallet) : Prop where
  named : wallet.name ≠ ""
  trimmed : trimmed wallet.name = wallet.name
  icon : ∀ icon, wallet.icon = some icon → isAllowedIcon icon.toList = true ∧ Text.trimmed icon = icon

theorem neutralIcon_sound : isAllowedIcon neutralIcon.toList = true ∧ trimmed neutralIcon = neutralIcon := by
  suffices sound : isAllowedIcon neutralIcon.toList = true ∧ trim neutralIcon.toList = neutralIcon.toList by
    refine ⟨sound.1, ?_⟩
    rw [trimmed, sound.2, String.ofList_toList]
  -- its parts are read one by one: joined, they take far longer to evaluate
  unfold neutralIcon
  rw [String.toList_append, String.toList_append, String.toList_append]
  decide +kernel

theorem sanitizeIcon_of_allowed {icon : String} (allowed : isAllowedIcon (trimmed icon).toList = true) :
    sanitizeIcon icon = trimmed icon := by
  rw [trimmed, String.toList_ofList] at allowed
  rw [sanitizeIcon, if_pos allowed]

theorem sanitizeIcon_of_refused {icon : String} (other : isAllowedIcon (trimmed icon).toList = false) :
    sanitizeIcon icon = neutralIcon := by
  rw [trimmed, String.toList_ofList] at other
  rw [sanitizeIcon, if_neg (by simp [other])]

theorem iconOf_shows (given : Option Json) : Shows given (iconOf given) := by
  match given with
  | none => exact .absent (.inl rfl)
  | some .null => exact .absent (.inr rfl)
  | some (.string icon) =>
    cases allowed : isAllowedIcon (trimmed icon).toList with
    | true =>
      rw [iconOf, sanitizeIcon_of_allowed allowed]
      exact .own rfl allowed
    | false =>
      rw [iconOf, sanitizeIcon_of_refused allowed]
      exact .refused rfl allowed
  | some (.bool _) | some (.number _) | some (.array _) | some (.object _) => exact .textless rfl nofun nofun

theorem Shows.sanitized {given : Option Json} {icon : String} (shows : Shows given (some icon)) :
    isAllowedIcon icon.toList = true ∧ trimmed icon = icon := by
  cases shows with
  | own _ allowed => exact ⟨allowed, trimmed_trimmed _⟩
  | refused | textless => exact neutralIcon_sound

theorem sanitizeIcon_idem (icon : String) : sanitizeIcon (sanitizeIcon icon) = sanitizeIcon icon := by
  obtain ⟨allowed, same⟩ := (iconOf_shows (some (.string icon))).sanitized
  exact (sanitizeIcon_of_allowed (same.symm ▸ allowed)).trans same

theorem trimmed_eq_empty_iff {s : String} : trimmed s = "" ↔ ∀ c ∈ s.toList, isBlank c = true := by
  rw [← trim_eq_nil_iff, trimmed, ← String.toList_inj, String.toList_ofList]
  rfl

variable {entry page : Json} {wallet : Wallet}

theorem installed_iff {given : Option Json} :
    (given.bind Json.bool?).getD false = true ↔ given = some (.bool true) := by
  rw [← bool?_eq_some]
  cases given.bind Json.bool? <;> simp

theorem sanitize?_named {name : String} (given : entry.get? "name" = some (.string name))
    (named : trimmed name ≠ "") :
    sanitize? entry = some ⟨trimmed name, iconOf (entry.get? "icon"),
      ((entry.get? "installed").bind Json.bool?).getD false, (entry.get? "connectable").bind Json.bool?⟩ := by
  have full : ¬ (trimmed name).isEmpty = true := by rwa [String.isEmpty_iff]
  simp only [sanitize?, given, Option.bind_some, Json.string?, Option.bind_eq_bind, if_neg full]

/-- An entry offers a wallet if its name is a text with something left after trimming. -/
theorem isOffer_iff : isOffer entry = true ↔
    ∃ name, entry.get? "name" = some (.string name) ∧ trimmed name ≠ "" := by
  cases entry with
  | object fields =>
    have named (name : String) : name.toList.any (!isBlank ·) = true ↔ trimmed name ≠ "" := by
      simp only [ne_eq, trimmed_eq_empty_iff, List.any_eq_true, Bool.not_eq_true', not_forall, Bool.not_eq_true,
        exists_prop]
    simp only [isOffer, Json.get?]
    split
    · rename_i name found
      simp only [named, found, Option.some.injEq, Json.string.injEq, exists_eq_left']
    · rename_i other
      simp only [Bool.false_eq_true, false_iff, not_exists, not_and]
      exact fun name found => absurd found (other name)
  | _ => simp [isOffer, Json.get?]

/-- An entry that offers a wallet becomes one that is what the entry says. -/
theorem sanitize?_offer (offers : isOffer entry = true) :
    ∃ wallet, sanitize? entry = some wallet ∧ Describes entry wallet := by
  obtain ⟨name, given, named⟩ := isOffer_iff.mp offers
  exact ⟨_, sanitize?_named given named, ⟨name, given, rfl⟩, iconOf_shows _, installed_iff, fun _ => bool?_eq_some⟩

theorem sanitize?_no_offer (other : isOffer entry = false) : sanitize? entry = none := by
  cases found : (entry.get? "name").bind Json.string? with
  | none => simp only [sanitize?, found, Option.bind_eq_bind, Option.bind_none]
  | some name =>
    have given : entry.get? "name" = some (.string name) := string?_eq_some.mp found
    have nameless : (trimmed name).isEmpty = true := by
      rw [String.isEmpty_iff]
      by_contra named
      rw [isOffer_iff.mpr ⟨name, given, named⟩] at other
      cases other
    simp only [sanitize?, found, Option.bind_eq_bind, Option.bind_some, if_pos nameless]

theorem sanitize_eq (page : Json) : sanitize page = (entries page).filterMap sanitize? := by
  cases page <;> rfl

theorem sanitize_describes (items : List Json) :
    List.Forall₂ Describes (items.filter isOffer) (items.filterMap sanitize?) := by
  induction items with
  | nil => exact .nil
  | cons entry rest ih =>
    cases offers : isOffer entry with
    | true =>
      obtain ⟨wallet, made, describes⟩ := sanitize?_offer offers
      rw [List.filter_cons_of_pos offers, List.filterMap_cons_some made]
      exact .cons describes ih
    | false =>
      rw [List.filter_cons_of_neg (by simp [offers]), List.filterMap_cons_none (sanitize?_no_offer offers)]
      exact ih

theorem Describes.sanitized (describes : Describes entry wallet) (offers : isOffer entry = true) :
    IsSanitized wallet := by
  obtain ⟨name, given, named⟩ := isOffer_iff.mp offers
  obtain ⟨other, again, same⟩ := describes.name
  obtain rfl : name = other := Json.string.inj (Option.some.inj (given.symm.trans again))
  refine ⟨same ▸ named, same ▸ trimmed_trimmed name, fun icon shown => ?_⟩
  have shows := describes.icon
  rw [shown] at shows
  exact shows.sanitized

theorem sanitize_sanitized (member : wallet ∈ sanitize page) : wallet.IsSanitized := by
  rw [sanitize_eq, List.mem_filterMap] at member
  obtain ⟨entry, _, made⟩ := member
  cases offers : isOffer entry with
  | true =>
    obtain ⟨other, same, describes⟩ := sanitize?_offer offers
    obtain rfl := Option.some.inj (made.symm.trans same)
    exact describes.sanitized offers
  | false => cases made.symm.trans (sanitize?_no_offer offers)

theorem get?_toJson (wallet : Wallet) :
    wallet.toJson.get? "name" = some (.string wallet.name) ∧
    wallet.toJson.get? "icon" = wallet.icon.map .string ∧
    wallet.toJson.get? "installed" = some (.bool wallet.installed) ∧
    wallet.toJson.get? "connectable" = wallet.connectable.map .bool := by
  obtain ⟨name, icon, installed, connectable⟩ := wallet
  cases icon <;> cases connectable <;> exact ⟨rfl, rfl, rfl, rfl⟩

/-- Written down and sanitized again, a wallet that was sanitized is as it was. -/
theorem IsSanitized.sanitize?_toJson (sanitized : wallet.IsSanitized) : sanitize? wallet.toJson = some wallet := by
  obtain ⟨name, icon, installed, connectable⟩ := get?_toJson wallet
  have sameIcon : iconOf (wallet.icon.map .string) = wallet.icon := by
    cases shown : wallet.icon with
    | none => rfl
    | some icon =>
      obtain ⟨allowed, same⟩ := sanitized.icon icon shown
      rw [Option.map_some, iconOf, sanitizeIcon_of_allowed (same.symm ▸ allowed), same]
  have sameFlag : (wallet.connectable.map Json.bool).bind Json.bool? = wallet.connectable := by
    cases wallet.connectable <;> rfl
  rw [sanitize?_named name (sanitized.trimmed.symm ▸ sanitized.named), icon, installed, connectable, sameIcon,
    sameFlag, sanitized.trimmed]
  rfl

/-- The list that is sanitized has one wallet for each entry that offers one, in the order of the entries: the wallet
is what its entry says, and depends on no other entry. A list that is none has no wallets. Every name has something
left after trimming and is trimmed. Every icon is on the list of allowed ones: the entry's own, trimmed, or the
neutral glyph, which is allowed itself. Written down and sanitized again, the list is as it was. -/
theorem sanitize_is_projection (page : Json) :
    List.Forall₂ Describes ((entries page).filter isOffer) (sanitize page) ∧
    sanitize page = (entries page).flatMap (fun entry => sanitize (.array [entry])) ∧
    (∀ wallet ∈ sanitize page, wallet.IsSanitized) ∧
    sanitize (.array ((sanitize page).map toJson)) = sanitize page ∧
    (∀ icon, sanitizeIcon (sanitizeIcon icon) = sanitizeIcon icon) ∧
    isAllowedIcon neutralIcon.toList = true := by
  refine ⟨?_, ?_, fun wallet => sanitize_sanitized, ?_, sanitizeIcon_idem, neutralIcon_sound.1⟩
  · rw [sanitize_eq]
    exact sanitize_describes (entries page)
  · have alone (entry : Json) : sanitize (.array [entry]) = (sanitize? entry).toList := by
      rw [sanitize_eq, entries]
      cases made : sanitize? entry with
      | none => exact List.filterMap_cons_none made
      | some wallet => exact List.filterMap_cons_some made
    simp only [alone]
    rw [sanitize_eq, List.filterMap_eq_flatMap_toList]
  · have kept (wallets : List Wallet) (sanitized : ∀ wallet ∈ wallets, wallet.IsSanitized) :
        (wallets.map toJson).filterMap sanitize? = wallets := by
      rw [List.filterMap_map]
      refine (List.filterMap_congr fun wallet member => ?_).trans List.filterMap_some
      exact (sanitized wallet member).sanitize?_toJson
    rw [sanitize_eq (.array _)]
    exact kept (sanitize page) fun wallet => sanitize_sanitized

-- A name and an icon between blanks, an icon that is no address, and an entry without a name.
example : sanitize (.array [
      .object [("icon", .string " https://phantom.app/logo.png "), ("name", .string " Phantom ")],
      .object [("icon", .string "javascript:alert(1)"), ("installed", .bool true), ("name", .string "Solflare")],
      .object [("name", .string " ")]]) =
    [⟨"Phantom", some "https://phantom.app/logo.png", false, none⟩, ⟨"Solflare", some neutralIcon, true, none⟩] := by
  decide +kernel

end PayBridge.Wallet
