import Mathlib.Data.List.Sort
import PayBridge.Json.Shape

/-! What reading the fields of an object asks of them. A required field is there and has the shape of its type; an
optional one may also be missing or null. No other field is looked at. An object whose keys are in order is known by
what it has under each key. -/
namespace PayBridge.Json

def IsOrdered (fields : List (String × Json)) : Prop := fields.Pairwise (·.1 < ·.1)

instance : DecidablePred IsOrdered := fun fields => inferInstanceAs (Decidable (fields.Pairwise (·.1 < ·.1)))

def isNull : Json → Bool
  | .null => true
  | _ => false

variable {fields others : List (String × Json)} {key : String} {value : Json}

theorem bool?_eq_some {given : Option Json} {flag : Bool} :
    given.bind bool? = some flag ↔ given = some (.bool flag) := by
  match given with
  | none => simp
  | some (.bool other) => simp [bool?]
  | some .null | some (.number _) | some (.string _) | some (.array _) | some (.object _) => simp [bool?]

theorem string?_eq_some {given : Option Json} {text : String} :
    given.bind string? = some text ↔ given = some (.string text) := by
  match given with
  | none => simp
  | some (.string other) => simp [string?]
  | some .null | some (.bool _) | some (.number _) | some (.array _) | some (.object _) => simp [string?]

theorem IsOrdered.mem_iff (ordered : IsOrdered fields) : (key, value) ∈ fields ↔ fields.lookup key = some value := by
  induction fields with
  | nil => simp
  | cons field rest ih =>
    obtain ⟨name, first⟩ := field
    obtain ⟨least, ordered⟩ := List.pairwise_cons.mp ordered
    rw [List.mem_cons, List.lookup_cons]
    cases here : key == name with
    | true =>
      obtain rfl := eq_of_beq here
      have once : (key, value) ∉ rest := fun later => String.lt_irrefl key (least _ later)
      simp [once, eq_comm]
    | false =>
      have other : key ≠ name := ne_of_beq_false here
      simp [other, ih ordered]

theorem IsOrdered.ext (ordered : IsOrdered fields) (ordered' : IsOrdered others)
    (same : ∀ key, fields.lookup key = others.lookup key) : fields = others := by
  have asymmetric : Std.Antisymm fun a b : String × Json => a.1 < b.1 := ⟨fun _ _ less more =>
    absurd more (String.lt_asymm less)⟩
  have irreflexive : Std.Irrefl fun a b : String × Json => a.1 < b.1 := ⟨fun a => String.lt_irrefl a.1⟩
  refine List.Pairwise.eq_of_mem_iff ordered ordered' fun field => ?_
  rw [← Prod.eta field, ordered.mem_iff, ordered'.mem_iff, same]

theorem IsOrdered.filter (ordered : IsOrdered fields) (keep : String × Json → Bool) :
    IsOrdered (fields.filter keep) := List.Pairwise.filter keep ordered

theorem IsOrdered.lookup_filter (ordered : IsOrdered fields) (keep : String × Json → Bool) (key : String) :
    (fields.filter keep).lookup key = (fields.lookup key).filter fun value => keep (key, value) := by
  ext value
  rw [← (ordered.filter keep).mem_iff, List.mem_filter, ordered.mem_iff, Option.filter_eq_some_iff]

theorem lookup_filter_key (keep : String → Bool) (kept : keep key = true) :
    (fields.filter fun field => keep field.1).lookup key = fields.lookup key := by
  induction fields with
  | nil => rfl
  | cons field rest ih =>
    obtain ⟨name, value⟩ := field
    cases here : key == name with
    | true =>
      obtain rfl := eq_of_beq here
      simp only [List.filter_cons, kept, ↓reduceIte, List.lookup_cons_self]
    | false =>
      rw [List.lookup_cons, here, ← ih, List.filter_cons]
      split <;> simp only [List.lookup_cons, here]

section Present

variable {entries : List (String × Option Json)}

theorem present_ordered (ordered : (entries.map Prod.fst).Pairwise (· < ·)) : IsOrdered (present entries) := by
  refine List.pairwise_filterMap.mpr ((List.pairwise_map.mp ordered).imp fun {entry other} less => ?_)
  simp only [Option.map_eq_some_iff, forall_exists_index, and_imp]
  rintro _ _ _ rfl _ _ _ rfl
  exact less

/-- Of entries in order, those that are present are found under their keys. -/
theorem lookup_present (ordered : (entries.map Prod.fst).Pairwise (· < ·)) (key : String) :
    (present entries).lookup key = (entries.lookup key).join := by
  induction entries with
  | nil => rfl
  | cons entry rest ih =>
    obtain ⟨name, given⟩ := entry
    obtain ⟨least, ordered⟩ := List.pairwise_cons.mp ordered
    have later : (present rest).lookup key = (rest.lookup key).join := ih ordered
    cases here : key == name with
    | true =>
      obtain rfl := eq_of_beq here
      have once : rest.lookup key = none := by
        refine List.lookup_eq_none_iff.mpr fun other member => bne_iff_ne.mpr fun same => ?_
        exact String.lt_irrefl key (least key (same ▸ List.mem_map_of_mem member))
      cases given with
      | none => simpa [present, once] using later
      | some value => simp [present]
    | false =>
      cases given with
      | none => simpa [present, List.lookup_cons, here] using later
      | some value => simpa [present, List.lookup_cons, here] using later

end Present

namespace Decoder

variable {α β ε : Type} {decode : Decoder α} {encode : α → Json} {data : Json} {x : α}

theorem bind_eq_ok {given : Except ε α} {next : α → Except ε β} {y : β} :
    given >>= next = .ok y ↔ ∃ x, given = .ok x ∧ next x = .ok y := by
  cases given <;> simp [bind, Except.bind]

theorem map_eq_ok {given : Except ε α} {f : α → β} {y : β} :
    given.map f = .ok y ↔ ∃ x, given = .ok x ∧ f x = y := by
  cases given <;> simp [Except.map]

/-- The decoder takes what the encoder writes, and nothing else. -/
def Reads (decode : Decoder α) (encode : α → Json) : Prop := ∀ value x, decode value = .ok x ↔ value = encode x

theorem string_reads : Reads string .string := by
  intro value text
  cases value <;> simp [string]

theorem bool_reads : Reads bool .bool := by
  intro value flag
  cases value <;> simp [bool]

theorem Reads.items (reads : Reads decode encode) (values : List Json) (xs : List α) :
    items decode values = .ok xs ↔ values = xs.map encode := by
  induction values generalizing xs with
  | nil => cases xs <;> simp [Decoder.items]
  | cons value rest ih =>
    simp only [Decoder.items, bind_eq_ok, reads value, ih]
    cases xs with
    | nil => simp [pure, Except.pure]
    | cons x xs => simp [pure, Except.pure]

theorem Reads.list (reads : Reads decode encode) : Reads (list decode) fun xs => .array (xs.map encode) := by
  intro value xs
  cases value with
  | array values => simp only [Decoder.list, reads.items, array.injEq]
  | _ => simp [Decoder.list]

theorem string_solid (text : String) : Json.string text ≠ .null := nofun

theorem array_solid (values : List Json) : array values ≠ .null := nofun

/-- What an optional field says: nothing if it is missing or null. -/
inductive Gives (encode : α → Json) : Option Json → Option α → Prop where
  | missing : Gives encode none none
  | null : Gives encode (some .null) none
  | value (x : α) : Gives encode (some (encode x)) (some x)

theorem required_eq_ok {found : Option α} : required key found = .ok x ↔ found = some x := by
  cases found <;> simp [required]

theorem field_eq_some : field key decode data = .ok (some x) ↔
    ∃ value, data.get? key = some value ∧ decode value = .ok x := by
  unfold field
  cases data.get? key with
  | none => simp
  | some value => simp [map_eq_ok]

theorem Reads.field_eq_some (reads : Reads decode encode) :
    field key decode data = .ok (some x) ↔ data.get? key = some (encode x) := by
  simp only [Decoder.field_eq_some, reads _ _, exists_eq_right]

theorem Reads.optionalField_eq_ok (reads : Reads decode encode) (solid : ∀ x, encode x ≠ .null) {found : Option α} :
    optionalField key decode data = .ok found ↔ Gives encode (data.get? key) found := by
  unfold optionalField field
  cases data.get? key with
  | none =>
    refine ⟨?_, ?_⟩
    · rintro ⟨⟩
      exact .missing
    · rintro ⟨⟩
      rfl
  | some value =>
    by_cases null : value = .null
    · subst null
      refine ⟨?_, fun gives => ?_⟩
      · rintro ⟨⟩
        exact .null
      · cases found with
        | none => rfl
        | some x =>
          generalize shape : some Json.null = given at gives
          cases gives
          exact absurd (Option.some.inj shape).symm (solid x)
    · have plain : nullable decode value = (decode value).map some := by
        cases value <;> first | rfl | exact absurd rfl null
      simp only [plain, map_eq_ok, reads value]
      constructor
      · rintro ⟨_, ⟨_, ⟨x, rfl, rfl⟩, rfl⟩, rfl⟩
        exact .value x
      · intro gives
        cases gives with
        | null => exact absurd rfl null
        | value x => exact ⟨_, ⟨_, ⟨x, rfl, rfl⟩, rfl⟩, rfl⟩

/-- What an optional field says is what is written if it is there and not null. -/
theorem Gives.filter {given : Option Json} {found : Option α} (gives : Gives encode given found)
    (solid : ∀ x, encode x ≠ .null) : given.filter (!·.isNull) = found.map encode := by
  cases gives with
  | missing => rfl
  | null => rfl
  | value x =>
    have present : (encode x).isNull = false := by
      cases shape : encode x with
      | null => exact absurd shape (solid x)
      | _ => rfl
    simp [Option.filter, present]

theorem gives_of_eq {given : Option Json} {found : Option α} (written : given = found.map encode) :
    Gives encode given found := by
  subst written
  cases found with
  | none => exact .missing
  | some x => exact .value x

/-- What every step keeps that succeeds, a fold keeps that succeeds. -/
theorem foldlM_keeps {P : α → Prop} {step : α → β → Except ε α} {items : List β} {r r' : α}
    (steps : ∀ r item r', P r → step r item = .ok r' → P r') (initial : P r) (folds : items.foldlM step r = .ok r') :
    P r' := by
  induction items generalizing r with
  | nil =>
    cases folds
    exact initial
  | cons item rest ih =>
    obtain ⟨next, first, later⟩ := bind_eq_ok.mp folds
    exact ih (steps _ _ _ initial first) later

/-- What every field keeps that is set, a record has that is read, if its defaults have it. -/
theorem record_keeps {P : α → Prop} {name : String} {keys : List String}
    {set : α → String → Json → Except ShapeError α} {defaults : α}
    (sets : ∀ r key value r', P r → set r key value = .ok r' → P r') (initial : P defaults)
    (read : record name keys set defaults data = .ok x) : P x := by
  have steps (r : α) (field : String × Json) (r' : α) (before : P r) (sets' : set r field.1 field.2 = .ok r') : P r' :=
    sets _ _ _ _ before sets'
  cases data with
  | object fields => exact foldlM_keeps steps initial read
  | array values =>
    obtain ⟨r, folds, read⟩ := bind_eq_ok.mp read
    split at read
    · cases read
    · cases read
      exact foldlM_keeps steps initial folds
  | _ => cases read

end Decoder
end PayBridge.Json
