import PayBridge.Host.Channel

/-! Texts of web origins. Whatever reads an origin from a text gives the opaque one or the text of scheme,
host and port, so neither the word for the opaque origin nor the target that means every origin is ever
taken for a web origin. -/
namespace PayBridge

def Origin.IsWebText (text : String) : Prop :=
  ∃ scheme host port, text = String.ofList (Url.originText scheme host port)

/-- An origin that was read from a text: as an origin, or as an address that holds one. -/
def Origin.IsRead (origin : Origin) : Prop :=
  ∃ text, Origin.parse? text = some origin ∨ Origin.ofUrl? text = some origin

namespace Origin
variable {text address : String} {origin : Origin}

theorem IsWebText.head (web : IsWebText text) : text.toList.head? = some 'h' := by
  obtain ⟨scheme, host, port, rfl⟩ := web
  cases scheme <;> simp [Url.originText, Url.WebScheme.name]

theorem IsWebText.ne_opaque (web : IsWebText text) : text ≠ opaqueText := by
  rintro rfl
  exact absurd web.head (by decide)

theorem IsWebText.ne_any (web : IsWebText text) : text ≠ Channel.anyOrigin := by
  rintro rfl
  exact absurd web.head (by decide)

theorem ofUrl?_web (found : ofUrl? address = some (.tuple text)) : IsWebText text := by
  unfold ofUrl? at found
  split at found
  · simp only [Option.some.injEq, Origin.tuple.injEq] at found
    exact ⟨_, _, _, found.symm⟩
  · contradiction

theorem parse?_web (found : parse? address = some (.tuple text)) : IsWebText text := by
  unfold parse? at found
  split at found
  · cases found
  · exact ofUrl?_web found

theorem IsRead.web (read : IsRead (.tuple text)) : IsWebText text := by
  obtain ⟨source, parsed | found⟩ := read
  · exact parse?_web parsed
  · exact ofUrl?_web found

end Origin

theorem Frame.mem_candidates {frame : Frame} {origin : Origin} (member : origin ∈ frame.candidates) :
    origin.IsRead := by
  simp only [candidates, List.mem_filterMap, id_eq, exists_eq_right, List.mem_cons,
    List.not_mem_nil, or_false] at member
  rcases member with found | found | found
  · obtain ⟨text, _, read⟩ := Option.bind_eq_some_iff.mp found.symm
    exact ⟨text, .inr read⟩
  · obtain ⟨text, _, read⟩ := Option.bind_eq_some_iff.mp found.symm
    exact ⟨text, .inl read⟩
  · obtain ⟨text, _, read⟩ := Option.bind_eq_some_iff.mp found.symm
    exact ⟨text, .inl read⟩

theorem Frame.hostOrigin?_read {frame : Frame} {text : String}
    (found : frame.hostOrigin? = some (.tuple text)) : (Origin.tuple text).IsRead := by
  unfold hostOrigin? at found
  split at found
  · rename_i origin first
    cases found
    exact mem_candidates (List.mem_of_find?_eq_some first)
  · split at found
    · cases found
    · contradiction

end PayBridge
