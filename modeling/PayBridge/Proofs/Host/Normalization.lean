import PayBridge.Proofs.Host.Channel
import PayBridge.Proofs.Json.Fields
import PayBridge.Proofs.Text.Trim
import PayBridge.Proofs.Url.Web

/-! Reading an origin brings it into the one spelling in which it is compared. An origin that was read is read as
itself from its text. So settings that were read are written and read again without a change, and an origin that they
pin is one that a channel would take from a message, too. -/
namespace PayBridge

open PayBridge.Text

namespace Origin
variable {text : String} {origin : Origin} {scheme : Url.WebScheme} {host : Url.Host} {port : Option Nat}

/-- The text of scheme, host and port is read as the origin that it names. -/
theorem parse?_originText (normal : host.IsNormal) (explicit : Url.IsExplicit scheme port) :
    let web := String.ofList (Url.originText scheme host port)
    ofUrl? web = some (.tuple web) ∧ parse? web = some (.tuple web) := by
  intro web
  have unblank : trim web.toList = web.toList := by
    rw [String.toList_ofList]
    exact trim_of_no_blank fun c member => (Url.originText_isVisible normal c member).not_isBlank
  have same : trimmed web = web := by rw [trimmed, unblank, String.ofList_toList]
  have read : ofUrl? web = some (.tuple web) := by
    rw [ofUrl?, unblank, String.toList_ofList, Url.read?_originText normal explicit]
  have isWeb : IsWebText web := ⟨scheme, host, port, rfl⟩
  rw [parse?, same, if_neg isWeb.ne_opaque]
  exact ⟨read, read⟩

/-- A web origin that was read is scheme, host and port in the one way to write them. -/
theorem ofUrl?_originText (read : ofUrl? text = some origin) : ∃ scheme host port,
    origin = .tuple (String.ofList (Url.originText scheme host port)) ∧ host.IsNormal ∧ Url.IsExplicit scheme port := by
  unfold ofUrl? at read
  split at read
  case h_2 => cases read
  case h_1 scheme host port found =>
    obtain ⟨normal, explicit⟩ := Url.read?_isNormal found
    exact ⟨scheme, host, port, (Option.some.inj read).symm, normal, explicit⟩

/-- The two ways to read an origin: by the word for the opaque one, and as scheme, host and port. -/
theorem parse?_cases (read : parse? text = some origin) :
    trimmed text = opaqueText ∧ origin = .opaqueOrigin ∨
    trimmed text ≠ opaqueText ∧ ∃ scheme host port,
      origin = .tuple (String.ofList (Url.originText scheme host port)) ∧ host.IsNormal ∧
        Url.IsExplicit scheme port := by
  unfold parse? at read
  split at read
  case isTrue word => exact .inl ⟨word, (Option.some.inj read).symm⟩
  case isFalse other => exact .inr ⟨other, ofUrl?_originText read⟩

theorem parse?_text (read : parse? text = some origin) : parse? origin.text = some origin := by
  rcases parse?_cases read with ⟨_, rfl⟩ | ⟨_, scheme, host, port, rfl, normal, explicit⟩
  · decide +kernel
  · exact (parse?_originText normal explicit).2

end Origin

namespace Channel.Settings

open PayBridge.Json.Decoder

/-- The origin that settings name, if any, is read as itself. -/
def IsNormal (settings : Settings) : Prop :=
  ∀ origin ∈ settings.expectedOrigin, Origin.parse? origin.text = some origin

variable {settings changed : Settings} {key : String} {value : Json} {origin : Origin}

theorem decodeOrigin_eq_ok : decodeOrigin value = .ok origin ↔
    ∃ text, value = .string text ∧ Origin.parse? text = some origin := by
  constructor
  · intro read
    obtain ⟨text, written, read⟩ := bind_eq_ok.mp read
    refine ⟨text, (string_reads value text).mp written, ?_⟩
    unfold Origin.parse at read
    cases parsed : Origin.parse? text with
    | none =>
      rw [parsed] at read
      cases read
    | some other =>
      rw [parsed] at read
      cases read
      rfl
  · rintro ⟨text, rfl, parsed⟩
    refine bind_eq_ok.mpr ⟨text, rfl, ?_⟩
    rw [Origin.parse, parsed]
    rfl

theorem set_isNormal (normal : settings.IsNormal) (sets : settings.set key value = .ok changed) :
    changed.IsNormal := by
  unfold set at sets
  split at sets
  · obtain ⟨found, read, sets⟩ := bind_eq_ok.mp sets
    cases sets
    rintro origin ⟨⟩
    unfold nullable at read
    split at read
    · cases read
    · obtain ⟨_, decoded, same⟩ := map_eq_ok.mp read
      cases same
      obtain ⟨text, -, parsed⟩ := decodeOrigin_eq_ok.mp decoded
      exact Origin.parse?_text parsed
  · obtain ⟨debug, -, sets⟩ := bind_eq_ok.mp sets
    cases sets
    exact normal
  · cases sets
    exact normal

theorem decode_isNormal (read : decode value = .ok settings) : settings.IsNormal := by
  have initial : standard.IsNormal := by rintro _ ⟨⟩
  exact record_keeps (fun _ _ _ _ normal sets => set_isNormal normal sets) initial read

theorem IsNormal.decode_toJson (normal : settings.IsNormal) : decode settings.toJson = .ok settings := by
  obtain ⟨expected, debug⟩ := settings
  cases expected with
  | none => rfl
  | some origin =>
    have decoded : decodeOrigin (.string origin.text) = .ok origin :=
      decodeOrigin_eq_ok.mpr ⟨origin.text, rfl, normal origin rfl⟩
    have named : set ⟨none, debug⟩ "expectedOrigin" (.string origin.text) = .ok ⟨some origin, debug⟩ :=
      bind_eq_ok.mpr ⟨some origin, map_eq_ok.mpr ⟨origin, decoded, rfl⟩, rfl⟩
    exact bind_eq_ok.mpr ⟨⟨none, debug⟩, rfl, bind_eq_ok.mpr ⟨⟨some origin, debug⟩, named, rfl⟩⟩

theorem IsNormal.pinned {web : String} (normal : settings.IsNormal) (pinned : settings.pinned? = some web) :
    Origin.parse? web = some (.tuple web) := by
  unfold pinned? at pinned
  split at pinned
  case h_1 named =>
    obtain rfl := Option.some.inj pinned
    have read := normal (.tuple _) named
    rwa [Origin.text] at read
  case h_2 => cases pinned

end Channel.Settings

/-- Whatever text an origin was read from, its own text is read as the same origin. It is the opaque one just for the
word, without the blanks around it. Else the text is scheme, host and port, with the host as it is read again and no
port that the scheme implies. So all settings of a channel that were read are the same when they are written and read
again, and where they pin a web origin, a channel that may still choose would choose just this text. -/
theorem origins_are_read_in_one_spelling :
    (∀ text origin, Origin.parse? text = some origin →
      Origin.parse? origin.text = some origin ∧
      (origin = .opaqueOrigin ↔ trimmed text = "null") ∧
      (origin ≠ .opaqueOrigin → Origin.ofUrl? origin.text = some origin ∧ ∃ scheme host port,
        origin.text.toList = scheme.name ++ [':', '/', '/'] ++ host.text ++ Url.portText port ∧
        Url.Host.read? host.text = some host ∧ Url.IsExplicit scheme port)) ∧
    (∀ value settings, Channel.Settings.decode value = .ok settings →
      Channel.Settings.decode settings.toJson = .ok settings ∧
      ∀ web, settings.pinned? = some web → Origin.parse? web = some (.tuple web) ∧
        ∀ channel : Channel, channel.locked = none → channel.mayInfer = true →
          channel.trust web = .ok { channel with locked := some web }) := by
  refine ⟨fun text origin read => ?_, fun value settings read => ?_⟩
  · refine ⟨Origin.parse?_text read, ?_⟩
    rcases Origin.parse?_cases read with ⟨word, rfl⟩ | ⟨other, scheme, host, port, rfl, normal, explicit⟩
    · exact ⟨⟨fun _ => word, fun _ => rfl⟩, fun web => absurd rfl web⟩
    · refine ⟨⟨nofun, fun word => absurd word other⟩, fun _ => ⟨(Origin.parse?_originText normal explicit).1, ?_⟩⟩
      exact ⟨scheme, host, port, String.toList_ofList, normal.read?_text, explicit⟩
  · have normal := Channel.Settings.decode_isNormal read
    refine ⟨normal.decode_toJson, fun web pinned => ?_⟩
    have canonical := normal.pinned pinned
    exact ⟨canonical, fun channel free infers =>
      Channel.trust_iff.mpr (.inr ⟨free, infers, canonical, rfl⟩)⟩

/-- Blanks and a user in front, capitals, slashes the other way round, an address to base sixteen, the port of the
scheme and a path: all of it goes. -/
theorem odd_spellings_are_read_in_one :
    let odd := "\u3000 HTTP:\\\\user@0x7F.1:80/cart "
    Origin.parse? odd = some (.tuple "http://127.0.0.1") ∧
      Origin.parse? "http://127.0.0.1" = some (.tuple "http://127.0.0.1") := by
  intro odd
  have read : Origin.parse? odd = some (.tuple "http://127.0.0.1") := by decide +kernel
  exact ⟨read, (origins_are_read_in_one_spelling.1 odd _ read).1⟩

end PayBridge
