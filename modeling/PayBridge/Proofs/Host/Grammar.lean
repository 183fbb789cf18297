import PayBridge.Host.Message
import PayBridge.Proofs.Json.Fields

/-! Which values are messages. The type of a message is read twice: first by a table of the known names, then by the
reader of tagged values, which goes by the kinds' own names. Both agree, so a message is of the kind that it declares.
What it says stands in the fields of that kind, and other fields do not matter. -/
namespace PayBridge.Message

open PayBridge.Json (Decoder ShapeError)
open PayBridge.Json.Decoder

namespace Kind

def requiredFields : Kind → List String
  | .walletConnect => ["amount", "currency", "walletName"]
  | .walletConnectResult => ["success", "walletName"]
  | .paymentSuccess => ["signature"]
  | .paymentError => []

def optionalFields : Kind → List String
  | .walletConnect => ["requestId"]
  | .walletConnectResult => ["accounts", "error", "requestId"]
  | .paymentSuccess => []
  | .paymentError => ["error"]

def fieldNames (kind : Kind) : List String := kind.requiredFields ++ kind.optionalFields

def all : List Kind := [.walletConnect, .walletConnectResult, .paymentSuccess, .paymentError]

def ownName : Kind → String
  | .walletConnect => "WalletConnect"
  | .walletConnectResult => "WalletConnectResult"
  | .paymentSuccess => "PaymentSuccess"
  | .paymentError => "PaymentError"

/-- The tag of a kind: its own name, with a small letter in front. -/
def tag (kind : Kind) : String :=
  match kind.ownName.toList with
  | first :: rest => String.ofList (first.toLower :: rest)
  | [] => ""

end Kind

def decodeTag : Decoder Kind
  | .string tag =>
    match Kind.all.find? (·.tag == tag) with
    | some kind => .ok kind
    | none => .error (.unknownVariant tag (Kind.all.map Kind.tag))
  | value => .error (.wrongType value.found "variant identifier")

/-- Reads a message by its tag alone: the kind that the tag names, then this kind's fields from the rest. -/
def readTagged (fields : List (String × Json)) : Except ShapeError Message := do
  let kind ← Decoder.field "type" decodeTag (.object fields)
  let kind ← Decoder.required "type" kind
  decodePayload kind (.object (fields.filter (·.1 != "type")))

def texts (accounts : List String) : Json := .array (accounts.map .string)

/-- The fields of the value say what the message says. -/
def Carries (data : Json) : Message → Prop
  | .walletConnect request =>
    data.get? "walletName" = some (.string request.walletName) ∧
    (∃ amount, data.get? "amount" = some amount ∧ decodeAmount amount = .ok request.amount) ∧
    data.get? "currency" = some (.string request.currency) ∧
    Gives .string (data.get? "requestId") request.requestId
  | .walletConnectResult result =>
    data.get? "walletName" = some (.string result.walletName) ∧
    data.get? "success" = some (.bool result.success) ∧
    Gives texts (data.get? "accounts") result.accounts ∧
    Gives .string (data.get? "error") result.error ∧
    Gives .string (data.get? "requestId") result.requestId
  | .paymentSuccess signature => data.get? "signature" = some (.string signature)
  | .paymentError error => Gives .string (data.get? "error") error

variable {data other : Json} {fields : List (String × Json)} {kind : Kind} {message : Message} {name : String}

theorem Kind.ofName?_eq_some : ofName? name = some kind ↔ name = kind.name := by
  constructor
  · intro known
    unfold ofName? at known
    split at known <;> first | (cases known; rfl) | cases known
  · rintro rfl
    exact ofName?_name kind

theorem Kind.ofName?_eq_none : ofName? name = none ↔ ∀ kind : Kind, name ≠ kind.name := by
  simp only [Option.eq_none_iff_forall_ne_some, ne_eq, ofName?_eq_some]

theorem Kind.name_inj {first second : Kind} (same : first.name = second.name) : first = second :=
  Option.some.inj ((ofName?_name first).symm.trans (ofName?_eq_some.mpr same))

theorem decodeTag_name (kind : Kind) : decodeTag (.string kind.name) = .ok kind := by
  cases kind <;> rfl

theorem optionalText_eq_ok {key : String} {text : Option String} :
    Decoder.optionalField key Decoder.string data = .ok text ↔ Gives .string (data.get? key) text :=
  string_reads.optionalField_eq_ok string_solid

theorem decodeWalletConnect_eq_ok {request : WalletConnect} :
    decodeWalletConnect data = .ok request ↔ Carries data (.walletConnect request) := by
  simp only [decodeWalletConnect, bind_eq_ok, optionalText_eq_ok, required_eq_ok]
  constructor
  · rintro ⟨_, amount, _, currency, requestId, id, _, wallet, walletName, rfl, paid, rfl, symbol, rfl, ⟨⟩⟩
    exact ⟨string_reads.field_eq_some.mp wallet, field_eq_some.mp amount,
      string_reads.field_eq_some.mp currency, id⟩
  · rintro ⟨wallet, amount, currency, id⟩
    exact ⟨_, field_eq_some.mpr amount, _, string_reads.field_eq_some.mpr currency, _, id, _,
      string_reads.field_eq_some.mpr wallet, _, rfl, _, rfl, _, rfl, rfl⟩

theorem decodeWalletConnectResult_eq_ok {result : WalletConnectResult} :
    decodeWalletConnectResult data = .ok result ↔ Carries data (.walletConnectResult result) := by
  have accountList {found : Option (List String)} :
      Decoder.optionalField "accounts" (Decoder.list Decoder.string) data = .ok found ↔
        Gives texts (data.get? "accounts") found :=
    string_reads.list.optionalField_eq_ok fun _ => array_solid _
  simp only [decodeWalletConnectResult, bind_eq_ok, optionalText_eq_ok, accountList, required_eq_ok]
  constructor
  · rintro ⟨accounts, given, error, reason, requestId, id, _, flag, _, wallet, walletName, rfl, success, rfl, ⟨⟩⟩
    exact ⟨string_reads.field_eq_some.mp wallet, bool_reads.field_eq_some.mp flag, given, reason, id⟩
  · rintro ⟨wallet, flag, given, reason, id⟩
    exact ⟨_, given, _, reason, _, id, _, bool_reads.field_eq_some.mpr flag, _,
      string_reads.field_eq_some.mpr wallet, _, rfl, _, rfl, rfl⟩

theorem decodeSignature_eq_ok {signature : String} :
    decodeSignature data = .ok signature ↔ Carries data (.paymentSuccess signature) := by
  simp only [decodeSignature, bind_eq_ok, required_eq_ok, exists_eq_right, string_reads.field_eq_some, Carries]

/-- The fields of a kind are read as just the messages of that kind that they say. -/
theorem decodePayload_eq_ok :
    decodePayload kind data = .ok message ↔ message.kind = kind ∧ Carries data message := by
  cases kind with
  | walletConnect =>
    simp only [decodePayload, map_eq_ok, decodeWalletConnect_eq_ok]
    cases message <;> simp [Message.kind]
  | walletConnectResult =>
    simp only [decodePayload, map_eq_ok, decodeWalletConnectResult_eq_ok]
    cases message <;> simp [Message.kind]
  | paymentSuccess =>
    simp only [decodePayload, map_eq_ok, decodeSignature_eq_ok]
    cases message <;> simp [Message.kind]
  | paymentError =>
    simp only [decodePayload, map_eq_ok, optionalText_eq_ok]
    cases message <;> simp [Message.kind, Carries]

theorem decodePayload_congr (same : ∀ key ∈ kind.fieldNames, data.get? key = other.get? key) :
    decodePayload kind data = decodePayload kind other := by
  cases kind <;> simp only [Kind.fieldNames, Kind.requiredFields, Kind.optionalFields, List.cons_append,
    List.nil_append, List.append_nil, List.forall_mem_cons] at same
  case walletConnect | walletConnectResult | paymentSuccess | paymentError =>
    simp only [decodePayload, decodeWalletConnect, decodeWalletConnectResult, decodeSignature, Decoder.optionalField,
      Decoder.field, same]

theorem parse_declared (declared : fields.lookup "type" = some (.string kind.name)) :
    parse (.object fields) = (decodePayload kind (.object fields)).mapError (.invalidPayload kind) := by
  have type : declaredType? (.object fields) = some kind.name := Json.string?_eq_some.mpr declared
  simp only [parse, type, Kind.ofName?_name]

/-- The reader of tagged values takes the kind that the table of names gives. -/
theorem readTagged_declared (declared : fields.lookup "type" = some (.string kind.name)) :
    readTagged fields = decodePayload kind (.object fields) := by
  have type : Decoder.field "type" decodeTag (.object fields) = .ok (some kind) :=
    field_eq_some.mpr ⟨_, declared, decodeTag_name kind⟩
  have apart : ∀ key ∈ kind.fieldNames, (key != "type") = true := by cases kind <;> decide
  have rest : decodePayload kind (.object (fields.filter (·.1 != "type"))) = decodePayload kind (.object fields) :=
    decodePayload_congr fun key member => Json.lookup_filter_key (· != "type") (apart key member)
  rw [readTagged, type, ← rest]
  rfl

/-- What comes of a message that declares a kind: a message of that kind, or what is wrong with its fields. -/
theorem parse_declared_cases (declared : fields.lookup "type" = some (.string kind.name)) :
    (∃ message, parse (.object fields) = .ok message ∧ message.kind = kind) ∨
    ∃ cause, parse (.object fields) = .error (.invalidPayload kind cause) := by
  rw [parse_declared declared]
  cases read : decodePayload kind (.object fields) with
  | ok message => exact .inl ⟨message, rfl, (decodePayload_eq_ok.mp read).1⟩
  | error cause => exact .inr ⟨cause, rfl⟩

theorem parse_unknown (declared : fields.lookup "type" = some (.string name))
    (unknown : ∀ kind : Kind, name ≠ kind.name) : parse (.object fields) = .error (.unknownType name) := by
  have type : declaredType? (.object fields) = some name := Json.string?_eq_some.mpr declared
  simp only [parse, type, Kind.ofName?_eq_none.mpr unknown]

theorem parse_typeless (typeless : ∀ name, fields.lookup "type" ≠ some (.string name)) :
    parse (.object fields) = .error .missingType := by
  have type : declaredType? (.object fields) = none :=
    Option.eq_none_iff_forall_ne_some.mpr fun name declared => typeless name (Json.string?_eq_some.mp declared)
  simp only [parse, type]

theorem parse_declared_eq_ok (declared : fields.lookup "type" = some (.string kind.name)) :
    parse (.object fields) = .ok message ↔ message.kind = kind ∧ Carries (.object fields) message := by
  rw [parse_declared declared, ← decodePayload_eq_ok]
  cases decodePayload kind (.object fields) <;> simp [Except.mapError]

theorem parse_no_object (other : ∀ fields, data ≠ .object fields) : parse data = .error .notAnObject := by
  cases data with
  | object fields => exact absurd rfl (other fields)
  | _ => rfl

theorem type_cases (fields : List (String × Json)) :
    (∃ kind : Kind, fields.lookup "type" = some (.string kind.name)) ∨
    (∃ name, fields.lookup "type" = some (.string name) ∧ ∀ kind : Kind, name ≠ kind.name) ∨
    ∀ name, fields.lookup "type" ≠ some (.string name) := by
  by_cases declared : ∃ name, fields.lookup "type" = some (.string name)
  · obtain ⟨name, declared⟩ := declared
    by_cases known : ∃ kind : Kind, name = kind.name
    · obtain ⟨kind, rfl⟩ := known
      exact .inl ⟨kind, declared⟩
    · exact .inr (.inl ⟨name, declared, not_exists.mp known⟩)
  · exact .inr (.inr (not_exists.mp declared))

/-- Why an object is refused: it has no type, an unknown one, or not the fields of its type. -/
theorem parse_error_cases {cause : Message.Error} (refused : parse (.object fields) = .error cause) :
    (cause = .missingType ∧ ∀ name, fields.lookup "type" ≠ some (.string name)) ∨
    (∃ name, cause = .unknownType name ∧ ∀ kind : Kind, name ≠ kind.name) ∨
    ∃ kind shape, cause = .invalidPayload kind shape := by
  rcases type_cases fields with ⟨kind, declared⟩ | ⟨name, declared, unknown⟩ | typeless
  · rcases parse_declared_cases declared with ⟨message, read, _⟩ | ⟨shape, wrong⟩
    · cases refused.symm.trans read
    · exact .inr (.inr ⟨kind, shape, Except.error.inj (refused.symm.trans wrong)⟩)
  · exact .inr (.inl ⟨name, Except.error.inj (refused.symm.trans (parse_unknown declared unknown)), unknown⟩)
  · exact .inl ⟨Except.error.inj (refused.symm.trans (parse_typeless typeless)), typeless⟩

/-- A value is read as a message if it declares the message's type and has its fields. -/
theorem parse_eq_ok : parse data = .ok message ↔
    data.get? "type" = some (.string message.kind.name) ∧ Carries data message := by
  cases data with
  | object fields =>
    rw [Json.get?]
    rcases type_cases fields with ⟨kind, declared⟩ | ⟨name, declared, unknown⟩ | typeless
    · rw [parse_declared_eq_ok declared, declared, Option.some.injEq, Json.string.injEq]
      exact and_congr_left fun _ => ⟨fun same => same ▸ rfl, fun same => (Kind.name_inj same).symm⟩
    · rw [parse_unknown declared unknown, declared]
      exact ⟨nofun, fun ⟨same, _⟩ => absurd (Json.string.inj (Option.some.inj same)) (unknown message.kind)⟩
    · rw [parse_typeless typeless]
      exact ⟨nofun, fun ⟨same, _⟩ => absurd same (typeless message.kind.name)⟩
  | _ => simp [parse, Json.get?]

/-- Every value is refused or read by its grammar. What is no object is refused as such; an object without a text for
its type, as one without a type; one of an unknown type, by that type. An object of a known type is read by its tag as
a message of that type, or its fields are refused. It is read as a message if its fields say what the message says,
and fields other than those of its type may be there or not. -/
theorem parse_accepts_just_the_grammar (data : Json) :
    (parse data = .error .notAnObject ↔ ∀ fields, data ≠ .object fields) ∧
    ∀ fields, data = .object fields →
      (parse data = .error .missingType ↔ ∀ name, fields.lookup "type" ≠ some (.string name)) ∧
      ∀ name, fields.lookup "type" = some (.string name) →
        (parse data = .error (.unknownType name) ↔ ∀ kind : Kind, name ≠ kind.name) ∧
        ∀ kind : Kind, name = kind.name →
          parse data = (readTagged fields).mapError (.invalidPayload kind) ∧
          (∀ message, readTagged fields = .ok message → message.kind = kind) ∧
          ((∃ message, parse data = .ok message) ∨ ∃ cause, parse data = .error (.invalidPayload kind cause)) ∧
          (∀ message, parse data = .ok message ↔ message.kind = kind ∧ Carries data message) ∧
          ∀ others, (∀ key ∈ "type" :: kind.fieldNames, others.lookup key = fields.lookup key) →
            parse (.object others) = parse data := by
  refine ⟨⟨?_, parse_no_object⟩, ?_⟩
  · rintro refused fields rfl
    rcases parse_error_cases refused with ⟨⟨⟩, _⟩ | ⟨_, ⟨⟩, _⟩ | ⟨_, _, ⟨⟩⟩
  rintro fields rfl
  refine ⟨⟨fun refused => ?_, parse_typeless⟩, fun name declared =>
    ⟨⟨fun refused => ?_, parse_unknown declared⟩, ?_⟩⟩
  · rcases parse_error_cases refused with ⟨_, typeless⟩ | ⟨_, ⟨⟩, _⟩ | ⟨_, _, ⟨⟩⟩
    exact typeless
  · rcases parse_error_cases refused with ⟨⟨⟩, _⟩ | ⟨_, ⟨⟩, unknown⟩ | ⟨_, _, ⟨⟩⟩
    exact unknown
  rintro kind rfl
  have tagged := readTagged_declared declared
  refine ⟨?_, fun message read => ?_, ?_, fun message => parse_declared_eq_ok declared, fun others same => ?_⟩
  · rw [tagged, parse_declared declared]
  · exact (decodePayload_eq_ok.mp (tagged.symm.trans read)).1
  · exact (parse_declared_cases declared).imp_left fun ⟨message, read, _⟩ => ⟨message, read⟩
  · obtain ⟨type, rest⟩ := List.forall_mem_cons.mp same
    have payload : decodePayload kind (.object others) = decodePayload kind (.object fields) :=
      decodePayload_congr rest
    rw [parse_declared (type.trans declared), parse_declared declared, payload]

end PayBridge.Message
