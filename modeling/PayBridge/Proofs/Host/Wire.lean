import PayBridge.Proofs.Host.Grammar

/-! Messages of the host page on the wire. What is written is read back as the same message; and what is read is
written as it came, less the fields that are not the message's and the optional ones that are null. -/
namespace PayBridge.Message

open PayBridge.Json (IsOrdered)
open PayBridge.Json.Decoder

/-- Whether a field says something in a message of this kind: it is one of the kind's, and not an optional one that is
null. -/
def Kind.keeps (kind : Kind) (field : String × Json) : Bool :=
  ("type" :: kind.requiredFields).contains field.1 || kind.optionalFields.contains field.1 && !field.2.isNull

def Kind.writtenNames : Kind → List String
  | .walletConnect => ["amount", "currency", "requestId", "type", "walletName"]
  | .walletConnectResult => ["accounts", "error", "requestId", "success", "type", "walletName"]
  | .paymentSuccess => ["signature", "type"]
  | .paymentError => ["error", "type"]

variable {data other : Json} {fields : List (String × Json)} {message : Message} {key : String} {kind : Kind}

theorem Kind.writtenNames_ordered (kind : Kind) : kind.writtenNames.Pairwise (· < ·) := by
  cases kind <;> decide

theorem fields_ordered (message : Message) : IsOrdered message.fields := by
  have ordered := message.kind.writtenNames_ordered
  cases message with
  | walletConnect | walletConnectResult | paymentSuccess | paymentError => exact Json.present_ordered ordered

theorem get?_type (message : Message) : message.toJson.get? "type" = some (.string message.kind.name) := by
  have ordered := message.kind.writtenNames_ordered
  cases message with
  | walletConnect | walletConnectResult | paymentSuccess | paymentError =>
    refine Json.lookup_present ?_ "type"
    exact ordered

theorem toJson_carries (inbound : message.direction = .parentToChild) : Carries message.toJson message := by
  have ordered := message.kind.writtenNames_ordered
  cases message with
  | walletConnect => cases inbound
  | walletConnectResult result =>
    refine ⟨Json.lookup_present ?_ "walletName", Json.lookup_present ?_ "success",
      gives_of_eq (Json.lookup_present ?_ "accounts"), gives_of_eq (Json.lookup_present ?_ "error"),
      gives_of_eq (Json.lookup_present ?_ "requestId")⟩ <;> exact ordered
  | paymentSuccess signature => rfl
  | paymentError error =>
    refine gives_of_eq (Json.lookup_present ?_ "error")
    exact ordered

/-- A request for a wallet is written with the fields that say it as well, if the double in it is read as its amount. -/
theorem walletConnect_carries {request : WalletConnect}
    (read : decimalOfBinary64? request.amount.toBinary64 = some request.amount) :
    Carries (Message.walletConnect request).toJson (.walletConnect request) := by
  have ordered := (Message.walletConnect request).kind.writtenNames_ordered
  have amount : decodeAmount (.number (.float request.amount.toBinary64)) = .ok request.amount := by
    simp only [decodeAmount, read]
  refine ⟨Json.lookup_present ?_ "walletName", ⟨_, Json.lookup_present ?_ "amount", amount⟩,
    Json.lookup_present ?_ "currency", gives_of_eq (Json.lookup_present ?_ "requestId")⟩ <;> exact ordered

theorem parse_walletConnect {request : WalletConnect}
    (read : decimalOfBinary64? request.amount.toBinary64 = some request.amount) :
    parse (Message.walletConnect request).toJson = .ok (.walletConnect request) :=
  parse_eq_ok.mpr ⟨get?_type _, walletConnect_carries read⟩

theorem get?_amount (request : WalletConnect) :
    (Message.walletConnect request).toJson.get? "amount" = some (.number (.float request.amount.toBinary64)) := by
  have ordered := (Message.walletConnect request).kind.writtenNames_ordered
  refine Json.lookup_present ?_ "amount"
  exact ordered

/-- Values that say the same message have the same in its fields, except that null stands for nothing. -/
theorem Carries.agree (first : Carries data message) (second : Carries other message)
    (inbound : message.direction = .parentToChild) :
    (∀ key ∈ message.kind.requiredFields, data.get? key = other.get? key) ∧
    ∀ key ∈ message.kind.optionalFields,
      (data.get? key).filter (!·.isNull) = (other.get? key).filter (!·.isNull) := by
  cases message with
  | walletConnect => cases inbound
  | walletConnectResult result =>
    obtain ⟨walletName, success, accounts, error, requestId⟩ := first
    obtain ⟨walletName', success', accounts', error', requestId'⟩ := second
    simp only [Message.kind, Kind.requiredFields, Kind.optionalFields, List.forall_mem_cons]
    refine ⟨⟨success.trans success'.symm, walletName.trans walletName'.symm, List.forall_mem_nil _⟩, ?_, ?_, ?_,
      List.forall_mem_nil _⟩
    · exact (accounts.filter fun _ => array_solid _).trans (accounts'.filter fun _ => array_solid _).symm
    · exact (error.filter string_solid).trans (error'.filter string_solid).symm
    · exact (requestId.filter string_solid).trans (requestId'.filter string_solid).symm
  | paymentSuccess signature =>
    exact ⟨List.forall_mem_singleton.mpr (first.trans second.symm), List.forall_mem_nil _⟩
  | paymentError error =>
    refine ⟨List.forall_mem_nil _, List.forall_mem_singleton.mpr ?_⟩
    exact (first.filter string_solid).trans (second.filter string_solid).symm

/-- Values that agree in the fields of a kind agree in all that it keeps. -/
theorem Kind.keeps_congr (required : ∀ key ∈ "type" :: kind.requiredFields, data.get? key = other.get? key)
    (optional : ∀ key ∈ kind.optionalFields,
      (data.get? key).filter (!·.isNull) = (other.get? key).filter (!·.isNull))
    (key : String) : ((data.get? key).filter fun value => kind.keeps (key, value)) =
      (other.get? key).filter fun value => kind.keeps (key, value) := by
  by_cases needed : key ∈ "type" :: kind.requiredFields
  · rw [required key needed]
  · have unneeded : ("type" :: kind.requiredFields).contains key = false := by
      rwa [← Bool.not_eq_true, List.contains_iff_mem]
    by_cases optionally : key ∈ kind.optionalFields
    · have welcome : kind.optionalFields.contains key = true := List.contains_iff_mem.mpr optionally
      simpa only [Kind.keeps, unneeded, welcome, Bool.false_or, Bool.true_and] using optional key optionally
    · have strange : kind.optionalFields.contains key = false := by
        rwa [← Bool.not_eq_true, List.contains_iff_mem]
      simp only [Kind.keeps, unneeded, strange, Bool.false_or, Bool.false_and]
      cases data.get? key <;> cases other.get? key <;> rfl

theorem fields_kept (message : Message) : ∀ field ∈ message.fields, message.kind.keeps field = true := by
  cases message with
  | walletConnect request =>
    obtain ⟨_, _, _, requestId⟩ := request
    cases requestId <;> simp [fields, Json.present, Message.kind, Kind.keeps, Kind.requiredFields,
      Kind.optionalFields, Json.isNull]
  | walletConnectResult result =>
    obtain ⟨_, _, accounts, error, requestId⟩ := result
    cases accounts <;> cases error <;> cases requestId <;> simp [fields, Json.present, Message.kind, Kind.keeps,
      Kind.requiredFields, Kind.optionalFields, Json.isNull]
  | paymentSuccess signature =>
    simp [fields, Json.present, Message.kind, Kind.keeps, Kind.requiredFields]
  | paymentError error =>
    cases error <;> simp [fields, Json.present, Message.kind, Kind.keeps, Kind.requiredFields,
      Kind.optionalFields, Json.isNull]

/-- What is read is written as it came, less what its kind does not keep. -/
theorem written_field (read : parse data = .ok message) (inbound : message.direction = .parentToChild)
    (key : String) : message.toJson.get? key = (data.get? key).filter fun value => message.kind.keeps (key, value) := by
  obtain ⟨type, carries⟩ := parse_eq_ok.mp read
  obtain ⟨required, optional⟩ := (toJson_carries inbound).agree carries inbound
  have kept : message.toJson.get? key =
      (message.toJson.get? key).filter fun value => message.kind.keeps (key, value) := by
    cases found : message.toJson.get? key with
    | none => rfl
    | some value =>
      have member : (key, value) ∈ message.fields := (fields_ordered message).mem_iff.mpr found
      rw [Option.filter_some, if_pos (fields_kept message _ member)]
  rw [kept]
  exact Kind.keeps_congr (List.forall_mem_cons.mpr ⟨(get?_type message).trans type.symm, required⟩) optional key

/-- Every message of the host page is read back from what is written of it. And of a value that is read as such a
message, just the fields of its kind are written, and of these not the optional ones that are null: the same under
every key, and the same object if the value's keys are in order. -/
theorem host_messages_survive_the_wire :
    (∀ message : Message, message.direction = .parentToChild → parse message.toJson = .ok message) ∧
    ∀ data message, parse data = .ok message → message.direction = .parentToChild →
      ∃ fields, data = .object fields ∧
        (∀ key, message.toJson.get? key = (fields.lookup key).filter fun value => message.kind.keeps (key, value)) ∧
        (IsOrdered fields → message.toJson = .object (fields.filter message.kind.keeps)) := by
  refine ⟨fun message inbound => parse_eq_ok.mpr ⟨get?_type message, toJson_carries inbound⟩, ?_⟩
  intro data message read inbound
  cases data with
  | object fields =>
    refine ⟨fields, rfl, written_field read inbound, fun ordered => congrArg Json.object ?_⟩
    refine (fields_ordered message).ext (ordered.filter _) fun key => ?_
    rw [ordered.lookup_filter]
    exact written_field read inbound key
  | _ => cases read

/-- An empty list of accounts and an empty id are kept, a null error and a field of another kind are not. -/
theorem empty_answers_survive_the_wire :
    let fields : List (String × Json) := [("accounts", .array []), ("error", .null), ("requestId", .string ""),
      ("signature", .string "sig"), ("success", .bool true), ("type", .string "walletConnectResult"),
      ("walletName", .string " ")]
    let message : Message := .walletConnectResult ⟨" ", true, some [], none, some ""⟩
    parse (.object fields) = .ok message ∧ parse message.toJson = .ok message ∧
      message.toJson = .object [("accounts", .array []), ("requestId", .string ""), ("success", .bool true),
        ("type", .string "walletConnectResult"), ("walletName", .string " ")] := by
  intro fields message
  obtain ⟨readBack, written⟩ := host_messages_survive_the_wire
  have read : parse (.object fields) = .ok message := rfl
  obtain ⟨_, ⟨⟩, -, same⟩ := written _ message read rfl
  exact ⟨read, readBack message rfl, same (by decide)⟩

end PayBridge.Message
