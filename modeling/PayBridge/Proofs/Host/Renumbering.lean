import PayBridge.Proofs.Host.Correlation

/-! Ids counted from another start. An id is only ever compared with another one, so the ids of a whole conversation
may be shifted by one number, in what is posted and in what is answered, and nothing else changes. Numbers below one,
which no attempt gets, are shifted too, so that a shift can be undone. -/
namespace PayBridge

namespace Handshake

/-- The id with a number, which may be below zero. -/
def signedId (number : Int) : String := "connect-" ++ toString number

theorem signedId_natCast (number : Nat) : signedId number = numberedId number := rfl

/-- The number of an id. What it is for other texts does not matter. -/
def idNumber (id : String) : Int :=
  match id.toList.drop 8 with
  | '-' :: digits => -(Nat.ofDigitChars 10 digits 0 : Nat)
  | digits => Nat.ofDigitChars 10 digits 0

theorem idNumber_signedId (number : Int) : idNumber (signedId number) = number := by
  have digits (n : Nat) : (toString n).toList = Nat.toDigits 10 n := by
    rw [Nat.toString_eq_repr, Nat.toList_repr]
  cases number with
  | ofNat n =>
    have shape : (signedId (.ofNat n)).toList.drop 8 = Nat.toDigits 10 n := by
      change ("connect-" ++ toString n).toList.drop 8 = _
      rw [String.toList_append, digits]
      rfl
    unfold idNumber
    rw [shape]
    split
    · rename_i minus
      have digit := Nat.isDigit_of_mem_toDigits (by decide) (by decide)
        (minus ▸ List.mem_cons_self : '-' ∈ Nat.toDigits 10 n)
      cases digit
    · rw [Nat.ofDigitChars_ten_toDigits]
      rfl
  | negSucc n =>
    have shape : (signedId (.negSucc n)).toList.drop 8 = '-' :: Nat.toDigits 10 (n + 1) := by
      change ("connect-" ++ ("-" ++ toString (n + 1))).toList.drop 8 = _
      rw [String.toList_append, String.toList_append, digits]
      rfl
    simp only [idNumber, shape, Nat.ofDigitChars_ten_toDigits]
    rfl

/-- Shifts the number of an id. Other texts stay as they are. -/
def renumber (shift : Int) (id : String) : String :=
  if signedId (idNumber id) = id then signedId (idNumber id + shift) else id

theorem renumber_signedId (shift number : Int) : renumber shift (signedId number) = signedId (number + shift) := by
  simp only [renumber, idNumber_signedId, ↓reduceIte]

theorem id_cases (id : String) : (∃ number, id = signedId number) ∨ ∀ shift, renumber shift id = id := by
  by_cases numbered : signedId (idNumber id) = id
  · exact .inl ⟨_, numbered.symm⟩
  · exact .inr fun shift => if_neg numbered

theorem renumber_renumber (first second : Int) (id : String) :
    renumber second (renumber first id) = renumber (first + second) id := by
  rcases id_cases id with ⟨number, rfl⟩ | fixed
  · simp only [renumber_signedId, Int.add_assoc]
  · simp only [fixed]

@[simp]
theorem renumber_zero (id : String) : renumber 0 id = id := by
  rcases id_cases id with ⟨number, rfl⟩ | fixed
  · rw [renumber_signedId, Int.add_zero]
  · exact fixed 0

theorem renumber_inj {shift : Int} {id other : String} (same : renumber shift id = renumber shift other) :
    id = other := by
  have undone := congrArg (renumber (-shift)) same
  simpa only [renumber_renumber, Int.add_right_neg, renumber_zero] using undone

/-- Whether an answer may belong to an attempt does not depend on where the ids start. -/
theorem belongs_renumber (shift : Int) (sent received : Option String) :
    belongs (sent.map (renumber shift)) (received.map (renumber shift)) = belongs sent received := by
  cases sent with
  | none => rfl
  | some sent =>
    cases received with
    | none => rfl
    | some received =>
      rw [Bool.eq_iff_iff]
      simp only [Option.map_some, belongs, beq_iff_eq]
      exact ⟨renumber_inj, congrArg _⟩

end Handshake

namespace Json

def renumberedText (shift : Int) : Json → Json
  | .string id => .string (Handshake.renumber shift id)
  | value => value

def renumbered (shift : Int) : Json → Json
  | .object fields => .object (fields.map fun (key, value) =>
      (key, if key = "requestId" then value.renumberedText shift else value))
  | value => value

variable {shift : Int} {data : Json} {key : String}

theorem renumbered_renumbered (first second : Int) (data : Json) :
    (data.renumbered first).renumbered second = data.renumbered (first + second) := by
  cases data with
  | object fields =>
    simp only [renumbered, List.map_map, Json.object.injEq]
    refine List.map_congr_left fun field _ => ?_
    by_cases isId : field.1 = "requestId"
    · simp only [Function.comp_apply, isId, ↓reduceIte, Prod.mk.injEq, true_and]
      cases field.2 with
      | string id => exact congrArg _ (Handshake.renumber_renumber first second id)
      | _ => rfl
    · simp only [Function.comp_apply, isId, ↓reduceIte]
  | _ => rfl

@[simp]
theorem renumbered_zero (data : Json) : data.renumbered 0 = data := by
  cases data with
  | object fields =>
    refine congrArg Json.object ((List.map_congr_left fun field _ => ?_).trans (List.map_id fields))
    have same : field.2.renumberedText 0 = field.2 := by
      cases field.2 with
      | string id => exact congrArg Json.string (Handshake.renumber_zero id)
      | _ => rfl
    simp only [same, ite_self, id_eq]
  | _ => rfl

theorem get?_renumbered (shift : Int) (data : Json) (key : String) : (data.renumbered shift).get? key =
    (data.get? key).map fun value => if key = "requestId" then value.renumberedText shift else value := by
  cases data with
  | object fields =>
    simp only [renumbered, get?]
    induction fields with
    | nil => rfl
    | cons field rest ih =>
      obtain ⟨name, value⟩ := field
      simp only [List.map_cons, List.lookup_cons]
      cases found : key == name with
      | true => simp only [eq_of_beq found, Option.map_some]
      | false => exact ih
  | _ => rfl

namespace Decoder
variable {α : Type} {decode : Decoder α}

theorem field_renumbered (other : key ≠ "requestId") :
    field key decode (data.renumbered shift) = field key decode data := by
  simp only [field, get?_renumbered, other, ↓reduceIte, Option.map_id']

theorem optionalField_renumbered (other : key ≠ "requestId") :
    optionalField key decode (data.renumbered shift) = optionalField key decode data := by
  simp only [optionalField, field_renumbered other]

theorem requestId_renumbered : optionalField "requestId" string (data.renumbered shift) =
    Option.map (Handshake.renumber shift) <$> optionalField "requestId" string data := by
  simp only [optionalField, field, get?_renumbered, ↓reduceIte]
  cases data.get? "requestId" with
  | none => rfl
  | some value => cases value <;> rfl

end Decoder
end Json

namespace Message
open PayBridge.Json (Decoder)

variable {shift : Int} {data : Json}

def renumbered (shift : Int) : Message → Message
  | .walletConnect request =>
    .walletConnect { request with requestId := request.requestId.map (Handshake.renumber shift) }
  | .walletConnectResult result =>
    .walletConnectResult { result with requestId := result.requestId.map (Handshake.renumber shift) }
  | message => message

theorem renumbered_kind (message : Message) : (message.renumbered shift).kind = message.kind := by
  cases message <;> rfl

theorem renumbered_direction (message : Message) : (message.renumbered shift).direction = message.direction := by
  simp only [direction, renumbered_kind]

theorem decodeWalletConnect_renumbered : decodeWalletConnect (data.renumbered shift) =
    (fun request => { request with requestId := request.requestId.map (Handshake.renumber shift) }) <$>
      decodeWalletConnect data := by
  simp only [decodeWalletConnect, Decoder.field_renumbered, Decoder.requestId_renumbered, ne_eq, String.reduceEq,
    not_false_eq_true, map_bind, bind_map_left, map_pure]

theorem decodeWalletConnectResult_renumbered : decodeWalletConnectResult (data.renumbered shift) =
    (fun result => { result with requestId := result.requestId.map (Handshake.renumber shift) }) <$>
      decodeWalletConnectResult data := by
  simp only [decodeWalletConnectResult, Decoder.field_renumbered, Decoder.optionalField_renumbered,
    Decoder.requestId_renumbered, ne_eq, String.reduceEq, not_false_eq_true, map_bind, bind_map_left, map_pure]

theorem decodePayload_renumbered (kind : Message.Kind) : decodePayload kind (data.renumbered shift) =
    (decodePayload kind data).map (renumbered shift) := by
  cases kind with
  | walletConnect =>
    simp only [decodePayload, decodeWalletConnect_renumbered]
    cases decodeWalletConnect data <;> rfl
  | walletConnectResult =>
    simp only [decodePayload, decodeWalletConnectResult_renumbered]
    cases decodeWalletConnectResult data <;> rfl
  | paymentSuccess =>
    have same : decodeSignature (data.renumbered shift) = decodeSignature data := by
      simp only [decodeSignature, Decoder.field_renumbered, ne_eq, String.reduceEq, not_false_eq_true]
    simp only [decodePayload, same]
    cases decodeSignature data <;> rfl
  | paymentError =>
    simp only [decodePayload, Decoder.optionalField_renumbered, ne_eq, String.reduceEq, not_false_eq_true]
    cases Decoder.optionalField "error" Decoder.string data <;> rfl

/-- Data with its id shifted is read as the message with its id shifted, or refused all the same. -/
theorem parse_renumbered (shift : Int) (data : Json) :
    parse (data.renumbered shift) = (parse data).map (renumbered shift) := by
  cases data with
  | object fields =>
    obtain ⟨others, shape⟩ : ∃ others, Json.renumbered shift (.object fields) = .object others := ⟨_, rfl⟩
    have type : declaredType? (.object others) = declaredType? (.object fields) := by
      simp only [← shape, declaredType?, Json.get?_renumbered, String.reduceEq, ↓reduceIte, Option.map_id']
    have payload (kind : Message.Kind) : decodePayload kind (.object others) =
        (decodePayload kind (.object fields)).map (renumbered shift) := by
      rw [← shape, decodePayload_renumbered]
    rw [shape]
    simp only [parse, type]
    cases declaredType? (.object fields) with
    | none => rfl
    | some name =>
      cases known : Message.Kind.ofName? name with
      | none => simp only [known, Except.map]
      | some kind =>
        simp only [known, payload]
        cases decodePayload kind (.object fields) <;> rfl
  | _ => rfl

theorem toJson_renumbered (shift : Int) (message : Message) :
    (message.renumbered shift).toJson = message.toJson.renumbered shift := by
  cases message with
  | walletConnect request =>
    obtain ⟨_, _, _, requestId⟩ := request
    cases requestId <;> rfl
  | walletConnectResult result =>
    obtain ⟨_, _, accounts, error, requestId⟩ := result
    cases accounts <;> cases error <;> cases requestId <;> rfl
  | paymentSuccess signature => rfl
  | paymentError error => cases error <;> rfl

end Message

def Arrival.renumbered (shift : Int) (event : Arrival) : Arrival := { event with data := event.data.renumbered shift }

def Posting.renumbered (shift : Int) (posting : Posting) : Posting :=
  { posting with message := posting.message.renumbered shift }

/-- The port that hears the ids before the shift. -/
def Port.renumbered (shift : Int) (port : Port) : Port := fun posting => port (posting.renumbered (-shift))

theorem Arrival.renumbered_renumbered (first second : Int) (event : Arrival) :
    (event.renumbered first).renumbered second = event.renumbered (first + second) := by
  simp only [Arrival.renumbered, Json.renumbered_renumbered]

theorem Posting.renumbered_renumbered (first second : Int) (posting : Posting) :
    (posting.renumbered first).renumbered second = posting.renumbered (first + second) := by
  simp only [Posting.renumbered, Json.renumbered_renumbered]

@[simp]
theorem Arrival.renumbered_zero (event : Arrival) : event.renumbered 0 = event := by
  simp only [Arrival.renumbered, Json.renumbered_zero]

@[simp]
theorem Posting.renumbered_zero (posting : Posting) : posting.renumbered 0 = posting := by
  simp only [Posting.renumbered, Json.renumbered_zero]

@[simp]
theorem Port.renumbered_posting (shift : Int) (port : Port) (posting : Posting) :
    port.renumbered shift (posting.renumbered shift) = port posting := by
  simp only [Port.renumbered, Posting.renumbered_renumbered, Int.add_right_neg, Posting.renumbered_zero]

namespace Channel

/-- An event is accepted or dropped whatever its id is. -/
theorem accept_renumbered (shift : Int) (channel : Channel) (event : Arrival) :
    channel.accept (event.renumbered shift) =
      (channel.accept event).map fun heard => (heard.1.renumbered shift, heard.2) := by
  unfold accept
  simp only [Arrival.renumbered, Message.parse_renumbered]
  cases event.fromParent with
  | false => rfl
  | true =>
    cases channel.trust event.origin with
    | error violation => rfl
    | ok trusting =>
      cases Message.parse event.data with
      | error cause => rfl
      | ok message =>
        change (if (message.renumbered shift).direction ≠ .parentToChild
          then .error (Violation.unexpectedDirection (message.renumbered shift).kind)
          else .ok (message.renumbered shift, trusting)) = Except.map _
            (if message.direction ≠ .parentToChild then .error (Violation.unexpectedDirection message.kind)
            else Except.ok (message, trusting))
        rw [Message.renumbered_direction, Message.renumbered_kind]
        split <;> rfl

theorem send_renumbered (shift : Int) (channel : Channel) (port : Port) (message : Message) :
    channel.send (port.renumbered shift) (message.renumbered shift) =
      (channel.send port message).map (Posting.renumbered shift) := by
  have direction : (message.renumbered shift).direction = message.direction := message.renumbered_direction
  by_cases outward : message.direction = .childToParent
  · cases trusted : channel.target? with
    | none =>
      simp only [send, direction, outward, trusted, ne_eq, not_true_eq_false, ↓reduceIte]
      rfl
    | some target =>
      have same : port.renumbered shift ⟨message.toJson.renumbered shift, target⟩ = port ⟨message.toJson, target⟩ :=
        Port.renumbered_posting shift port ⟨message.toJson, target⟩
      rw [send_to (direction.trans outward) trusted, send_to outward trusted, Message.toJson_renumbered, same]
      cases port ⟨message.toJson, target⟩ <;> rfl
  · simp only [send, direction, message.renumbered_kind, ne_eq, outward, not_false_eq_true, ↓reduceIte]
    rfl

end Channel

namespace Handshake

def State.renumbered (shift : Int) : Handshake.State → Handshake.State
  | .connecting walletName requestId => .connecting walletName (requestId.map (renumber shift))
  | state => state

/-- The flow that has given out as many more ids. -/
def renumbered (shift : Nat) (flow : Handshake) : Handshake :=
  { flow with state := flow.state.renumbered shift, issued := flow.issued + shift }

theorem State.renumbered_isInFlight (shift : Int) (state : Handshake.State) :
    (state.renumbered shift).isInFlight = state.isInFlight := by
  cases state <;> rfl

@[simp]
theorem renumbered_zero (flow : Handshake) : flow.renumbered 0 = flow := by
  obtain ⟨state, usesRequestIds, issued⟩ := flow
  cases state with
  | connecting walletName requestId =>
    have same : requestId.map (renumber 0) = requestId := by cases requestId <;> simp
    exact congrArg (fun id => (⟨.connecting walletName id, usesRequestIds, issued⟩ : Handshake)) same
  | _ => rfl

theorem issueId_renumbered (shift : Nat) (flow : Handshake) : (flow.renumbered shift).issueId =
    (flow.issueId.1.map (renumber shift), flow.issueId.2.renumbered shift) := by
  cases numbers : flow.usesRequestIds with
  | false => simp only [issueId, renumbered, numbers, Bool.false_eq_true, ↓reduceIte, Option.map_none]
  | true =>
    have next : numberedId (flow.issued + shift + 1) = renumber shift (numberedId (flow.issued + 1)) := by
      rw [← signedId_natCast, ← signedId_natCast, renumber_signedId]
      congr 1
      omega
    have shifted : (flow.renumbered shift).usesRequestIds = true := numbers
    rw [issueId_numbered numbers, issueId_numbered shifted]
    simp only [renumbered, Option.map_some, next, Nat.add_right_comm]

theorem apply_renumbered (shift : Nat) (flow : Handshake) (message : Message) :
    (flow.renumbered shift).apply (message.renumbered shift) =
      ((flow.apply message).1.renumbered shift, (flow.apply message).2) := by
  have inFlight : (flow.renumbered shift).state.isInFlight = flow.state.isInFlight :=
    State.renumbered_isInFlight shift flow.state
  cases message with
  | walletConnect request => rfl
  | walletConnectResult result =>
    obtain ⟨state, usesRequestIds, issued⟩ := flow
    cases state with
    | connecting walletName requestId =>
      simp only [Message.renumbered, apply, applyResult, renumbered, State.renumbered, belongs_renumber]
      split
      · rfl
      · split <;> rfl
    | _ => rfl
  | paymentSuccess signature =>
    simp only [Message.renumbered, apply, inFlight]
    split <;> rfl
  | paymentError error =>
    simp only [Message.renumbered, apply, inFlight]
    split <;> rfl

theorem request_renumbered (shift : Nat) (flow : Handshake) (channel : Channel) (port : Port)
    (order : WalletOrder) :
    (flow.renumbered shift).request channel (port.renumbered shift) order =
      ((flow.request channel port order).1.renumbered shift,
        (flow.request channel port order).2.map (Posting.renumbered shift)) := by
  have inFlight : (flow.renumbered shift).state.isInFlight = flow.state.isInFlight :=
    State.renumbered_isInFlight shift flow.state
  unfold request
  rw [inFlight, issueId_renumbered]
  split
  · rfl
  split
  · rfl
  cases order.amountToPay with
  | error cause => rfl
  | ok amount =>
    have sent := Channel.send_renumbered shift channel port (.walletConnect
      { walletName := order.walletName, amount, currency := order.currency, requestId := flow.issueId.1 })
    simp only [Message.renumbered] at sent
    simp only [sent]
    cases channel.send port _ <;> rfl

end Handshake
end PayBridge
