import PayBridge.Proofs.Payment.AskedAmount
import PayBridge.Proofs.Url.FormEncoded

/-! The payment address of a request says what the request says, and nothing else: decoding its query gives the
amount, the mint, the memo and the texts of the merchant, whatever characters these hold. -/
namespace PayBridge.Solana.Merchant

open PayBridge.Text PayBridge.Url

variable {merchant : Merchant} {sequence random : Nat} {recipient symbol : String} {amount : Decimal}
  {request : PaymentRequest} {address : Address}

theorem build_records (built : merchant.build sequence random recipient amount symbol = .ok request) :
    ∃ address currency, Address.read recipient = .ok address ∧
      Currency.lookup? merchant.cluster symbol = some currency ∧
      PaymentRequest.Records address.text amount currency.asset
        (Memo.ofNumbers merchant.memoLead sequence random) merchant.uri request := by
  unfold build at built
  cases found : Currency.lookup? merchant.cluster symbol with
  | none =>
    rw [found] at built
    cases built
  | some currency =>
    rw [found] at built
    cases known : Address.read recipient with
    | error cause =>
      rw [known] at built
      cases built
    | ok address =>
      rw [known] at built
      cases made : PaymentRequest.make address.text amount currency.asset
          (Memo.ofNumbers merchant.memoLead sequence random) merchant.uri with
      | error cause =>
        simp only [Except.mapError, bind, Except.bind, made, reduceCtorEq] at built
      | ok result =>
        simp only [Except.mapError, bind, Except.bind, made, Except.ok.injEq] at built
        subst built
        exact ⟨address, currency, rfl, rfl, PaymentRequest.make_records made⟩

/-- What a payment address names, in its order. -/
theorem query_eq (merchant : Merchant) (request : PaymentRequest) :
    merchant.query request = [("amount", request.amount.text)] ++
      (if request.isNative then [] else request.mint.toList.map (("spl-token", ·))) ++
      [("memo", request.memo.text)] ++ merchant.label.toList.map (("label", ·)) ++
      merchant.message.toList.map (("message", ·)) := by
  unfold query PaymentRequest.isNative
  cases request.mint <;> cases merchant.label <;> cases merchant.message <;> rfl

theorem payload_parts (canonical : request.recipient = address.text)
    (payload : request.qrPayload = merchant.uri { request with qrPayload := "" }) :
    let query := FormEncoded.encode (merchant.query request)
    request.qrPayload = "solana:" ++ request.recipient ++ "?" ++ String.ofList query ∧
      Rootless.read? request.qrPayload.toList = some ⟨"solana".toList, request.recipient.toList⟩ ∧
      cutAt? '?' request.qrPayload.toList = some (("solana:" ++ request.recipient).toList, query) := by
  intro query
  have text : request.qrPayload = "solana:" ++ request.recipient ++ "?" ++ String.ofList query :=
    payload.trans (merchant.uri_eq canonical)
  have parts : request.qrPayload.toList = ("solana:" ++ request.recipient).toList ++ '?' :: query := by
    simp only [text, String.toList_append, String.toList_ofList, List.append_assoc]
    rfl
  refine ⟨text, ?_, ?_⟩
  · rw [parts, canonical]
    refine address.read?_base (List.forall_mem_cons.mpr ⟨⟨by decide, by decide⟩, ?_⟩) fun c first => ?_
    · exact (FormEncoded.encode_isVisible _).1
    · exact (Option.some.inj first).symm
  · rw [parts]
    refine cutAt?_append (fun member => ?_) query
    rw [canonical, String.toList_append, List.mem_append] at member
    rcases member with inScheme | inRecipient
    · exact absurd inScheme (by decide)
    · exact absurd (address.text_isAlphanumeric _ inRecipient) (by decide)

/-- The address of a request that is built can always be read: scheme, recipient and query. Decoded, the query gives
just the pairs of the request and of its merchant: an amount that is read back as the request's amount, a mint if it
is not paid in the cluster's coin, the memo, and label and message as they were set. -/
theorem payment_address_decodes_to_the_request
    (built : merchant.build sequence random recipient amount symbol = .ok request) :
    ∃ address currency query, Address.read recipient = .ok address ∧
      Currency.lookup? merchant.cluster symbol = some currency ∧
      request.recipient = address.text ∧ request.amount.value = amount.value ∧
      request.mint = currency.mint?.map Address.text ∧ request.isNative = currency.isNative ∧
      request.memo = Memo.ofNumbers merchant.memoLead sequence random ∧
      Rootless.read? ("solana:" ++ request.recipient).toList =
        some ⟨"solana".toList, request.recipient.toList⟩ ∧
      Rootless.read? request.qrPayload.toList = some ⟨"solana".toList, request.recipient.toList⟩ ∧
      request.qrPayload = "solana:" ++ request.recipient ++ "?" ++ String.ofList query ∧
      cutAt? '?' request.qrPayload.toList = some (("solana:" ++ request.recipient).toList, query) ∧ '#' ∉ query ∧
      FormEncoded.decode? query = some ([("amount", request.amount.text)] ++
        (if request.isNative then [] else request.mint.toList.map (("spl-token", ·))) ++
        [("memo", request.memo.text)] ++ merchant.label.toList.map (("label", ·)) ++
        merchant.message.toList.map (("message", ·))) ∧
      Amount.parse request.amount.text = .ok request.amount := by
  obtain ⟨address, currency, known, found, records⟩ := build_records built
  obtain ⟨canonical, -, mint, memo⟩ := records.rest
  obtain ⟨payload, whole, cut⟩ := payload_parts canonical records.payload
  have base := address.read?_base (List.forall_mem_nil IsVisible) nofun
  rw [List.append_nil, ← canonical] at base
  have native : request.isNative = currency.isNative := by
    rw [PaymentRequest.isNative, mint, Currency.isNative, Currency.asset, Currency.mint?]
    cases currency.token <;> rfl
  have decoded := (FormEncoded.decode?_encode (merchant.query request)).trans
    (congrArg some (merchant.query_eq request))
  exact ⟨address, currency, _, known, found, canonical, records.value, mint, native, memo, base, whole, payload, cut,
    (FormEncoded.encode_isVisible _).2, decoded, Amount.parse_text records.positive⟩

/-- A merchant whose texts would end the query or name another amount if they were not encoded. -/
theorem hostile_texts_decode_as_texts :
    let merchant : Merchant := ⟨.mainnet, "pl&amount=1", some "Café #1? 100%", some "a=b&label=+"⟩
    let recipient := "4zMMC9srt5Ri5X14GAgXhaHii3GnPAEERYPJgZJDncDU"
    ∃ request, merchant.build 7 255 recipient ⟨false, 1050, 2, by decide, by decide⟩ "usdc" = .ok request ∧
      ∃ query, request.qrPayload = "solana:" ++ recipient ++ "?" ++ String.ofList query ∧
        FormEncoded.decode? query = some [("amount", "10.5"),
          ("spl-token", "EPjFWdd5AufqSSqeM2qN1xzybapC8G4wEGGkZwyTDt1v"), ("memo", "pl&amount=1-7-ff"),
          ("label", "Café #1? 100%"), ("message", "a=b&label=+")] := by
  intro merchant recipient
  let request : PaymentRequest := ⟨recipient, ⟨false, 105, 1, by decide, by decide⟩, "USDC", 10500000,
    some "EPjFWdd5AufqSSqeM2qN1xzybapC8G4wEGGkZwyTDt1v", ⟨"pl&amount=1-7-ff"⟩,
    "solana:4zMMC9srt5Ri5X14GAgXhaHii3GnPAEERYPJgZJDncDU?amount=10.5&" ++
      "spl-token=EPjFWdd5AufqSSqeM2qN1xzybapC8G4wEGGkZwyTDt1v&memo=pl%26amount%3D1-7-ff&" ++
      "label=Caf%C3%A9+%231%3F+100%25&message=a%3Db%26label%3D%2B"⟩
  have built : merchant.build 7 255 recipient ⟨false, 1050, 2, by decide, by decide⟩ "usdc" = .ok request := by
    decide +kernel
  have amount : request.amount.text = "10.5" := by decide +kernel
  obtain ⟨address, currency, query, -, -, -, -, -, -, -, -, -, payload, -, -, decoded, -⟩ :=
    payment_address_decodes_to_the_request built
  rw [amount] at decoded
  exact ⟨request, built, query, payload, decoded⟩

end PayBridge.Solana.Merchant
