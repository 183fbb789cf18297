import PayBridge.Proofs.Decimal.Wire
import PayBridge.Proofs.Host.Wire
import PayBridge.Proofs.Payment.Amount
import PayBridge.Proofs.Session.Moves
import PayBridge.Proofs.Solana.PaymentAddress

/-! What a payer is asked for. The payment address that is shown as a code carries the request's amount as it was
given, without zeros at its end; the message to the host page carries the double that this amount goes to, which may
miss it if it has many digits. On the ledger the request is worth its whole minor units, so digits finer than the
asset's places are in what is asked for and not in what is recorded. -/
namespace PayBridge

open PayBridge.Text

namespace PaymentRequest

structure Records (recipient : String) (amount : Decimal) (asset : Asset) (memo : Memo)
    (encode : PaymentRequest → String) (request : PaymentRequest) : Prop where
  positive : request.amount.negative = false
  value : request.amount.value = amount.value
  units : request.minorUnits = ⌊amount.value * 10 ^ asset.places⌋₊
  tight : request.amount.scale = 0 ∨ request.amount.mantissa % 10 ≠ 0
  rest : request.recipient = recipient ∧ request.currency = asset.symbol ∧ request.mint = asset.mint ∧
    request.memo = memo
  payload : request.qrPayload = encode { request with qrPayload := "" }

variable {recipient : String} {amount : Decimal} {asset : Asset} {memo : Memo}
  {encode : PaymentRequest → String} {request : PaymentRequest}

theorem make_records (made : make recipient amount asset memo encode = .ok request) :
    Records recipient amount asset memo encode request := by
  unfold make at made
  rw [Amount.minorUnits_eq] at made
  by_cases below : amount.value < 0
  · rw [if_pos below] at made
    cases made
  · rw [if_neg below] at made
    have positive : amount.isNegative = false := Bool.eq_false_iff.mpr (mt (Decimal.isNegative_iff amount).mp below)
    split at made
    · cases made
      exact ⟨positive, amount.normalize_value, rfl, amount.normalize_tight, ⟨rfl, rfl, rfl, rfl⟩, rfl⟩
    · cases made

end PaymentRequest

namespace Solana.Merchant

open PayBridge.Url.FormEncoded

/-- The address of a request begins with its amount, written as it is. -/
theorem uri_amount (merchant : Merchant) {request : PaymentRequest} {address : Address}
    (canonical : request.recipient = address.text) (positive : request.amount.negative = false) :
    ∃ rest, (merchant.uri request).toList =
      "solana:".toList ++ request.recipient.toList ++ "?amount=".toList ++ request.amount.text.toList ++
        '&' :: rest := by
  have plain : ∀ c ∈ request.amount.text.toList, isPlain c = true := by
    rw [Decimal.toList_text positive]
    intro c member
    rcases Decimal.mem_magnitudeText member with digit | rfl
    · simp only [isPlain, isAlphanumeric, digit, Bool.or_true, Bool.true_or]
    · rfl
  have pairs : ∃ second others, merchant.query request =
      ("amount", request.amount.text) :: second :: others := by
    unfold query
    cases request.mint with
    | none => exact ⟨_, _, rfl⟩
    | some mint => exact ⟨_, _, rfl⟩
  obtain ⟨second, others, pairs⟩ := pairs
  have amount : encodePair ("amount", request.amount.text) = "amount=".toList ++ request.amount.text.toList := by
    have key : encodeText "amount" = "amount".toList := encodeText_plain (List.all_eq_true.mp rfl)
    rw [encodePair, encodeText_plain plain, key]
    rfl
  refine ⟨['&'].intercalate ((second :: others).map encodePair), ?_⟩
  simp only [merchant.uri_eq canonical, pairs, encode, List.map_cons, amount, String.toList_append,
    String.toList_ofList, List.intercalate_cons_cons, List.append_assoc]
  rfl

end Solana.Merchant

namespace Session

/-- Connecting a wallet without an amount typed in asks the host page for the amount of the request. -/
theorem posted_amount {session : Session} {port : Port} {walletName : String} {posting : Posting}
    (posted : .posted posting ∈ (session.connectWallet port walletName none).effects) :
    ∃ requestId, posting.message = (Message.walletConnect
      ⟨walletName, session.request.amount, session.request.currency, requestId⟩).toJson := by
  rcases session.connectWallet_cases walletName none with
    ⟨cause, _, refused⟩ | ⟨_, amount, target, _, _, _, priced, settled⟩
  · rw [refused] at posted
    cases posted
  · rw [settled] at posted
    obtain rfl : session.request.amount = amount := Except.ok.inj priced
    cases said : port (session.handshake.opening (session.order walletName none) session.request.amount target) with
    | error reason =>
      rw [said] at posted
      cases posted
    | ok =>
      rw [said] at posted
      simp only [List.mem_cons, SessionEffect.posted.injEq, reduceCtorEq, List.not_mem_nil, or_false] at posted
      subst posted
      exact ⟨session.handshake.issueId.1, rfl⟩

end Session

namespace PaymentRequest

variable {recipient : String} {amount : Decimal} {asset : Asset} {memo : Memo}
  {encode : PaymentRequest → String} {request : PaymentRequest}

/-- The payment address names the amount as it was given, and the message to the host page the double that it goes to:
a number near the amount, which is read as the amount itself if its text is the amount's, so always if the amount has
at most fifteen digits and not very many places. What is recorded is its whole minor units: all of it if the amount
shows no finer digits than the asset has places, and only then. -/
theorem payers_are_asked_for_the_amount (made : make recipient amount asset memo encode = .ok request) :
    (request.amount.value = amount.value ∧ 0 ≤ amount.value ∧
      Amount.parse request.amount.text = .ok request.amount) ∧
    request.minorUnits = ⌊request.amount.value * 10 ^ asset.places⌋₊ ∧
    (request.amount.value * 10 ^ asset.places = request.minorUnits ↔ request.amount.scale ≤ asset.places) ∧
    (∀ (merchant : Solana.Merchant) (address : Solana.Address), recipient = address.text → encode = merchant.uri →
      ∃ rest, request.qrPayload.toList =
        "solana:".toList ++ recipient.toList ++ "?amount=".toList ++ request.amount.text.toList ++ '&' :: rest) ∧
    request.amount.IsSentAs request.amount.toBinary64 ∧
    (∀ (session : Session) (port : Port) (walletName : String) (posting : Posting), session.request = request →
      .posted posting ∈ (session.connectWallet port walletName none).effects →
      ∃ order : WalletConnect, order.walletName = walletName ∧ order.amount = request.amount ∧
        order.currency = request.currency ∧ posting.message = (Message.walletConnect order).toJson ∧
        posting.message.get? "amount" = some (.number (.float request.amount.toBinary64)) ∧
        (request.amount.toBinary64.plain = request.amount.text.toList →
          Message.parse posting.message = .ok (.walletConnect order))) := by
  have records := make_records made
  have units : request.minorUnits = ⌊request.amount.value * 10 ^ asset.places⌋₊ := by
    rw [records.units, records.value]
  have least : 0 ≤ amount.value := by
    rw [← records.value, Decimal.value_of_positive records.positive]
    positivity
  refine ⟨⟨records.value, least, Amount.parse_text records.positive⟩, units, ?_, ?_,
    Decimal.isSentAs_toBinary64 records.positive records.tight, ?_⟩
  · rw [units]
    exact Decimal.value_whole_iff records.positive records.tight asset.places
  · rintro merchant address canonical rfl
    have draft : ({ request with qrPayload := "" } : PaymentRequest).amount.negative = false := records.positive
    obtain ⟨rest, payload⟩ := merchant.uri_amount (records.rest.1.trans canonical) draft
    rw [← records.rest.1, records.payload]
    exact ⟨rest, payload⟩
  · rintro session port walletName posting rfl posted
    obtain ⟨requestId, message⟩ := session.posted_amount posted
    rw [message]
    refine ⟨⟨walletName, _, _, requestId⟩, rfl, rfl, rfl, rfl, Message.get?_amount _, fun text => ?_⟩
    exact Message.parse_walletConnect (Decimal.decimalOfBinary64?_toBinary64 records.positive text)

/-- Two and a half units of a token of six places. -/
theorem even_amount_is_recorded_whole :
    ∃ request, make "merchant" ⟨false, 250, 2, by decide, by decide⟩ ⟨"USDC", 6, some "mint"⟩ ⟨"pl-1-a"⟩
        (Solana.Merchant.ofCluster .mainnet).uri = .ok request ∧
      request.minorUnits = 2500000 ∧
      request.qrPayload = "solana:merchant?amount=2.5&spl-token=mint&memo=pl-1-a" ∧
      request.amount.value * 10 ^ 6 = request.minorUnits := by
  have made : make "merchant" ⟨false, 250, 2, by decide, by decide⟩ ⟨"USDC", 6, some "mint"⟩ ⟨"pl-1-a"⟩
      (Solana.Merchant.ofCluster .mainnet).uri = .ok
        ⟨"merchant", ⟨false, 25, 1, by decide, by decide⟩, "USDC", 2500000, some "mint", ⟨"pl-1-a"⟩,
          "solana:merchant?amount=2.5&spl-token=mint&memo=pl-1-a"⟩ := by
    rfl
  exact ⟨_, made, rfl, rfl, (payers_are_asked_for_the_amount made).2.2.1.mpr (by decide)⟩

/-- Of seven digits a token of six places records six, and an amount of eighteen digits that is recorded whole is sent
as another one. -/
theorem asked_amounts_can_miss_what_is_recorded :
    (∃ request, make "merchant" ⟨false, 12345678, 7, by decide, by decide⟩ ⟨"USDC", 6, some "mint"⟩ ⟨"pl-1-a"⟩
        (Solana.Merchant.ofCluster .mainnet).uri = .ok request ∧
      request.minorUnits = 1234567 ∧
      request.qrPayload = "solana:merchant?amount=1.2345678&spl-token=mint&memo=pl-1-a" ∧
      request.amount.value * 10 ^ 6 ≠ request.minorUnits) ∧
    ∃ request, make "merchant" ⟨false, 123456789123456789, 9, by decide, by decide⟩ ⟨"SOL", 9, none⟩ ⟨"pl-1-a"⟩
        (Solana.Merchant.ofCluster .mainnet).uri = .ok request ∧
      request.minorUnits = 123456789123456789 ∧
      request.qrPayload = "solana:merchant?amount=123456789.123456789&memo=pl-1-a" ∧
      request.amount.toBinary64.plain = "123456789.12345679".toList := by
  have finer : make "merchant" ⟨false, 12345678, 7, by decide, by decide⟩ ⟨"USDC", 6, some "mint"⟩ ⟨"pl-1-a"⟩
      (Solana.Merchant.ofCluster .mainnet).uri = .ok
        ⟨"merchant", ⟨false, 12345678, 7, by decide, by decide⟩, "USDC", 1234567, some "mint", ⟨"pl-1-a"⟩,
          "solana:merchant?amount=1.2345678&spl-token=mint&memo=pl-1-a"⟩ := by
    rfl
  have longer : make "merchant" ⟨false, 123456789123456789, 9, by decide, by decide⟩ ⟨"SOL", 9, none⟩ ⟨"pl-1-a"⟩
      (Solana.Merchant.ofCluster .mainnet).uri = .ok
        ⟨"merchant", ⟨false, 123456789123456789, 9, by decide, by decide⟩, "SOL", 123456789123456789, none, ⟨"pl-1-a"⟩,
          "solana:merchant?amount=123456789.123456789&memo=pl-1-a"⟩ := by
    rfl
  refine ⟨⟨_, finer, rfl, rfl, ?_⟩, ⟨_, longer, rfl, rfl, ?_⟩⟩
  · rw [Decimal.value_of_positive rfl]
    norm_num
  · decide +kernel

end PaymentRequest

end PayBridge
