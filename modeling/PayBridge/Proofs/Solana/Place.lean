import PayBridge.Proofs.Solana.AddressText
import PayBridge.Proofs.Solana.PaymentQuery

/-! Where a payment is looked for. A request holds texts: the address of the recipient, and the mint of the currency
that was named when it was built. Whoever watches for the payment reads these texts again, and finds the currency by
its mint. Both find the same entry of the table, so the payment is looked for where it goes. -/
namespace PayBridge.Solana

open PayBridge.Text

namespace Currency

variable {cluster : Cluster} {symbol : String} {currency other : Currency} {token : Token} {mint : Address}

theorem lookup?_spec (found : lookup? cluster symbol = some currency) : currency ∈ table ∧
    currency.cluster = cluster ∧ equalIgnoringCase currency.symbol (trimmed symbol) = true := by
  have named := List.find?_some found
  rw [Bool.and_eq_true] at named
  exact ⟨List.mem_of_find?_eq_some found, eq_of_beq named.1, named.2⟩

/-- A mint belongs to one currency, on one cluster. -/
theorem eq_of_mint (member : currency ∈ table) (member' : other ∈ table) (minted : currency.mint? = some mint)
    (minted' : other.mint? = some mint) : currency = other := by
  have apart : ∀ currency ∈ table, ∀ other ∈ table, currency.mint? = other.mint? →
      currency.mint? = none ∨ currency = other := by decide +kernel
  rcases apart currency member other member' (minted.trans minted'.symm) with coin | same
  · cases minted.symm.trans coin
  · exact same

theorem tokenOfMint?_eq (member : currency ∈ table) (paid : currency.token = some token) (cluster : Cluster) :
    tokenOfMint? cluster token.mint = if currency.cluster = cluster then some token else none := by
  have minted : currency.mint? = some token.mint := congrArg (Option.map Token.mint) paid
  cases found : tokenOfMint? cluster token.mint with
  | none =>
    refine (if_neg fun here => ?_).symm
    have listed : currency ∈ all cluster := List.mem_filter.mpr ⟨member, beq_iff_eq.mpr here⟩
    have missed := List.findSome?_eq_none_iff.mp found currency listed
    rw [paid, Option.filter_some, if_pos BEq.rfl] at missed
    cases missed
  | some known =>
    obtain ⟨entry, listed, matched⟩ := List.exists_of_findSome?_eq_some found
    obtain ⟨inTable, here⟩ := List.mem_filter.mp listed
    obtain ⟨held, same⟩ := Option.filter_eq_some_iff.mp matched
    have minted' : entry.mint? = some token.mint := by
      rw [mint?, held, ← eq_of_beq same]
      rfl
    obtain rfl := eq_of_mint inTable member minted' minted
    rw [if_pos (eq_of_beq here), ← paid, ← held]

/-- Every token but one has its accounts under the first token program. -/
theorem program_eq_spl (member : currency ∈ table) (paid : currency.token = some token)
    (classic : currency.symbol ≠ "PYUSD") : token.program = .spl := by
  have programs : ∀ currency ∈ table, currency.symbol = "PYUSD" ∨
      ∀ token ∈ currency.token, token.program = .spl := by decide +kernel
  exact (programs currency member).resolve_left classic token paid

end Currency

variable {request : PaymentRequest} {address : Address} {currency : Currency} {token : Token}

theorem watchAddress_coin (canonical : request.recipient = address.text) (native : request.mint = none)
    (cluster : Cluster) : watchAddress request cluster = .ok address := by
  rw [watchAddress, canonical, address.read_text, native]
  rfl

theorem watchAddress_token (canonical : request.recipient = address.text)
    (asked : request.mint = some token.mint.text) (member : currency ∈ Currency.table)
    (paid : currency.token = some token) (cluster : Cluster) :
    watchAddress request cluster =
      if currency.cluster = cluster then .ok (TokenAccount.address address token.mint token.program)
      else .error (.unsupportedCurrency ⟨request.currency, cluster⟩) := by
  rw [watchAddress, canonical, address.read_text, asked]
  simp only [Except.mapError, bind, Except.bind, token.mint.read_text, Currency.tokenOfMint?_eq member paid]
  by_cases here : currency.cluster = cluster
  · rw [if_pos here, if_pos here]
    rfl
  · rw [if_neg here, if_neg here]
    rfl

namespace Merchant

variable {merchant : Merchant} {sequence random : Nat} {recipient symbol : String} {amount : Decimal}

/-- However recipient and currency were spelled: a payment in the cluster's coin is looked for at the recipient's
address, on every cluster. A payment in tokens is looked for at the account that the recipient has for the mint in the
request, which is the mint of the currency that was named, on the cluster of the request and on no other. The account
is one of the first token program, unless PYUSD was named. -/
theorem payments_are_looked_for_where_they_go
    (built : merchant.build sequence random recipient amount symbol = .ok request) :
    ∃ address currency, Address.read recipient = .ok address ∧
      Currency.lookup? merchant.cluster symbol = some currency ∧ request.isNative = currency.isNative ∧
      (request.isNative = true → ∀ cluster, watchAddress request cluster = .ok address) ∧
      (request.isNative = false → ∃ token, currency.token = some token ∧ request.mint = some token.mint.text ∧
        Address.read token.mint.text = .ok token.mint ∧
        (equalIgnoringCase "PYUSD" (trimmed symbol) = false → token.program = .spl) ∧
        watchAddress request merchant.cluster = .ok (TokenAccount.address address token.mint token.program) ∧
        ∀ cluster, cluster ≠ merchant.cluster →
          watchAddress request cluster = .error (.unsupportedCurrency ⟨request.currency, cluster⟩)) := by
  obtain ⟨address, currency, known, found, records⟩ := build_records built
  obtain ⟨canonical, -, asked, -⟩ := records.rest
  obtain ⟨member, here, named⟩ := Currency.lookup?_spec found
  have minted : request.mint = currency.token.map (·.mint.text) := by
    rw [asked, Currency.asset, Currency.mint?, Option.map_map]
    rfl
  refine ⟨address, currency, known, found, ?_⟩
  rw [PaymentRequest.isNative, minted, Currency.isNative]
  cases paid : currency.token with
  | none =>
    rw [paid] at minted
    refine ⟨rfl, fun _ => watchAddress_coin canonical minted, fun token => ?_⟩
    cases token
  | some token =>
    rw [paid] at minted
    have watched := watchAddress_token canonical minted member paid
    refine ⟨rfl, fun coin => ?_, fun _ => ⟨token, rfl, rfl, token.mint.read_text, fun other => ?_, ?_,
      fun cluster apart => ?_⟩⟩
    · cases coin
    · refine Currency.program_eq_spl member paid fun excluded => ?_
      rw [excluded, other] at named
      cases named
    · rw [watched, if_pos here]
    · rw [watched, if_neg fun same => apart (same.symm.trans here)]

/-- A token named in small letters, and a recipient with blanks around. -/
theorem carelessly_spelled_payment_is_found :
    let merchant := Merchant.ofCluster .devnet
    let recipient := " 9WzDXwBbmkg8ZTbNMqUxvQRAyrZzDsGYdLVL9zYtAWWM\n"
    ∃ request, merchant.build 1 10 recipient ⟨false, 25, 1, by decide, by decide⟩ " usdc " = .ok request ∧
      ∃ address mint, Address.read recipient = .ok address ∧ request.mint = some mint.text ∧
        watchAddress request .devnet = .ok (TokenAccount.address address mint .spl) ∧
        watchAddress request .mainnet = .error (.unsupportedCurrency ⟨"USDC", .mainnet⟩) := by
  intro merchant recipient
  let request : PaymentRequest := ⟨"9WzDXwBbmkg8ZTbNMqUxvQRAyrZzDsGYdLVL9zYtAWWM",
    ⟨false, 25, 1, by decide, by decide⟩, "USDC", 2500000, some "4zMMC9srt5Ri5X14GAgXhaHii3GnPAEERYPJgZJDncDU",
    ⟨"pl-1-a"⟩, "solana:9WzDXwBbmkg8ZTbNMqUxvQRAyrZzDsGYdLVL9zYtAWWM?amount=2.5&" ++
      "spl-token=4zMMC9srt5Ri5X14GAgXhaHii3GnPAEERYPJgZJDncDU&memo=pl-1-a"⟩
  have built : merchant.build 1 10 recipient ⟨false, 25, 1, by decide, by decide⟩ " usdc " = .ok request := by
    decide +kernel
  obtain ⟨address, currency, known, -, -, -, token⟩ := payments_are_looked_for_where_they_go built
  obtain ⟨token, -, minted, -, classic, seen, unseen⟩ := token rfl
  rw [classic (by decide +kernel)] at seen
  exact ⟨request, built, address, token.mint, known, minted, seen, unseen .mainnet (by decide)⟩

end Merchant
end PayBridge.Solana
