import PayBridge.Proofs.Search.Observing
import PayBridge.Solana.Ledger

/-! Which transaction confirms a payment: the first on the page whose log carries the memo. A node also lists the
transactions that failed, and marks them, but a page does not keep the marks. A failed transaction that carries the
memo therefore confirms like one that paid. -/
namespace PayBridge.Solana

def confirming? (memo : Memo) (statuses : List TransactionStatus) : Option TransactionStatus :=
  statuses.find? (·.entry.carries memo)

/-- The transaction as it would be listed had it not failed. -/
def TransactionStatus.unmarked (status : TransactionStatus) : TransactionStatus := { status with failure := none }

def Node.unmarked (node : Node) : Node := fun lookup => (node lookup).map (List.map TransactionStatus.unmarked)

/-- What polling tells, if each look asks the next of the nodes: one node, as it answers at each time. -/
def LedgerWatch.findings (watch : LedgerWatch) (limit : Nat) (memo : Memo) (maxAttempts : Nat)
    (nodes : List Node) : List Finding :=
  (Search.start memo maxAttempts).observeAll (nodes.map fun node => watch.fetch node limit)

def Confirms (watch : LedgerWatch) (limit : Nat) (memo : Memo) (node : Node) (status : TransactionStatus) : Prop :=
  ∃ statuses, node (watch.lookup limit) = .ok statuses ∧ confirming? memo statuses = some status

variable {watch : LedgerWatch} {limit : Nat} {memo : Memo} {node : Node} {status : TransactionStatus}

theorem match?_fetch {entry : LedgerEntry} (matched : Search.match? memo (watch.fetch node limit) = some entry) :
    ∃ status, Confirms watch limit memo node status ∧ status.entry = entry := by
  unfold LedgerWatch.fetch at matched
  cases answer : node (watch.lookup limit) with
  | error reason =>
    rw [answer] at matched
    cases matched
  | ok statuses =>
    simp only [answer, LedgerWatch.pageOf, Search.match?, List.find?_map, Option.map_eq_some_iff] at matched
    obtain ⟨status, found, same⟩ := matched
    exact ⟨status, ⟨statuses, answer, found⟩, same⟩

theorem Confirms.carries (confirms : Confirms watch limit memo node status) :
    ∃ statuses, node (watch.lookup limit) = .ok statuses ∧ status ∈ statuses ∧ status.entry.carries memo = true := by
  obtain ⟨statuses, answer, found⟩ := confirms
  unfold confirming? at found
  have carries := List.find?_some found
  exact ⟨statuses, answer, List.mem_of_find?_eq_some found, carries⟩

theorem fetch_unmarked (watch : LedgerWatch) (limit : Nat) (node : Node) :
    watch.fetch node.unmarked limit = watch.fetch node limit := by
  unfold LedgerWatch.fetch Node.unmarked
  cases node (watch.lookup limit) with
  | error reason => rfl
  | ok statuses =>
    simp only [Except.map, LedgerWatch.pageOf, List.map_map]
    rfl

/-- However a node answers, look after look: a payment is confirmed only by a transaction that the node lists, the
first of its list whose log carries the memo, and by its signature. If none of those has failed, it is one that has
not failed. But what is told is the same as if no transaction were marked as failed. -/
theorem confirmations_ignore_failure (watch : LedgerWatch) (limit : Nat) (memo : Memo) (maxAttempts : Nat)
    (nodes : List Node) :
    (∀ signature, .confirmed signature ∈ watch.findings limit memo maxAttempts nodes →
      ∃ node ∈ nodes, ∃ status, Confirms watch limit memo node status ∧ status.signature = signature) ∧
    ((∀ node ∈ nodes, ∀ status, Confirms watch limit memo node status → status.failure = none) →
      ∀ signature, .confirmed signature ∈ watch.findings limit memo maxAttempts nodes →
        ∃ node ∈ nodes, ∃ statuses status, node (watch.lookup limit) = .ok statuses ∧ status ∈ statuses ∧
          status.signature = signature ∧ status.entry.carries memo = true ∧ status.failure = none) ∧
    watch.findings limit memo maxAttempts (nodes.map Node.unmarked) =
      watch.findings limit memo maxAttempts nodes := by
  have confirmed : ∀ signature, .confirmed signature ∈ watch.findings limit memo maxAttempts nodes →
      ∃ node ∈ nodes, ∃ status, Confirms watch limit memo node status ∧ status.signature = signature := by
    intro signature told
    obtain ⟨page, member, entry, matched, signed⟩ := Search.confirmed_on_page told nofun
    obtain ⟨node, asked, rfl⟩ := List.mem_map.mp member
    obtain ⟨status, confirms, rfl⟩ := match?_fetch matched
    exact ⟨node, asked, status, confirms, signed⟩
  refine ⟨confirmed, fun landed signature told => ?_, ?_⟩
  · obtain ⟨node, asked, status, confirms, signed⟩ := confirmed signature told
    obtain ⟨statuses, answer, member, carries⟩ := confirms.carries
    exact ⟨node, asked, statuses, status, answer, member, signed, carries, landed node asked status confirms⟩
  · simp only [LedgerWatch.findings, List.map_map, Function.comp_def, fetch_unmarked]

/-- A transaction that failed, alone on its page and in front of one that paid: it confirms the payment. -/
theorem failed_transactions_confirm :
    let watch := LedgerWatch.ofAddress ⟨0, by decide⟩
    let failed : TransactionStatus := ⟨"failed", some "InstructionError", some "[6] pl-0-1"⟩
    let paid : TransactionStatus := ⟨"paid", none, some "[6] pl-0-1"⟩
    ∀ statuses ∈ [[failed], [failed, paid]],
      .confirmed "failed" ∈ watch.findings 10 ⟨"pl-0-1"⟩ 90 [fun _ => .ok statuses] ∧
      ∀ status ∈ statuses, status.signature = "failed" → status.failure ≠ none := by
  decide +kernel

/-- A payment that is seen at the second look, behind a failed transaction with another memo. -/
theorem paid_transaction_confirms :
    let watch := LedgerWatch.ofAddress ⟨0, by decide⟩
    let nodes : List Node := [fun _ => .error "node unavailable", fun _ => .ok
      [⟨"other", some "InstructionError", some "[6] pl-0-2"⟩, ⟨"paid", none, some "[6] pl-0-1"⟩]]
    .confirmed "paid" ∈ watch.findings 10 ⟨"pl-0-1"⟩ 90 nodes ∧
      ∃ node ∈ nodes, ∃ status, Confirms watch 10 ⟨"pl-0-1"⟩ node status ∧ status.signature = "paid" := by
  intro watch nodes
  have told : .confirmed "paid" ∈ watch.findings 10 ⟨"pl-0-1"⟩ 90 nodes := by decide +kernel
  exact ⟨told, (confirmations_ignore_failure watch 10 ⟨"pl-0-1"⟩ 90 nodes).1 "paid" told⟩

end PayBridge.Solana
