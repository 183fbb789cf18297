import PayBridge.Search.Basic
import PayBridge.Solana.Merchant

/-! Looking at the ledger: a node lists the newest transactions at an address, and polling sees their
signatures and memos. -/
namespace PayBridge.Solana

inductive Commitment where
  | confirmed
  | finalized
  deriving DecidableEq, Repr

def Commitment.name : Commitment → String
  | .confirmed => "confirmed"
  | .finalized => "finalized"

/-- A transaction as a node lists it; `failure` tells how it failed on the ledger. -/
structure TransactionStatus where
  signature : String
  failure : Option String
  memo : Option String
  deriving DecidableEq, Repr

structure Lookup where
  address : Address
  limit : Nat
  commitment : Commitment
  deriving DecidableEq, Repr

/-- A node answers with transactions or with the reason why not. -/
abbrev Node := Lookup → Except String (List TransactionStatus)

def TransactionStatus.entry (status : TransactionStatus) : LedgerEntry :=
  ⟨status.signature, status.memo⟩

structure LedgerWatch where
  address : Address
  commitment : Commitment
  deriving DecidableEq, Repr

namespace LedgerWatch

def ofAddress (address : Address) : LedgerWatch := ⟨address, .confirmed⟩

def ofRequest (request : PaymentRequest) (cluster : Cluster) : Except PlaceError LedgerWatch :=
  (watchAddress request cluster).map ofAddress

def lookup (watch : LedgerWatch) (limit : Nat) : Lookup := ⟨watch.address, limit, watch.commitment⟩

def pageOf : Except String (List TransactionStatus) → Page
  | .ok statuses => .entries (statuses.map TransactionStatus.entry)
  | .error reason => .failure reason

def fetch (watch : LedgerWatch) (node : Node) (limit : Nat) : Page := pageOf (node (watch.lookup limit))

end LedgerWatch
end PayBridge.Solana
