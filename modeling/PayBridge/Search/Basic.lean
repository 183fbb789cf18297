import PayBridge.Json.Shape
import PayBridge.Payment.Memo

/-! Deciding by looking at the ledger: the first entry that carries the memo confirms the payment, and
after a number of looks without one it is given up. A failed fetch is a look like any other. -/
namespace PayBridge

structure LedgerEntry where
  signature : String
  memo : Option String
  deriving DecidableEq, Repr

namespace LedgerEntry

open PayBridge.Json (Decoder ShapeError)

/-- An entry is an object or the array of signature and memo. -/
def decode : Decoder LedgerEntry
  | .object fields => do
    let value := Json.object fields
    let memo ← Decoder.optionalField "memo" Decoder.string value
    let signature ← Decoder.field "signature" Decoder.string value
    let signature ← Decoder.required "signature" signature
    pure { signature, memo }
  | .array [] => throw (.tooFew 0 "struct SignatureMemo with 2 elements")
  | .array [signature] => do
    let _ ← Decoder.string signature
    throw (.tooFew 1 "struct SignatureMemo with 2 elements")
  | .array (signature :: memo :: rest) => do
    let signature ← Decoder.string signature
    let memo ← Decoder.nullable Decoder.string memo
    if !rest.isEmpty then throw (.tooMany (rest.length + 2))
    pure { signature, memo }
  | value => throw (.wrongType value.found "struct SignatureMemo")

def carries (entry : LedgerEntry) (memo : Memo) : Bool :=
  match entry.memo with
  | some log => memo.isIn log
  | none => false

end LedgerEntry

inductive Page where
  | entries (found : List LedgerEntry)
  | failure (reason : String)
  deriving DecidableEq, Repr

inductive Finding where
  | status (text : String)
  | confirmed (signature : String)
  | timedOut (attempts : Nat)
  deriving DecidableEq, Repr

def Finding.isTerminal : Finding → Bool
  | .status _ => false
  | _ => true

/-- The memo that is looked for, the looks taken and granted, and the outcome once there is one. -/
structure Search where
  memo : Memo
  attempt : Nat
  budget : Nat
  outcome : Option Finding
  deriving DecidableEq, Repr

namespace Search

def start (memo : Memo) (maxAttempts : Nat) : Search := ⟨memo, 0, max maxAttempts 1, none⟩

def isFinished (search : Search) : Bool := search.outcome.isSome

def match? (memo : Memo) : Page → Option LedgerEntry
  | .entries found => found.find? (·.carries memo)
  | .failure _ => none

def progressText (attempt budget : Nat) : String :=
  "(" ++ toString attempt ++ "/" ++ toString budget ++ ")"

def statusText (page : Page) (attempt budget : Nat) : String :=
  match page with
  | .entries _ => "Waiting for payment " ++ progressText attempt budget
  | .failure _ => "Network hiccup, retrying " ++ progressText attempt budget

/-- What a page means at a look: a match counts also at the last one. -/
def judge (memo : Memo) (attempt budget : Nat) (page : Page) : Finding :=
  match match? memo page with
  | some entry => .confirmed entry.signature
  | none => if budget ≤ attempt then .timedOut attempt else .status (statusText page attempt budget)

/-- Takes one look. After the outcome pages are ignored and the outcome is reported again. -/
def observe (search : Search) (page : Page) : Search × Finding :=
  match search.outcome with
  | some outcome => (search, outcome)
  | none =>
    let finding := judge search.memo (search.attempt + 1) search.budget page
    ({ search with
        attempt := search.attempt + 1
        outcome := if finding.isTerminal then some finding else none }, finding)

/-- What a list of pages is reported as, up to the outcome and beyond. -/
def observeAll (search : Search) : List Page → List Finding
  | [] => []
  | page :: rest => (search.observe page).2 :: (search.observe page).1.observeAll rest

end Search
end PayBridge
