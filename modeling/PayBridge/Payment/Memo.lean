import PayBridge.Word
import PayBridge.Text.Ascii
import PayBridge.Text.Blank
import PayBridge.Text.DecimalDigit

/-! Memos. A memo is the only link between a payment request and the transaction that pays it. The ledger
logs a memo with its length in brackets in front and joins the memos of one transaction; matching undoes
both. -/
namespace PayBridge

structure Memo where
  text : String
  deriving DecidableEq, Repr

namespace Memo

open PayBridge.Text

def defaultLead : String := "pl"

/-- The memo of a sequence number and a random number below `2 ^ 64`. -/
def ofNumbers (lead : String) (sequence random : Nat) : Memo :=
  ⟨String.ofList (lead.toList ++ '-' :: decimal sequence ++ '-' :: Nat.toDigits 16 random)⟩

structure Mint where
  next : Nat := 0
  deriving DecidableEq, Repr

def Mint.generate (mint : Mint) (lead : String) (random : Nat) : Memo × Mint :=
  (ofNumbers lead mint.next random, ⟨(mint.next + 1) % 2 ^ 64⟩)

/-- Drops a length in brackets, with the blanks after it. Digits of any script count. -/
def dropLength (s : List Char) : List Char :=
  match s with
  | '[' :: rest =>
    match rest.takeWhile isDecimalDigit, rest.dropWhile isDecimalDigit with
    | _ :: _, ']' :: body => trimStart body
    | _, _ => s
  | _ => s

/-- The memo text of one entry: without the length, trimmed. -/
def entryText (s : List Char) : List Char := trim (dropLength (trim s))

/-- The entries of a log: what stands between its semicolons followed by a space. -/
def entries : List Char → List (List Char)
  | [] => [[]]
  | ';' :: ' ' :: rest => [] :: entries rest
  | c :: rest =>
    match entries rest with
    | [] => [[c]]
    | first :: others => (c :: first) :: others

/-- The memos that a log carries, in order; an entry without text carries none. -/
def carried (log : String) : List String :=
  (((entries log.toList).map entryText).filter (!·.isEmpty)).map String.ofList

/-- Whether a log carries the memo: as one entry among others, or as the whole log, for a memo that
itself holds the separator. -/
def isIn (memo : Memo) (log : String) : Bool :=
  let wanted := trim memo.text.toList
  entryText log.toList == wanted || (carried log).any fun text => text.toList == wanted

/-- One entry as the ledger writes it: the length in bytes, and the text. -/
def logEntry (text : String) : List Char :=
  '[' :: decimal text.utf8ByteSize ++ ']' :: ' ' :: text.toList

def log (texts : List String) : String :=
  String.ofList ([';', ' '].intercalate (texts.map logEntry))

end Memo
end PayBridge
