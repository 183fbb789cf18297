import PayBridge.Text.Ascii
import PayBridge.Text.Pieces
import PayBridge.Text.Utf8
import PayBridge.Url.Percent

/-! Queries of names and values. A space is a plus, a byte that is no plain character a percent sign and
two digits; decoding gives back the pairs that were encoded. -/
namespace PayBridge.Url.FormEncoded

open PayBridge.Text

def isPlain (c : Char) : Bool := isAlphanumeric c || c == '*' || c == '-' || c == '.' || c == '_'

def encodeCharacter (c : Char) : List Char :=
  if isPlain c then [c]
  else if c = ' ' then ['+']
  else (String.utf8EncodeChar c).flatMap percentByte

def encodeText (s : String) : List Char := s.toList.flatMap encodeCharacter

def encodePair (pair : String × String) : List Char := encodeText pair.1 ++ '=' :: encodeText pair.2

def encode (pairs : List (String × String)) : List Char := ['&'].intercalate (pairs.map encodePair)

def decodeText? (s : List Char) : Option String :=
  (ofUtf8? (percentDecode (s.map fun c => if c = '+' then ' ' else c))).map String.ofList

/-- A pair at its first equality sign; without one the value is empty. -/
def decodePair? (s : List Char) : Option (String × String) := do
  let (name, value) := (cutAt? '=' s).getD (s, [])
  let name ← decodeText? name
  let value ← decodeText? value
  some (name, value)

/-- The pairs of a query; empty pieces are no pairs. -/
def decode? (query : List Char) : Option (List (String × String)) :=
  ((pieces '&' query).filter (!·.isEmpty)).mapM decodePair?

/-- Plain text stands in a query as it is. -/
theorem encodeText_plain {s : String} (plain : ∀ c ∈ s.toList, isPlain c = true) : encodeText s = s.toList := by
  unfold encodeText
  generalize s.toList = text at plain
  induction text with
  | nil => rfl
  | cons c rest ih =>
    rw [List.flatMap_cons, ih fun d member => plain d (List.mem_cons_of_mem _ member), encodeCharacter,
      if_pos (plain c List.mem_cons_self)]
    rfl

end PayBridge.Url.FormEncoded
