import PayBridge.Text.Ascii

/-! References to variables in a text: `$NAME`, where the name is a run of ASCII letters, digits and
underscores, and `${NAME}`, where it is all up to the closing brace, or up to the end of the text without
one. Values go in as they are; a reference that nothing resolves, or without a name, stays as written. -/
namespace PayBridge.Watch

open PayBridge.Text (isAlphanumeric)

abbrev Lookup := String → Option String

def isNameCharacter (c : Char) : Bool := isAlphanumeric c || c == '_'

/-- A reference: its name, and how it is written around the name. -/
inductive Reference where
  | bare (name : List Char)
  | braced (name : List Char)
  | unclosed (name : List Char)
  deriving DecidableEq, Repr

namespace Reference

def name : Reference → List Char
  | .bare name => name
  | .braced name => name
  | .unclosed name => name

def written : Reference → List Char
  | .bare name => '$' :: name
  | .braced name => '$' :: '\x7b' :: name ++ ['\x7d']
  | .unclosed name => '$' :: '\x7b' :: name

/-- The value of a reference, none for one without a name. -/
def value? (lookup : Lookup) (reference : Reference) : Option (List Char) :=
  if reference.name.isEmpty then none
  else (lookup (String.ofList reference.name)).map String.toList

def resolved (lookup : Lookup) (reference : Reference) : List Char :=
  (reference.value? lookup).getD reference.written

def read : List Char → Reference × List Char
  | '\x7b' :: rest =>
    match rest.dropWhile (· != '\x7d') with
    | [] => (.unclosed rest, [])
    | _ :: after => (.braced (rest.takeWhile (· != '\x7d')), after)
  | rest => (.bare (rest.takeWhile isNameCharacter), rest.dropWhile isNameCharacter)

theorem length_read_le (s : List Char) : (read s).2.length ≤ s.length := by
  unfold read
  split
  · rename_i rest
    split
    · simp
    · rename_i after h
      have := (List.dropWhile_sublist (· != '\x7d') (l := rest)).length_le
      rw [h] at this
      simp only [List.length_cons] at this ⊢
      omega
  · exact (List.dropWhile_sublist _).length_le

end Reference

def expandCharacters (lookup : Lookup) : List Char → List Char
  | [] => []
  | c :: rest =>
    if c = '$' then
      let found := Reference.read rest
      found.1.resolved lookup ++ expandCharacters lookup found.2
    else c :: expandCharacters lookup rest
termination_by s => s.length
decreasing_by
  · have := Reference.length_read_le rest
    simp only [List.length_cons]
    omega
  · simp

def expand (lookup : Lookup) (text : String) : String :=
  String.ofList (expandCharacters lookup text.toList)

end PayBridge.Watch
