import PayBridge.Text.Ascii
import PayBridge.Text.Blank
import PayBridge.Watch.Environment

/-! A file of variables. Each line gives one, in the way of a shell: quotes of two kinds, backslashes,
comments, references to variables that are known, and values of several lines inside quotes. A variable that
the environment has already keeps its value. The first line that cannot be read ends the file; the variables
before it are kept. -/
namespace PayBridge.Watch.VariableFile

open PayBridge.Text

/-! Lines -/

/-- The place of a character within a line, as far as it matters for where the line ends. -/
inductive Place where
  | plain
  | blank
  | escaped
  | weak
  | weakEscaped
  | strong
  | strongEscaped
  deriving DecidableEq, Repr

def Place.opened : Char → Place
  | '\\' => .escaped
  | '"' => .weak
  | '\'' => .strong
  | _ => .plain

def Place.next (c : Char) : Place → Place
  | .plain => if isBlank c && c != '\n' && c != '\r' then .blank else opened c
  | .blank => opened c
  | .escaped => .plain
  | .weak => if c = '\\' then .weakEscaped else if c = '"' then .plain else .weak
  | .weakEscaped => .weak
  | .strong => if c = '\\' then .strongEscaped else if c = '\'' then .plain else .strong
  | .strongEscaped => .strong

/-- How a line of the file leaves off: it goes on in the next one, or it is whole. -/
inductive LineEnd where
  | goesOn (place : Place) (text : List Char)
  | whole (text : List Char)
  deriving DecidableEq, Repr

def dropNewline (s : List Char) : List Char :=
  match s.reverse with
  | '\n' :: '\r' :: rest => rest.reverse
  | '\n' :: rest => rest.reverse
  | _ => s

/-- Follows a line, `read` being the text before, reversed. A number sign after a blank starts a comment. -/
def follow (place : Place) (read : List Char) : List Char → LineEnd
  | [] => if place = .plain then .whole (dropNewline read.reverse) else .goesOn place read.reverse
  | c :: rest =>
    if place = .blank ∧ c = '#' then .whole read.reverse else follow (place.next c) (c :: read) rest

/-- Adds a line of the file to the text before it. A text that starts as a comment is empty. -/
def addLine (place : Place) (before line : List Char) : LineEnd :=
  if (trimStart (before ++ line)).head? = some '#' then .whole []
  else follow place before.reverse line

def lines : List Char → List (List Char)
  | [] => []
  | c :: rest =>
    if c = '\n' then [c] :: lines rest
    else match lines rest with
      | [] => [[c]]
      | first :: others => (c :: first) :: others

/-! Values -/

/-- What may stand in the name of a reference without braces: letters and digits. Beyond ASCII all but
blanks counts as a letter. -/
def isReferenceCharacter (c : Char) : Bool := isAlphanumeric c || (!isAscii c && !isBlank c)

/-- What is being read of a value. A reference gathers its name reversed. -/
inductive Mode where
  | plain
  | ended
  | comment
  | escaped
  | strong
  | bare (name : List Char)
  | braced (name : List Char)
  deriving DecidableEq, Repr

/-- A value as far as it is read: the mode, whether it stands between double quotes, and the text,
reversed. -/
structure Reading where
  mode : Mode := .plain
  weak : Bool := false
  text : List Char := []
  deriving DecidableEq, Repr

namespace Reading

def push (reading : Reading) (c : Char) : Reading := { reading with text := c :: reading.text }

def substitute (environment : Environment) (name : List Char) (reading : Reading) : Reading :=
  let value := if name.isEmpty then "" else (environment.get? (String.ofList name.reverse)).getD ""
  { reading with mode := .plain, text := value.toList.reverse ++ reading.text }

def takePlain (reading : Reading) (c : Char) : Reading :=
  if c = '$' then { reading with mode := .bare [] }
  else if c = '\\' then { reading with mode := .escaped }
  else if reading.weak then
    if c = '"' then { reading with weak := false } else reading.push c
  else if c = '\'' then { reading with mode := .strong }
  else if c = '"' then { reading with weak := true }
  else if c = ' ' || c = '\t' then { reading with mode := .ended }
  else reading.push c

/-- Takes a character of a reference without braces. The character after the name stands for itself. -/
def takeBare (environment : Environment) (name : List Char) (reading : Reading) (c : Char) : Reading :=
  if isReferenceCharacter c then { reading with mode := .bare (c :: name) }
  else if c = '\x7b' ∧ name.isEmpty then { reading with mode := .braced [] }
  else
    let reading := reading.substitute environment name
    if c = '$' then { reading with mode := .bare [] } else reading.push c

def unescaped? (c : Char) : Option Char :=
  if c = 'n' then some '\n'
  else if c = '\\' || c = '\'' || c = '"' || c = '$' || c = ' ' then some c
  else none

def take (environment : Environment) (reading : Reading) (c : Char) : Option Reading :=
  match reading.mode with
  | .comment => some reading
  | .ended =>
    if c = ' ' || c = '\t' then some reading
    else if c = '#' then some { reading with mode := .comment }
    else none
  | .escaped => (unescaped? c).map fun c => { reading.push c with mode := .plain }
  | .strong => some (if c = '\'' then { reading with mode := .plain } else reading.push c)
  | .bare name => some (reading.takeBare environment name c)
  | .braced name =>
    some (if c = '\x7d' then reading.substitute environment name
      else { reading with mode := .braced (c :: name) })
  | .plain => some (reading.takePlain c)

/-- The text of a value that ends here, none inside quotes or braces. -/
def finish (environment : Environment) (reading : Reading) : Option String :=
  if reading.weak then none
  else match reading.mode with
    | .strong => none
    | .braced _ => none
    | .bare name => some (String.ofList (reading.substitute environment name).text.reverse)
    | _ => some (String.ofList reading.text.reverse)

end Reading

def value? (environment : Environment) (s : List Char) : Option String := do
  let reading ← s.foldlM (Reading.take environment) {}
  reading.finish environment

/-! Variables -/

def isKeyCharacter (c : Char) : Bool := isAlphanumeric c || c == '_' || c == '.'

def readKey? (s : List Char) : Option (String × List Char) :=
  match s with
  | c :: _ =>
    if c.isAlpha || c == '_' then
      some (String.ofList (s.takeWhile isKeyCharacter), trimStart (s.dropWhile isKeyCharacter))
    else none
  | [] => none

/-- A name and the text after its equals sign. The word `export` may stand in front, or be the name. -/
def readAssigned? (s : List Char) : Option (String × List Char) := do
  let (key, rest) ← readKey? s
  match rest with
  | '=' :: rest => some (key, rest)
  | _ =>
    if key = "export" then
      let (key, rest) ← readKey? rest
      match rest with
      | '=' :: rest => some (key, rest)
      | _ => none
    else none

inductive Line where
  | blank
  | entry (name value : String)
  | malformed
  deriving DecidableEq, Repr

def isOver (s : List Char) : Bool := s.isEmpty || s.head? == some '#'

def Line.read (environment : Environment) (s : List Char) : Line :=
  let s := trim s
  if isOver s then .blank
  else
    match readAssigned? s with
    | none => .malformed
    | some (key, rest) =>
      let rest := trimStart rest
      if isOver rest then .entry key ""
      else match value? environment rest with
        | some value => .entry key value
        | none => .malformed

/-- Adds the variables of the lines that are left; the line that is open has `place` and `before`. -/
def loadLines (environment : Environment) (place : Place) (before : List Char) :
    List (List Char) → Environment
  | [] => environment
  | line :: rest =>
    match addLine place before line with
    | .goesOn place text => loadLines environment place text rest
    | .whole text =>
      match Line.read environment text with
      | .blank => loadLines environment .plain [] rest
      | .entry name value => loadLines (environment.add (name, value)) .plain [] rest
      | .malformed => environment

def withoutMark : List Char → List Char
  | '\uFEFF' :: rest => rest
  | s => s

def load (environment : Environment) (text : String) : Environment :=
  loadLines environment .plain [] (lines (withoutMark text.toList))

end PayBridge.Watch.VariableFile
