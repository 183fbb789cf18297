import PayBridge.Text.Ascii

/-! The parts of TOML text below values: blanks, comments, line ends, strings and keys. A reader takes
what it reads off the text and gives the rest. -/
namespace PayBridge.Toml

open PayBridge.Text

def isSpace (c : Char) : Bool := c == ' ' || c == '\t'

def skipSpace (s : List Char) : List Char := s.dropWhile isSpace

/-- The end of a line, as one character or as two. -/
def readNewline? : List Char → Option (List Char)
  | '\n' :: rest => some rest
  | '\r' :: '\n' :: rest => some rest
  | _ => none

/-- What may stand within a line: no control character but the tab. -/
def isPlain (c : Char) : Bool := c == '\t' || (0x20 ≤ c.toNat && c.toNat != 0x7F)

def skipComment : List Char → List Char
  | '#' :: rest => rest.dropWhile isPlain
  | s => s

/-- Ends a line: blanks, a comment, and the end of the line or of the text. -/
def endLine? (s : List Char) : Option (List Char) :=
  match skipComment (skipSpace s) with
  | [] => some []
  | s => readNewline? s

def skipLines : List Char → List Char
  | ' ' :: rest => skipLines rest
  | '\t' :: rest => skipLines rest
  | '\n' :: rest => skipLines rest
  | '\r' :: '\n' :: rest => skipLines rest
  | s => s

def skipTrivia : List Char → List Char
  | ' ' :: rest => skipTrivia rest
  | '\t' :: rest => skipTrivia rest
  | '\n' :: rest => skipTrivia rest
  | '\r' :: '\n' :: rest => skipTrivia rest
  | '#' :: rest => skipTrivia (rest.dropWhile isPlain)
  | s => s
termination_by s => s.length
decreasing_by
  all_goals simp only [List.length_cons]
  all_goals first
    | exact Nat.lt_succ_of_le (List.dropWhile_sublist isPlain).length_le
    | omega

/-! Strings -/

/-- The character of an escape that gives its number in digits to base sixteen. -/
def readNumbered? (digits : Nat) (s : List Char) : Option (Char × List Char) := do
  let n ← numeral? 16 (s.take digits)
  if s.length < digits || !decide n.isValidChar then none
  some (Char.ofNat n, s.drop digits)

def readEscape? : List Char → Option (Char × List Char)
  | 'b' :: rest => some ('\x08', rest)
  | 'f' :: rest => some ('\x0c', rest)
  | 'n' :: rest => some ('\n', rest)
  | 'r' :: rest => some ('\r', rest)
  | 't' :: rest => some ('\t', rest)
  | '"' :: rest => some ('"', rest)
  | '\\' :: rest => some ('\\', rest)
  | 'u' :: rest => readNumbered? 4 rest
  | 'U' :: rest => readNumbered? 8 rest
  | _ => none

/-- The text after a backslash that ends its line: blanks and ends of lines are left out. -/
def readContinued? (s : List Char) : Option (List Char) := (readNewline? (skipSpace s)).map skipLines

/-- A string with escapes up to its closing quote, reversed onto `read`. -/
def readBasicBody? (read : List Char) : Nat → List Char → Option (List Char × List Char)
  | 0, _ => none
  | _, [] => none
  | fuel + 1, c :: rest =>
    if c = '"' then some (read.reverse, rest)
    else if c = '\\' then do
      let (d, rest) ← readEscape? rest
      readBasicBody? (d :: read) fuel rest
    else if isPlain c then readBasicBody? (c :: read) fuel rest
    else none

def readBasic? (s : List Char) : Option (List Char × List Char) := readBasicBody? [] (s.length + 1) s

def readLiteral? (s : List Char) : Option (List Char × List Char) :=
  match s.dropWhile fun c => isPlain c && c != '\'' with
  | '\'' :: rest => some (s.takeWhile fun c => isPlain c && c != '\'', rest)
  | _ => none

/-- Closes a string of several lines after three quotes: up to two more belong to the text. -/
def closeLines (quote : Char) (read rest : List Char) : List Char × List Char :=
  let extra := (rest.takeWhile (· == quote)).take 2
  (read.reverse ++ extra, rest.drop extra.length)

def readBasicLinesBody? (read : List Char) : Nat → List Char → Option (List Char × List Char)
  | 0, _ => none
  | _, [] => none
  | _, '"' :: '"' :: '"' :: rest => some (closeLines '"' read rest)
  | fuel + 1, '\\' :: rest =>
    match readContinued? rest with
    | some rest => readBasicLinesBody? read fuel rest
    | none => do
      let (c, rest) ← readEscape? rest
      readBasicLinesBody? (c :: read) fuel rest
  | fuel + 1, c :: rest =>
    match readNewline? (c :: rest) with
    | some rest => readBasicLinesBody? ('\n' :: read) fuel rest
    | none => if isPlain c then readBasicLinesBody? (c :: read) fuel rest else none

def readLiteralLinesBody? (read : List Char) : List Char → Option (List Char × List Char)
  | [] => none
  | '\'' :: '\'' :: '\'' :: rest => some (closeLines '\'' read rest)
  | '\r' :: '\n' :: rest => readLiteralLinesBody? ('\n' :: read) rest
  | c :: rest =>
    if c = '\n' || isPlain c then readLiteralLinesBody? (c :: read) rest else none

/-- A string of several lines does not start with the end of a line. -/
def skipFirstNewline (s : List Char) : List Char := (readNewline? s).getD s

def readString? : List Char → Option (List Char × List Char)
  | '"' :: '"' :: '"' :: rest => readBasicLinesBody? [] (rest.length + 1) (skipFirstNewline rest)
  | '"' :: rest => readBasic? rest
  | '\'' :: '\'' :: '\'' :: rest => readLiteralLinesBody? [] (skipFirstNewline rest)
  | '\'' :: rest => readLiteral? rest
  | _ => none

/-! Keys -/

def isBare (c : Char) : Bool := isAlphanumeric c || c == '-' || c == '_'

def readKeyPart? : List Char → Option (List Char × List Char)
  | '"' :: rest => readBasic? rest
  | '\'' :: rest => readLiteral? rest
  | s => if (s.takeWhile isBare).isEmpty then none else some (s.takeWhile isBare, s.dropWhile isBare)

/-- The parts of a key but the last, and the last one. -/
abbrev Key := List String × String

/-- The parts of a key, with those before reversed in `read`. -/
def readKeyParts? (read : List String) : Nat → List Char → Option (Key × List Char)
  | 0, _ => none
  | fuel + 1, s => do
    let (part, rest) ← readKeyPart? (skipSpace s)
    match skipSpace rest with
    | '.' :: rest => readKeyParts? (String.ofList part :: read) fuel rest
    | rest => some ((read.reverse, String.ofList part), rest)

/-- The parts that a key may have, and the depth that values may have, come short of this. -/
def depthLimit : Nat := 80

def readKey? (s : List Char) : Option (Key × List Char) := do
  let (key, rest) ← readKeyParts? [] (s.length + 1) s
  if key.1.length + 1 < depthLimit then some (key, rest) else none

end PayBridge.Toml
