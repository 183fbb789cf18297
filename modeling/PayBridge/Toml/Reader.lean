import PayBridge.Toml.Scalar
import PayBridge.Toml.Table

/-! Reading TOML text: values, and the lines of a document. -/
namespace PayBridge.Toml

mutual

/-- One value, `depth` levels being left. -/
def readValue? (depth : Nat) : Nat → List Char → Option (Toml × List Char)
  | 0, _ => none
  | fuel + 1, s =>
    match s with
    | '[' :: rest => if depth ≤ 1 then none else readItems? (depth - 1) [] fuel rest
    | '\x7b' :: rest =>
      if depth ≤ 1 then none
      else match skipSpace rest with
        | '\x7d' :: rest => some (.table [], rest)
        | rest => readPairs? (depth - 1) [] fuel rest
    | c :: _ =>
      if c = '"' || c = '\'' then
        (readString? s).map fun (text, rest) => (.string (String.ofList text), rest)
      else readScalar? s
    | [] => none

/-- The items of an array from one on, those before it reversed in `read`. -/
def readItems? (depth : Nat) (read : List Toml) : Nat → List Char → Option (Toml × List Char)
  | 0, _ => none
  | fuel + 1, s =>
    match skipTrivia s with
    | ']' :: rest => some (.array read.reverse, rest)
    | s => do
      let (item, rest) ← readValue? depth fuel s
      match skipTrivia rest with
      | ',' :: rest => readItems? depth (item :: read) fuel rest
      | ']' :: rest => some (.array (item :: read).reverse, rest)
      | _ => none

/-- The keys and values of a table in braces from one on, those before it gathered in `read`. -/
def readPairs? (depth : Nat) (read : Entries) : Nat → List Char → Option (Toml × List Char)
  | 0, _ => none
  | fuel + 1, s => do
    let (key, rest) ← readKey? s
    match rest with
    | '=' :: rest =>
      let (value, rest) ← readValue? depth fuel (skipSpace rest)
      let read ← assign key value read
      match skipSpace rest with
      | ',' :: rest => readPairs? depth read fuel rest
      | '\x7d' :: rest => some (.table (tomlEntries read), rest)
      | _ => none
    | _ => none

end

/-- A document as far as it is read: its tables, and the path of the one that is open. -/
structure Document where
  root : Entries
  path : List String

namespace Document

def empty : Document := ⟨[], []⟩

/-- A header in brackets, after the brackets that open it. -/
def readHeader? (openAt : Key → Entries → Option Entries) (closing : List Char) (document : Document)
    (s : List Char) : Option (Document × List Char) := do
  let (key, rest) ← readKey? s
  if !closing.isPrefixOf rest then none
  let rest ← endLine? (rest.drop closing.length)
  let root ← openAt key document.root
  some (⟨root, key.1 ++ [key.2]⟩, rest)

def readPair? (document : Document) (s : List Char) : Option (Document × List Char) := do
  let (key, rest) ← readKey? s
  match rest with
  | '=' :: rest =>
    let (value, rest) ← readValue? depthLimit (2 * rest.length + 2) (skipSpace rest)
    let rest ← endLine? rest
    let root ← assignIn document.path key value document.root
    some ({ document with root }, rest)
  | _ => none

/-- One line, or several for a value of several lines. -/
def readLine? (document : Document) (s : List Char) : Option (Document × List Char) :=
  match s with
  | '[' :: '[' :: rest => readHeader? openElement [']', ']'] document rest
  | '[' :: rest => readHeader? openTable [']'] document rest
  | '#' :: _ => (endLine? s).map (document, ·)
  | '\n' :: _ => (endLine? s).map (document, ·)
  | '\r' :: _ => (endLine? s).map (document, ·)
  | _ => readPair? document s

def readLines? (document : Document) : Nat → List Char → Option Document
  | 0, _ => none
  | fuel + 1, s =>
    match skipSpace s with
    | [] => some document
    | s => do
      let (document, rest) ← readLine? document s
      readLines? document fuel rest

end Document

def skipMark : List Char → List Char
  | '\uFEFF' :: rest => rest
  | s => s

def read? (text : String) : Option Toml := do
  let s := skipMark text.toList
  let document ← Document.empty.readLines? (s.length + 1) s
  some (.table (tomlEntries document.root))

end PayBridge.Toml
