import PayBridge.Toml.Basic

/-! Tables while they are read. What a table allows depends on how it came to be: a header may open a
table that other headers only implied, and a dotted key may go on with tables that dotted keys made, but
neither may take up what the other made, and nothing is given twice. -/
namespace PayBridge.Toml

/-- How a table came to be: from its own header or braces, from a longer header, or from a dotted key. -/
inductive TableKind where
  | header
  | implied
  | dotted
  deriving DecidableEq, Repr

/-- What stands under a key: a value, a table, or the tables of repeated headers, with the last apart. -/
inductive Node where
  | value (value : Toml)
  | table (kind : TableKind) (entries : List (String × Node))
  | tables (done : List (List (String × Node))) (last : List (String × Node))

abbrev Entries := List (String × Node)

/-- Puts a node under a key, in the place of the one that is there. -/
def put (key : String) (node : Node) : Entries → Entries
  | [] => [(key, node)]
  | (k, other) :: rest => if k = key then (key, node) :: rest else (k, other) :: put key node rest

/-- Changes the table under a path, making the tables that are not there. Dotted paths do not enter a
table with its own header. -/
def changeAt (dotted : Bool) (change : TableKind → Entries → Option Entries) :
    List String → TableKind → Entries → Option Entries
  | [], kind, entries => change kind entries
  | key :: path, _, entries =>
    match entries.lookup key with
    | none =>
      let kind := if dotted then .dotted else .implied
      (changeAt dotted change path kind []).map fun inner => put key (.table kind inner) entries
    | some (.value _) => none
    | some (.table kind inner) =>
      if dotted && kind == .header then none
      else (changeAt dotted change path kind inner).map fun inner =>
        put key (.table kind inner) entries
    | some (.tables done last) =>
      (changeAt dotted change path .header last).map fun last => put key (.tables done last) entries

/-- Gives a value to a key of a table. A key without dots belongs to the table itself, one with dots to a
table that dotted keys made. -/
def assign (key : List String × String) (value : Toml) (entries : Entries) : Option Entries :=
  changeAt true (fun kind entries =>
    if (kind == .dotted) == key.1.isEmpty || (entries.lookup key.2).isSome then none
    else some (entries ++ [(key.2, .value value)])) key.1 .header entries

def openTable (key : List String × String) (root : Entries) : Option Entries :=
  changeAt false (fun _ entries =>
    match entries.lookup key.2 with
    | none => some (put key.2 (.table .header []) entries)
    | some (.table .implied inner) => some (put key.2 (.table .header inner) entries)
    | some _ => none) key.1 .header root

def openElement (key : List String × String) (root : Entries) : Option Entries :=
  changeAt false (fun _ entries =>
    match entries.lookup key.2 with
    | none => some (put key.2 (.tables [] []) entries)
    | some (.tables done last) => some (put key.2 (.tables (done ++ [last]) []) entries)
    | some _ => none) key.1 .header root

def assignIn (path : List String) (key : List String × String) (value : Toml) (root : Entries) :
    Option Entries :=
  changeAt false (fun _ entries => assign key value entries) path .header root

mutual

def Node.toToml : Node → Toml
  | .value value => value
  | .table _ entries => .table (tomlEntries entries)
  | .tables done last => .array (tomlTables done ++ [.table (tomlEntries last)])

def tomlEntries : List (String × Node) → List (String × Toml)
  | [] => []
  | (key, node) :: rest => (key, node.toToml) :: tomlEntries rest

def tomlTables : List (List (String × Node)) → List Toml
  | [] => []
  | entries :: rest => .table (tomlEntries entries) :: tomlTables rest

end

end PayBridge.Toml
