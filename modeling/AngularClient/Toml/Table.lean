import AngularClient.Toml.Basic

/-! Tables while a document is read, with entries in the order of the document.  How a table came
about decides who may still add to it. -/

namespace AngularClient.Toml

inductive Origin
  | defined
  | implied
  | dotted
  deriving DecidableEq

inductive Node
  | value (t : Toml)
  | table (origin : Origin) (entries : List (String × Node))
  | tables (closed : List Toml) (entries : List (String × Node))

abbrev Entries := List (String × Node)

namespace Node

mutual

def toToml : Node → Toml
  | .value t => t
  | .table _ entries => .table (entriesToToml entries)
  | .tables closed entries => .array (closed ++ [.table (entriesToToml entries)])

def entriesToToml : List (String × Node) → List (String × Toml)
  | [] => []
  | (key, n) :: rest => (key, toToml n) :: entriesToToml rest

end

def entries : Node → Entries
  | .value _ => []
  | .table _ entries | .tables _ entries => entries

def withEntries (entries : Entries) : Node → Node
  | .value t => .value t
  | .table origin _ => .table origin entries
  | .tables closed _ => .tables closed entries

def throughHeader? : Option Node → Option Node
  | none => some (.table .implied [])
  | some (.value _) => none
  | some n => some n

/-- The table that a dotted key goes through.  It cannot add to a table that has been defined; a
table that it goes through last must be one of its own kind. -/
def throughKey? (isLast : Bool) : Option Node → Option Node
  | none => some (.table .dotted [])
  | some (.value _) | some (.table .defined _) => none
  | some (.table .dotted entries) => some (.table .dotted entries)
  | some n => if isLast then none else some n

def openTable? : Option Node → Option Node
  | none => some (.table .defined [])
  | some (.table .implied entries) => some (.table .defined entries)
  | some _ => none

def addTable? : Option Node → Option Node
  | none => some (.tables [] [])
  | some (.tables closed entries) => some (.tables (closed ++ [.table (entriesToToml entries)]) [])
  | some _ => none

end Node

namespace Entries

def find? (entries : Entries) (key : String) : Option Node := entries.lookup key

def put (key : String) (node : Node) : Entries → Entries
  | [] => [(key, node)]
  | (k, n) :: rest => if k = key then (k, node) :: rest else (k, n) :: put key node rest

def under? (change : Entries → Option Entries) : List String → Entries → Option Entries
  | [], entries => change entries
  | key :: rest, entries => do
    let node ← Node.throughHeader? (find? entries key)
    return put key (node.withEntries (← under? change rest node.entries)) entries

def atHeader? (change : String → Entries → Option Entries) (header : List String)
    (entries : Entries) : Option Entries := do
  under? (change (← header.getLast?)) header.dropLast entries

/-- Opens a table under a key; one that was implied moves to the end. -/
def openTable? (key : String) (entries : Entries) : Option Entries := do
  let node ← Node.openTable? (find? entries key)
  return entries.filter (·.1 != key) ++ [(key, node)]

def addTable? (key : String) (entries : Entries) : Option Entries := do
  return put key (← Node.addTable? (find? entries key)) entries

def assign? (value : Toml) : List String → Entries → Option Entries
  | [], _ => none
  | [key], entries =>
    if (find? entries key).isSome then none else some (put key (.value value) entries)
  | key :: next :: rest, entries => do
    let node ← Node.throughKey? rest.isEmpty (find? entries key)
    let inner ← assign? value (next :: rest) node.entries
    return put key (node.withEntries inner) entries

def toToml (entries : Entries) : Toml := .table (Node.entriesToToml entries)

end Entries

end AngularClient.Toml
