import RefPolicy.Binary64

/-!
# RefPolicy.Toml

The values of a TOML document, and how a document's lines build its tables.

A table can be opened in three ways — by a header of its own, by a longer
header that passes through it, or by a dotted key — and what may be added to
it later depends on which: a header opens a table once, dotted keys only
enter tables that no header opened, and inline tables and arrays are closed.
-/

namespace RefPolicy.Toml

/-- A TOML value.  Dates and times are kept in their normal form. -/
inductive Value where
  | string (text : String)
  | integer (value : Int)
  | float (value : Binary64)
  | boolean (value : Bool)
  | dateTime (text : String)
  | array (items : List Value)
  | table (entries : List (String × Value))

/-! ## Tables under construction -/

/-- How a table came to be. -/
inductive Origin where
  | header
  | longerHeader
  | dottedKey
  deriving DecidableEq

/-- Part of a document under construction. -/
inductive Node where
  | closed (value : Value)
  | table (origin : Origin) (entries : List (String × Node))
  | tables (items : List (List (String × Node)))

/-- The entries of a table under construction. -/
abbrev Entries := List (String × Node)

namespace Entries

/-- What stands under a key. -/
def node? (entries : Entries) (key : String) : Option Node :=
  (List.find? (fun entry => entry.1 == key) entries).map Prod.snd

/-- Add a key that is not there yet. -/
def add (entries : Entries) (key : String) (node : Node) : Entries := entries ++ [(key, node)]

/-- Change what stands under a key. -/
def replace (entries : Entries) (key : String) (node : Node) : Entries :=
  entries.map fun entry => if entry.1 == key then (key, node) else entry

/-- Change the table at the end of a path, opening tables on the way.  Arrays
of tables are entered at their last item.  `change` is told whether a dotted
key opened the table. -/
def changeAt (dotted : Bool) (change : Bool → Entries → Option Entries) :
    List String → Bool → Entries → Option Entries
  | [], isDotted, entries => change isDotted entries
  | key :: path, _, entries =>
    match entries.node? key with
    | none => do
      let inner ← changeAt dotted change path dotted []
      some (entries.add key (.table (if dotted then .dottedKey else .longerHeader) inner))
    | some (.table origin inner) =>
      if dotted && origin == .header then none
      else do
        let inner ← changeAt dotted change path (origin == .dottedKey) inner
        some (entries.replace key (.table origin inner))
    | some (.tables items) =>
      match items.getLast? with
      | some last => do
        let last ← changeAt dotted change path false last
        some (entries.replace key (.tables (items.dropLast ++ [last])))
      | none => none
    | some (.closed _) => none

/-- Give a key, possibly dotted, its value.  Dots lead only to tables that
dots opened. -/
def assign (key : List String) (value : Value) : Bool → Entries → Option Entries :=
  changeAt true
    (fun isDotted entries =>
      match key.getLast? with
      | some last =>
        if isDotted == key.dropLast.isEmpty || (entries.node? last).isSome then none
        else some (entries.add last (.closed value))
      | none => none)
    key.dropLast

/-- Open the table of a header. -/
def openTable (path : List String) (root : Entries) : Option Entries :=
  changeAt false
    (fun _ entries => do
      let last ← path.getLast?
      match entries.node? last with
      | none => some (entries.add last (.table .header []))
      | some (.table .longerHeader inner) => some (entries.replace last (.table .header inner))
      | some _ => none)
    path.dropLast false root

/-- Open the next table of an array of tables. -/
def openItem (path : List String) (root : Entries) : Option Entries :=
  changeAt false
    (fun _ entries => do
      let last ← path.getLast?
      match entries.node? last with
      | none => some (entries.add last (.tables [[]]))
      | some (.tables items) => some (entries.replace last (.tables (items ++ [[]])))
      | some _ => none)
    path.dropLast false root

end Entries

mutual

/-- What a node holds when the document is complete. -/
def Node.value : Node → Value
  | .closed value => value
  | .table _ entries => .table (Node.entryValues entries)
  | .tables items => .array (Node.itemValues items)

/-- The entries of a complete table. -/
def Node.entryValues : List (String × Node) → List (String × Value)
  | [] => []
  | (key, node) :: rest => (key, node.value) :: Node.entryValues rest

/-- The items of a complete array of tables. -/
def Node.itemValues : List (List (String × Node)) → List Value
  | [] => []
  | entries :: rest => .table (Node.entryValues entries) :: Node.itemValues rest

end

/-- A line that adds to the document. -/
inductive Line where
  | table (path : List String)
  | item (path : List String)
  | assignment (key : List String) (value : Value)

/-- Add the lines of a document to what is there; assignments go into the
table opened last. -/
def addLines (root : Entries) (current : List String) : List Line → Option Entries
  | [] => some root
  | .table path :: rest => (root.openTable path).bind fun root => addLines root path rest
  | .item path :: rest => (root.openItem path).bind fun root => addLines root path rest
  | .assignment key value :: rest =>
    (Entries.changeAt false (Entries.assign key value) current false root).bind fun root =>
      addLines root current rest

/-- The entries of a table written inline. -/
def inlineTable (assignments : List (List String × Value)) : Option Value :=
  (assignments.foldlM (fun entries (key, value) => Entries.assign key value false entries)
      ([] : Entries)).map
    fun entries => .table (Node.entryValues entries)

end RefPolicy.Toml
