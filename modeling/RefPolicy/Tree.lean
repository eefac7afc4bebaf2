import RefPolicy.Binary64
import RefPolicy.Naming
import RefPolicy.Text.LowerCase

/-!
# RefPolicy.Tree

Configuration before it has types: a tree of tables, lists and plain values,
as files and environment variables put it together.

* `overlay` merges a later source into an earlier one, table by table, and
  replaces anything else;
* `flag?`, `id?` and `text?` convert leaves generously: a switch may be
  written as a number or a word, a number as a fraction or a text, a text as
  a number or a switch.  Lists and tables are never converted.
-/

namespace RefPolicy

/-- Configuration without types.  `absent` fills the places of a list that
nothing was written to. -/
inductive Tree where
  | absent
  | flag (value : Bool)
  | whole (value : Int)
  | real (value : Binary64)
  | text (value : String)
  | list (items : List Tree)
  | table (entries : List (String × Tree))

namespace Tree

/-! ## Tables -/

/-- The entries of a table; nothing else has any. -/
def entries : Tree → List (String × Tree)
  | table entries => entries
  | _ => []

/-- The items of a list; nothing else has any. -/
def items : Tree → List Tree
  | list items => items
  | _ => []

/-- The value under a key. -/
def get? (tree : Tree) (key : String) : Option Tree :=
  (tree.entries.find? fun entry => entry.1 == key).map Prod.snd

/-- Write a value under a key of a list of entries. -/
def putEntry (key : String) (value : Tree) : List (String × Tree) → List (String × Tree)
  | [] => [(key, value)]
  | entry :: rest =>
    if entry.1 == key then (key, value) :: rest else entry :: putEntry key value rest

/-- Write a value under a key.  What is not a table becomes one. -/
def put (tree : Tree) (key : String) (value : Tree) : Tree :=
  table (putEntry key value tree.entries)

mutual

/-- A later value over an earlier one: a table adds to the entries of a table,
anything else takes the place of what was there. -/
def overlay (earlier : Tree) : Tree → Tree
  | table entries => overlayEntries (table earlier.entries) entries
  | value => value

/-- Entries over what is there. -/
def overlayEntries (target : Tree) : List (String × Tree) → Tree
  | [] => target
  | (key, value) :: rest =>
    overlayEntries (target.put key (overlay ((target.get? key).getD absent) value)) rest

end

/-! ## Lists -/

/-- Where an index points in a list: counted from the end if negative.  A
position beyond the front is reported by how far beyond it is. -/
def position (index : Int) (length : Nat) : Except Nat Nat :=
  if 0 ≤ index then .ok index.toNat
  else if index.natAbs ≤ length then .ok (length - index.natAbs)
  else .error (index.natAbs - length)

/-- Change the item an index points to.  What is not a list becomes one, and
a list that is too short is filled up with `absent` on the side that is short. -/
def changeItem (tree : Tree) (index : Int) (change : Tree → Tree) : Tree :=
  let items := tree.items
  match position index items.length with
  | .ok i =>
    let filled := items ++ List.replicate (i + 1 - items.length) absent
    list (filled.modify i change)
  | .error missing => list ((List.replicate missing absent ++ items).modify 0 change)

/-! ## Conversions -/

/-- Words for the two positions of a switch. -/
def flagWord? (word : String) : Option Bool :=
  if word ∈ ["true", "on", "yes"] then some true
  else if word ∈ ["false", "off", "no"] then some false
  else none

/-- A switch. -/
def flag? : Tree → Option Bool
  | flag value => some value
  | whole value => some (value != 0)
  | real value => some value.isNonzero
  | text value =>
    let word := Text.lowerCaseString value
    if word = "1" then some true else if word = "0" then some false else flagWord? word
  | _ => none

/-- A number of 64 bits. -/
def id? : Tree → Option UInt64
  | flag value => some (if value then 1 else 0)
  | whole value => if value < 0 then none else Digits.toWord64? value.toNat
  | real value => some value.roundToWord
  | text value =>
    let word := Text.lowerCaseString value
    match flagWord? word with
    | some value => some (if value then 1 else 0)
    | none => Digits.word64? word.toList
  | _ => none

/-- A text. -/
def text? : Tree → Option String
  | flag value => some (if value then "true" else "false")
  | whole value => some (Digits.integerText value)
  | real value => some value.text
  | text value => some value
  | _ => none

/-- A value of a vocabulary: its name, or a table with the name as its only
key, whatever stands under it. -/
def name? {α : Type} [Named α] : Tree → Option α
  | text value => Named.ofName? value
  | table [(key, _)] => Named.ofName? key
  | _ => none

end Tree

end RefPolicy
