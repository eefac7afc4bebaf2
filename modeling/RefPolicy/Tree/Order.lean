import RefPolicy.Tree

/-!
# RefPolicy.Tree.Order

The order in which the entries of a table come up.  Tables are hashed, and the
hash is a new one in every run, so there is no order to rely on: what holds of
a run has to hold in all of them.  An order may depend on everything that
stands in a table.  Two tables with the same entries are gone through alike,
which hides nothing: after the first has been read, so can the second.

Where a list of entries says a key twice its first entry counts, as it does
for `Tree.get?`.  A machine is what two runs on the same inputs may differ in:
the orders in which they go through tables, and the room they have for lists.
-/

namespace RefPolicy

/-- The entries that count: of several under one key the first. -/
def Tree.firsts : List (String × Tree) → List (String × Tree)
  | [] => []
  | entry :: rest => entry :: (firsts rest).filter fun other => other.1 != entry.1

/-- An order in which the entries of tables come up. -/
structure Order where
  arrange : List (String × Tree) → List (String × Tree)
  perm : ∀ entries, (arrange entries).Perm (Tree.firsts entries)

/-- Entries come up as they are written. -/
def Order.asWritten : Order := ⟨Tree.firsts, fun _ => .refl _⟩

/-- What runs on the same inputs may differ in. -/
structure Machine where
  /-- The most items that a list can be given. -/
  room : Nat
  /-- The order in which the entries of a source are written. -/
  sources : Order
  /-- The order in which the entries of a table are read. -/
  tables : Order

/-- A machine that goes through tables as they are written.  Its room is what
63 bits can address, at 96 bytes an item. -/
def Machine.standard : Machine := ⟨0x7fffffffffffffff / 96, .asWritten, .asWritten⟩

end RefPolicy
