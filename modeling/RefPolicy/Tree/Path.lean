import RefPolicy.Tree.Order

/-!
# RefPolicy.Tree.Path

Places in a configuration tree, written `a.b[0].c`: a name, then names after
dots and indices in brackets.  Names consist of ASCII letters, digits, `_`
and `-`; a negative index counts from the end of its list.

A write fills up lists that are too short for it.  Where a list would get more
items than the machine has room for, there is no tree to go on with.
-/

namespace RefPolicy.Tree

/-- A step from a value to a part of it. -/
inductive Step where
  | key (name : String)
  | index (position : Int)
  deriving DecidableEq

/-- Write a value at a place, over what is there.  Values on the way that are
of the wrong sort are replaced. -/
def writeAt (value : Tree) : List Step → Tree → Tree
  | [], tree => overlay tree value
  | .key name :: path, tree => tree.put name (writeAt value path ((tree.get? name).getD absent))
  | .index position :: path, tree => tree.changeItem position (writeAt value path)

/-- Does a list have an item at a position, or room to be filled up to it? -/
def hasPlace (room : Nat) (items : List Tree) : Except Nat Nat → Bool
  | .ok i => decide (i < max items.length room)
  | .error missing => decide (missing + items.length ≤ room)

/-- Is there room for all the lists on the way to a place? -/
def hasRoom (room : Nat) : List Step → Tree → Bool
  | [], _ => true
  | .key name :: path, tree => hasRoom room path ((tree.get? name).getD absent)
  | .index index :: path, tree =>
    let place := position index tree.items.length
    hasPlace room tree.items place &&
      hasRoom room path ((place.toOption.bind fun i => tree.items[i]?).getD absent)

/-! ## The written form of a path -/

def isNameChar (c : Char) : Bool := c.isAlphanum || c == '_' || c == '-'

/-- A name at the front of the text. -/
def readName (chars : List Char) : Option (String × List Char) :=
  let name := chars.takeWhile isNameChar
  if name.isEmpty then none else some (String.ofList name, chars.drop name.length)

def isSpace (c : Char) : Bool := c == ' ' || c == '\t'

/-- A number between spaces, without a plus sign. -/
def indexNumber? (chars : List Char) : Option Int :=
  let number := (((chars.dropWhile isSpace).reverse).dropWhile isSpace).reverse
  match number with
  | '+' :: _ => none
  | number => Digits.signed64? number

/-- An index after its opening bracket, with the bracket that closes it. -/
def readIndex (chars : List Char) : Option (Int × List Char) :=
  let written := chars.takeWhile (· != ']')
  match chars.drop written.length with
  | ']' :: rest => (indexNumber? written).map fun n => (n, rest)
  | _ => none

/-- The steps after the first name. -/
def readSteps : Nat → List Char → Option (List Step)
  | _, [] => some []
  | 0, _ => none
  | fuel + 1, '.' :: chars => do
    let (name, rest) ← readName chars
    let steps ← readSteps fuel rest
    some (.key name :: steps)
  | fuel + 1, '[' :: chars => do
    let (position, rest) ← readIndex chars
    let steps ← readSteps fuel rest
    some (.index position :: steps)
  | _, _ => none

/-- The path that a text writes. -/
def readPath? (chars : List Char) : Option (List Step) := do
  let (name, rest) ← readName chars
  let steps ← readSteps rest.length rest
  some (.key name :: steps)

/-- The place a key of a source speaks of: a path if it writes one, and else
the entry of that very name. -/
def placeOf (key : String) : List Step := (readPath? key.toList).getD [.key key]

/-- Write an entry of a source at its place, if there is room for it. -/
def writeEntry (room : Nat) (tree : Tree) (entry : String × Tree) : Option Tree :=
  if hasRoom room (placeOf entry.1) tree then some (writeAt entry.2 (placeOf entry.1) tree)
  else none

/-- Write the entries of a source at their places, in the order of the machine. -/
def addSource (machine : Machine) (tree : Tree) (source : List (String × Tree)) : Option Tree :=
  (machine.sources.arrange source).foldlM (writeEntry machine.room) tree

end RefPolicy.Tree
