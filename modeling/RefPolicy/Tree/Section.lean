import RefPolicy.Tree.Order

/-!
# RefPolicy.Tree.Section

Reading a section of a configuration.  A section is a table, or a list of its
fields in their order.  Its entries are taken up one by one: one that is called
like a field is read and sets it, any other is passed over, and the first that
cannot be read ends the reading.  What is left out keeps its default.

The entries of a table come up in the order of the machine, so that of several
that cannot be read any may be the one that is met.
-/

namespace RefPolicy

/-- Why a tree does not describe settings. -/
inductive Defect where
  | mismatch
  /-- A grant without anyone to speak of: reading cannot go on. -/
  | bareGrant
  deriving DecidableEq

namespace Tree

/-- Read a leaf. -/
def leaf {α : Type} (convert : Tree → Option α) (tree : Tree) : Except Defect α :=
  (convert tree).elim (.error .mismatch) .ok

/-- A list, each item read in turn. -/
def listOf {α : Type} (read : Tree → Except Defect α) : Tree → Except Defect (List α)
  | list items => items.mapM read
  | _ => .error .mismatch

/-- A field of a section: what it is called, how it is read and where it stands. -/
structure Field (σ : Type) where
  key : String
  Value : Type
  read : Tree → Except Defect Value
  get : σ → Value
  set : Value → σ → σ
  get_set : ∀ value whole, get (set value whole) = value

/-- A field of values of a given type. -/
def Field.of {σ α : Type} (key : String) (read : Tree → Except Defect α) (get : σ → α)
    (set : α → σ → σ) (get_set : ∀ value whole, get (set value whole) = value := by
      intros; rfl) : Field σ :=
  ⟨key, α, read, get, set, get_set⟩

/-- Setting one of two fields leaves the other. -/
def Field.Apart {σ : Type} (field other : Field σ) : Prop :=
  (∀ value whole, other.get (field.set value whole) = other.get whole) ∧
    ∀ value whole, field.get (other.set value whole) = field.get whole

/-- How a section is laid out.  No two fields have one key or touch each other,
and together they are all there is to the section. -/
structure Layout (σ : Type) where
  default : σ
  fields : List (Field σ)
  nodup_keys : (fields.map Field.key).Nodup := by simp [Field.of]
  apart : fields.Pairwise Field.Apart := by simp [Field.Apart, Field.of]
  ext : ∀ whole other : σ, (∀ field ∈ fields, field.get whole = field.get other) →
      whole = other := by
    rintro ⟨⟩ ⟨⟩
    simp [Field.of]

namespace Layout

variable {σ : Type} (layout : Layout σ)

/-- The keys of the fields, in order. -/
def keys : List String := layout.fields.map Field.key

/-- Take up an entry of a section. -/
def takeUp (whole : σ) (entry : String × Tree) : Except Defect σ :=
  match layout.fields.find? fun field => field.key == entry.1 with
  | some field => (field.read entry.2).map fun value => field.set value whole
  | none => .ok whole

/-- Read a section, starting from its defaults. -/
def read (tables : Order) : Tree → Except Defect σ
  | table entries => (tables.arrange entries).foldlM layout.takeUp layout.default
  | list items => (layout.keys.zip items).foldlM layout.takeUp layout.default
  | _ => .error .mismatch

end Layout

end Tree

end RefPolicy
