/-!
# RefPolicy.Naming

The closed vocabularies of the library — roles, actions, ref kinds, output
formats — are each a short list of values with one written name per value.
`Named` is that list; `Named.ofName?` reads a name back.

* `ofName?_name` — when the list is complete and names are distinct, every
  value is read back from its own name;
* `name_of_ofName?` — nothing but its own name is read as a value, so no
  other spelling (case, blanks) is accepted.
-/

namespace RefPolicy

/-- A finite vocabulary: its values in order, and the name each is written as. -/
class Named (α : Type) where
  all : List α
  name : α → String

export Named (name)

namespace Named

variable {α : Type} [Named α]

/-- The value written as `text`, if there is one. -/
def ofName? (text : String) : Option α := all.find? fun value => name value == text

/-- Nothing but its own name is read as a value. -/
theorem name_of_ofName? {text : String} {value : α} (h : ofName? text = some value) :
    name value = text := by
  have := List.find?_some h
  simpa using this

/-- Every value is read back from its own name. -/
theorem ofName?_name (complete : ∀ a : α, a ∈ all) (distinct : ∀ a b : α, name a = name b → a = b)
    (value : α) : ofName? (name value) = some value := by
  unfold ofName?
  cases h : all.find? (fun a : α => name a == name value) with
  | none =>
    have := List.find?_eq_none.mp h value (complete value)
    simp at this
  | some found =>
    have := List.find?_some h
    rw [distinct found value (by simpa using this)]

end Named

/-! ## Names outside a vocabulary -/

/-- A word that was expected to name a value of a vocabulary and does not. -/
inductive UnknownName where
  | role (text : String)
  | action (text : String)
  | refKind (text : String)
  | outputFormat (text : String)
  deriving DecidableEq

/-- What the reader of a policy is told: the word, and the names that would do. -/
def UnknownName.message : UnknownName → String
  | .role text =>
    "unknown role tier '" ++ text ++
      "' (expected no_access, guest, reporter, developer, maintainer or owner)"
  | .action text => "unknown action '" ++ text ++ "' (expected push, merge or unprotect)"
  | .refKind text => "unknown ref kind '" ++ text ++ "' (expected branch or tag)"
  | .outputFormat text => "unknown output format '" ++ text ++ "' (expected text or json)"

end RefPolicy
