import RefPolicy.Naming

/-!
# RefPolicy.Ref

What is protected, and what may be done to it: a ref is a branch or a tag,
named by a string; the actions are pushing to it, merging into it, and
removing its protection.
-/

namespace RefPolicy

/-- The two kinds of ref.  Protections of one kind never reach the other. -/
inductive RefKind where
  | branch
  | tag
  deriving DecidableEq

namespace RefKind

instance : Named RefKind where
  all := [branch, tag]
  name
    | branch => "branch"
    | tag => "tag"

theorem name_inj {kind other : RefKind} : name kind = name other ↔ kind = other := by
  cases kind <;> cases other <;> decide

/-- Read a ref kind. -/
def parse (text : String) : Except UnknownName RefKind :=
  (Named.ofName? text).elim (.error (.refKind text)) .ok

/-- The kind a `tag` switch selects. -/
def ofTagSwitch (tag : Bool) : RefKind := if tag then .tag else .branch

end RefKind

/-- What an actor may ask to do to a ref. -/
inductive Action where
  | push
  | merge
  | unprotect
  deriving DecidableEq

namespace Action

instance : Named Action where
  all := [push, merge, unprotect]
  name
    | push => "push"
    | merge => "merge"
    | unprotect => "unprotect"

/-- Does the action change what the ref points to? -/
def writesRef : Action → Bool
  | push | merge => true
  | unprotect => false

@[simp] theorem writesRef_iff {action : Action} :
    action.writesRef = true ↔ action ≠ .unprotect := by
  cases action <;> decide

theorem name_inj {action other : Action} : name action = name other ↔ action = other := by
  cases action <;> cases other <;> decide

/-- An action is read back from its name. -/
@[simp] theorem ofName?_name (action : Action) : Named.ofName? (name action) = some action :=
  Named.ofName?_name (fun a => by cases a <;> decide)
    (fun a b => by cases a <;> cases b <;> decide) action

/-- Read an action name. -/
def parse (text : String) : Except UnknownName Action :=
  (Named.ofName? text).elim (.error (.action text)) .ok

end Action

end RefPolicy
