import RefPolicy.Actor

/-!
# RefPolicy.Decision

Requests and their answers.  A request is allowed for a reason, denied for a
reason by the protections named, or ungoverned: no protection speaks about
the ref, and the host decides on its own.
-/

namespace RefPolicy

/-- An actor asks to do something to a ref. -/
structure Request where
  actor : Actor
  action : Action
  refName : String
  kind : RefKind

/-- The answer to a request. -/
inductive Decision where
  | allowed (reason : String)
  | denied (reason : String) (governing : List String)
  | ungoverned
  deriving DecidableEq

namespace Decision

def isAllowed : Decision → Bool
  | allowed _ => true
  | _ => false

def isDenied : Decision → Bool
  | denied .. => true
  | _ => false

def isUngoverned : Decision → Bool
  | ungoverned => true
  | _ => false

@[simp] theorem isUngoverned_iff {decision : Decision} :
    decision.isUngoverned = true ↔ decision = .ungoverned := by
  cases decision <;> simp [isUngoverned]

/-- The protections that stand in the way; none unless the answer is a denial. -/
def governing : Decision → List String
  | denied _ labels => labels
  | _ => []

/-- Which of the three answers it is. -/
def word : Decision → String
  | allowed _ => "allowed"
  | denied .. => "denied"
  | ungoverned => "ungoverned"

/-- The answer in one line. -/
def text : Decision → String
  | allowed reason => "allowed: " ++ reason
  | denied reason _ => "denied: " ++ reason
  | ungoverned => "ungoverned: no protected ref matches"

end Decision

/-- A request that was not granted, as reported to a caller who insisted on it. -/
structure Refusal where
  action : Action
  refName : String
  reason : String
  governing : List String := []
  deriving DecidableEq

namespace Refusal

/-- The refusal of a request no protection speaks about. -/
def ungoverned (action : Action) (refName : String) : Refusal :=
  ⟨action, refName, "no protected ref grants this action", []⟩

def message (refusal : Refusal) : String :=
  "cannot " ++ name refusal.action ++ " '" ++ refusal.refName ++ "': " ++ refusal.reason

end Refusal

end RefPolicy
