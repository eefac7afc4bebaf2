import RefPolicy.IdSet

/-!
# RefPolicy.Actor

Who asks: a user number, the highest role held in the project, the groups
joined, whether the actor administers the whole instance, and the deploy key
used to authenticate, if any.
-/

namespace RefPolicy

/-- The actor of one request. -/
structure Actor where
  id : Id
  role : Role
  groups : IdSet := ∅
  admin : Bool := false
  deployKey : Option Id := none

/-- Add memberships. -/
def Actor.join (actor : Actor) (groups : List Id) : Actor :=
  { actor with groups := actor.groups.insertAll groups }

/-- Does the actor belong to `group`? -/
def Actor.isMember (actor : Actor) (group : Id) : Bool := decide (group ∈ actor.groups)

end RefPolicy
