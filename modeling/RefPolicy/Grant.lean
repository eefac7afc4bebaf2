import RefPolicy.Role
import RefPolicy.Ref

/-!
# RefPolicy.Grant

Who a rule speaks about.  A `Grant` names a role threshold, one user, one
group or one deploy key; a `Rule` attaches a grant to an action.  Users,
groups and deploy keys are identified by 64-bit numbers.
-/

namespace RefPolicy

/-- The number of a user, a group or a deploy key. -/
abbrev Id := UInt64

/-- The actors a rule admits. -/
inductive Grant where
  | role (threshold : Role)
  | user (id : Id)
  | group (id : Id)
  | deployKey (id : Id)
  deriving DecidableEq

/-- Decimal digits of a number. -/
def Id.text (id : Id) : String := Nat.repr id.toNat

/-- The written form of a grant, such as `role:maintainer` or `user:42`. -/
def Grant.text : Grant → String
  | role threshold => "role:" ++ name threshold
  | user id => "user:" ++ id.text
  | group id => "group:" ++ id.text
  | deployKey id => "deploy_key:" ++ id.text

/-- One line of a protection: `grant` may do `action`. -/
structure Rule where
  action : Action
  grant : Grant
  deriving DecidableEq

end RefPolicy
