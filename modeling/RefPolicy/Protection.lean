import RefPolicy.Actor
import RefPolicy.Pattern
import RefPolicy.Timestamp

/-!
# RefPolicy.Protection

One protected branch or tag pattern with its rules.  Rules keep the order in
which they were declared; the rules of one action are those that name it.
-/

namespace RefPolicy

/-- Switches a host may turn on. -/
structure Features where
  /-- Honour rules that admit a deploy key. -/
  deployKeyGrants : Bool := false
  deriving DecidableEq

/-- A protected ref pattern. -/
structure Protection where
  pattern : Pattern
  kind : RefKind
  createdAt : Option Timestamp := none
  codeOwnerApproval : Bool := false
  rules : List Rule := []

namespace Protection

/-- A protection is called by the text of its pattern. -/
def label (protection : Protection) : String := protection.pattern.source

/-- Does the pattern cover a ref name?  The kind is not looked at. -/
def covers [limit : PatternLimit] (protection : Protection) (refName : String) : Bool :=
  protection.pattern.covers refName limit.fits

/-- Declare one more rule, after the others. -/
def allow (protection : Protection) (action : Action) (grant : Grant) : Protection :=
  { protection with rules := protection.rules ++ [⟨action, grant⟩] }

/-- Declare a rule for each grant of a list. -/
def allowAll (protection : Protection) (action : Action) (grants : List Grant) : Protection :=
  grants.foldl (fun protection grant => protection.allow action grant) protection

/-- The rules of one action, in declared order. -/
def rulesFor (protection : Protection) (action : Action) : List Rule :=
  protection.rules.filter fun rule => rule.action == action

/-- The grants of one action, in declared order. -/
def grantsFor (protection : Protection) (action : Action) : List Grant :=
  (protection.rulesFor action).map Rule.grant

end Protection

end RefPolicy
