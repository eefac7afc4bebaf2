import RefPolicy.Protection

/-!
# RefPolicy.RuleSet

The rules that apply to one action, read against the switches of the host.
A set is satisfied by an actor who meets one of its rules; the empty set is
satisfied by everyone, so callers for whom "no rules" means "nobody" ask
`isEmpty` first.

* `isSome_firstMatch` — a first match is found when some rule admits the actor;
* `grants_eq_isSome_firstMatch` — where "no rules" means "nobody", a set grants
  what its first match grants.
-/

namespace RefPolicy

/-- Does a grant admit an actor?  An instance administrator meets every role
threshold, `noAccess` is a threshold nobody else meets, and deploy keys count
only where the host honours them. -/
def Grant.admits (features : Features) (grant : Grant) (actor : Actor) : Bool :=
  match grant with
  | .role threshold => actor.admin || (threshold != .noAccess && decide (threshold ≤ actor.role))
  | .user id => actor.id == id
  | .group id => actor.isMember id
  | .deployKey id => features.deployKeyGrants && actor.deployKey == some id

/-- Rules with the switches they are read under. -/
structure RuleSet where
  rules : List Rule
  features : Features := {}

namespace RuleSet

def isEmpty (set : RuleSet) : Bool := set.rules.isEmpty

def size (set : RuleSet) : Nat := set.rules.length

/-- The first rule the actor meets. -/
def firstMatch (set : RuleSet) (actor : Actor) : Option Rule :=
  set.rules.find? fun rule => rule.grant.admits set.features actor

/-- Does the actor meet a rule, or is there none to meet? -/
def satisfiedBy (set : RuleSet) (actor : Actor) : Bool :=
  set.isEmpty || (set.firstMatch actor).isSome

/-- Does the actor meet a rule? -/
def grants (set : RuleSet) (actor : Actor) : Bool := !set.isEmpty && set.satisfiedBy actor

theorem isSome_firstMatch {set : RuleSet} {actor : Actor} :
    (set.firstMatch actor).isSome = true ↔
      ∃ rule ∈ set.rules, rule.grant.admits set.features actor = true := by
  rw [firstMatch, List.find?_isSome]

/-- The empty set has no first match, so asking for rules first changes nothing. -/
theorem grants_eq_isSome_firstMatch (set : RuleSet) (actor : Actor) :
    set.grants actor = (set.firstMatch actor).isSome := by
  obtain ⟨rules, features⟩ := set
  cases rules with
  | nil => rfl
  | cons rule rules => simp [grants, satisfiedBy, isEmpty]

end RuleSet

/-- The rules of one action of a protection, as a set. -/
def Protection.ruleSet (protection : Protection) (action : Action) (features : Features) :
    RuleSet :=
  ⟨protection.rulesFor action, features⟩

/-- May the actor remove this protection?  Without unprotect rules anyone may. -/
def Protection.mayUnprotect (protection : Protection) (actor : Actor) (features : Features) :
    Bool :=
  (protection.ruleSet .unprotect features).satisfiedBy actor

end RefPolicy
