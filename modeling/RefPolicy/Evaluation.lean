import RefPolicy.Extension

/-!
# RefPolicy.Evaluation

How a request is decided.  The first step that has an answer wins:

1. the extensions, in the order they were registered;
2. while the project waits for its first push, administrators and roles above
   developer may write branches;
3. the protections the ref falls under: none at all leaves the request
   ungoverned, and one that grants it is enough;
4. otherwise the request is denied, in the name of all of them.

* `evaluate_nil` — without extensions the first step falls away;
* `answer_eq_ungoverned`, `answer_eq_allowed`, `answer_eq_denied` — what the
  protections answer, and when.
-/

namespace RefPolicy

/-- Does one protection grant the request?  Without rules nobody may write
the ref, and anyone may remove the protection. -/
def Protection.grants (protection : Protection) (request : Request) (features : Features) : Bool :=
  let set := protection.ruleSet request.action features
  match request.action with
  | .unprotect => set.satisfiedBy request.actor
  | .push | .merge => set.grants request.actor

/-- A protection grants its removal to those who may remove it. -/
theorem Protection.grants_of_unprotect {request : Request} (h : request.action = .unprotect)
    (protection : Protection) (features : Features) :
    protection.grants request features = protection.mayUnprotect request.actor features := by
  simp only [grants, h, mayUnprotect]

/-- It grants a write to those whom a rule admits. -/
theorem Protection.grants_of_writesRef {request : Request} (h : request.action.writesRef = true)
    (protection : Protection) (features : Features) :
    protection.grants request features =
      ((protection.ruleSet request.action features).firstMatch request.actor).isSome := by
  rw [← RuleSet.grants_eq_isSome_firstMatch]
  cases hact : request.action with
  | unprotect => exact absurd hact (Action.writesRef_iff.mp h)
  | push | merge => simp only [grants, hact]

/-- A write takes a rule that admits the actor. -/
theorem Protection.grants_iff_of_writesRef {request : Request}
    (h : request.action.writesRef = true) {protection : Protection} {features : Features} :
    protection.grants request features = true ↔
      ∃ rule ∈ protection.rulesFor request.action,
        rule.grant.admits features request.actor = true := by
  rw [grants_of_writesRef h]
  exact RuleSet.isSome_firstMatch

/-! ## Reasons -/

/-- Why an actor may write while the project waits for its first push. -/
def Actor.bootstrapReason (actor : Actor) : String :=
  (if actor.admin then "admin" else name actor.role) ++
    " may create the default branch of an empty repository"

namespace Request

/-- Why a protection lets a request pass. -/
def grantReason (request : Request) (protection : Protection) : String :=
  name request.action ++ " allowed by protected " ++ name request.kind ++ " '" ++
    protection.label ++ "'"

/-- Why no protection lets a request pass. -/
def denialReason (request : Request) : String :=
  "not allowed to " ++ name request.action ++ " protected " ++ name request.kind ++ " '" ++
    request.refName ++ "'"

end Request

/-! ## The answer of protections -/

namespace Protections

/-- The answer of the protections that govern a request.  None at all leaves
it ungoverned; the first that grants it is named as the reason. -/
def answer (governing : Protections) (request : Request) (features : Features) : Decision :=
  if governing.isEmpty then .ungoverned
  else
    match governing.find? fun protection => protection.grants request features with
    | some protection => .allowed (request.grantReason protection)
    | none => .denied request.denialReason governing.labels

variable {governing : Protections} {request : Request} {features : Features}

/-- Protections leave a request ungoverned only if there are none. -/
theorem answer_eq_ungoverned :
    governing.answer request features = .ungoverned ↔ governing = [] := by
  unfold answer
  split
  · next h => simpa using h
  · next h => split <;> simpa using h

/-- The first protection that grants a request is the reason. -/
theorem answer_eq_allowed {reason : String} :
    governing.answer request features = .allowed reason ↔
      ∃ protection,
        (governing.find? fun protection => protection.grants request features) =
            some protection ∧
          request.grantReason protection = reason := by
  unfold answer
  split
  · next h => simp [List.isEmpty_iff.mp h]
  · split
    · next found => simp [found]
    · next found => simp [found]

/-- One protection that grants a request is enough. -/
theorem isAllowed_answer :
    (governing.answer request features).isAllowed =
      governing.any fun protection => protection.grants request features := by
  rw [← List.isSome_find?]
  unfold answer
  split
  · next h => simp [List.isEmpty_iff.mp h, Decision.isAllowed]
  · split
    · next found => simp [found, Decision.isAllowed]
    · next found => simp [found, Decision.isAllowed]

/-- What is neither ungoverned nor allowed is denied in the name of all. -/
theorem answer_eq_denied (hne : governing ≠ [])
    (hno : ∀ protection ∈ governing, protection.grants request features = false) :
    governing.answer request features = .denied request.denialReason governing.labels := by
  have hfind : (governing.find? fun protection => protection.grants request features) = none := by
    rw [List.find?_eq_none]
    intro protection hmem
    simp [hno protection hmem]
  rw [answer, if_neg (by simpa using hne), hfind]

end Protections

namespace Policy

/-! ## The steps -/

/-- Who may write branches before the first push. -/
def bootstraps (actor : Actor) : Bool := actor.admin || decide (Role.developer < actor.role)

/-- Is the request settled by the wait for the first push? -/
def bootstrapApplies (policy : Policy) (request : Request) : Bool :=
  request.kind == .branch && request.action.writesRef && policy.project.bootstrapProtected &&
    bootstraps request.actor

/-- The answer given while the project waits for its first push. -/
def checkBootstrap (policy : Policy) (request : Request) : Option Decision :=
  if policy.bootstrapApplies request then some (.allowed request.actor.bootstrapReason) else none

/-- The answer of the protections a ref falls under. -/
def checkProtections [PatternLimit] (policy : Policy) (request : Request) : Decision :=
  (policy.protections.governing request.refName request.kind).answer request policy.features

/-- What the wait for the first push settles. -/
theorem bootstrapApplies_iff {policy : Policy} {request : Request} :
    policy.bootstrapApplies request = true ↔
      request.kind = .branch ∧ request.action ≠ .unprotect ∧
        policy.project.bootstrapProtected = true ∧
        (request.actor.admin = true ∨ Role.developer < request.actor.role) := by
  simp only [bootstrapApplies, bootstraps, Bool.and_eq_true, Bool.or_eq_true, beq_iff_eq,
    decide_eq_true_eq, Action.writesRef_iff, and_assoc]

/-- The answer of the first extension that has one. -/
def checkExtensions (policy : Policy) (extensions : List Extension) (request : Request) :
    Option Decision :=
  extensions.findSome? fun extension => extension.preCheck request policy

/-- Decide a request. -/
def evaluate [PatternLimit] (policy : Policy) (extensions : List Extension) (request : Request) :
    Decision :=
  match policy.checkExtensions extensions request with
  | some decision => decision
  | none => (policy.checkBootstrap request).getD (policy.checkProtections request)

variable {limit : PatternLimit}

/-- Without extensions there are two steps. -/
theorem evaluate_nil (policy : Policy) (request : Request) :
    policy.evaluate [] request =
      if policy.bootstrapApplies request then .allowed request.actor.bootstrapReason
      else policy.checkProtections request := by
  simp only [evaluate, checkExtensions, List.findSome?_nil, checkBootstrap]
  split <;> rfl

/-- Is the request explicitly granted? -/
def permits [PatternLimit] (policy : Policy) (extensions : List Extension) (request : Request) :
    Bool :=
  (policy.evaluate extensions request).isAllowed

/-- Insist on a request: anything but a grant is a refusal. -/
def require [PatternLimit] (policy : Policy) (extensions : List Extension) (request : Request) :
    Except Refusal Unit :=
  match policy.evaluate extensions request with
  | .allowed _ => .ok ()
  | .denied reason governing => .error ⟨request.action, request.refName, reason, governing⟩
  | .ungoverned => .error (.ungoverned request.action request.refName)

/-- What is permitted can be insisted on, and nothing else can. -/
theorem require_eq_ok_iff {policy : Policy} {extensions : List Extension} {request : Request} :
    policy.require extensions request = .ok () ↔ policy.permits extensions request = true := by
  unfold permits require
  cases policy.evaluate extensions request <;> simp [Decision.isAllowed]

/-- A refusal says what was asked, and what the decision says of it. -/
theorem refusal_of_require {policy : Policy} {extensions : List Extension} {request : Request}
    {refusal : Refusal} (h : policy.require extensions request = .error refusal) :
    refusal.action = request.action ∧ refusal.refName = request.refName ∧
      (policy.evaluate extensions request = .denied refusal.reason refusal.governing ∨
        policy.evaluate extensions request = .ungoverned ∧ refusal.governing = []) := by
  unfold require at h
  cases hdecision : policy.evaluate extensions request with
  | allowed reason => simp [hdecision] at h
  | denied reason governing =>
      rw [hdecision] at h
      cases h
      exact ⟨rfl, rfl, .inl rfl⟩
  | ungoverned =>
      rw [hdecision] at h
      cases h
      exact ⟨rfl, rfl, .inr ⟨rfl, rfl⟩⟩

/-- Does an extension demand code owner approval for merges into `branch`? -/
def requiresApproval (policy : Policy) (extensions : List Extension) (branch : String) : Bool :=
  extensions.any fun extension => extension.requiresApproval branch policy

end Policy

end RefPolicy
