import RefPolicy.Proofs.FirstPush

/-!
# RefPolicy.Proofs.Removal

What the bundled extensions change.  `codeOwnerApproval` settles no request,
and `restrictedUnprotect` settles one sort only: taking the protection off a
ref that is *left open* to the actor, because a protection of it has no
unprotect rules and no unprotect rule of the others admits the actor.  On its
own the policy allows such a removal to anyone; with the extensions it takes
the strictest of the roles they ask for.

* `lt_strictest` — a role falls short of the strictest when it falls short of one;
* `checkExtensions_bundled_iff` — what a list of bundled extensions answers;
* `permits_bundled_iff` — the three ways to a permission: the first push, a
  rule, and an open removal;
* `evaluate_bundled_eq_nil_or_denied` — the extensions change nothing else;
* `evaluate_bundled_rel` — so to compare two decisions is to compare them
  without extensions, and the removals that are restricted.
-/

namespace RefPolicy

/-- The highest role of a list. -/
def Role.highest : List Role → Role
  | [] => .noAccess
  | role :: roles => if role < highest roles then highest roles else role

/-- To fall short of the highest role of a list is to fall short of one of its roles. -/
theorem Role.lt_highest {role : Role} {roles : List Role} :
    role < highest roles ↔ ∃ other ∈ roles, role < other := by
  induction roles with
  | nil => simp [highest, lt_iff, level]
  | cons first roles ih =>
      have hcons : (∃ other ∈ first :: roles, role < other) ↔
          role < first ∨ role < highest roles := by
        simp only [ih, List.mem_cons, or_and_right, exists_or, exists_eq_left]
      rw [hcons, highest]
      simp only [lt_iff]
      split
      · omega
      · omega

namespace Bundled

/-- The role an extension asks of those who remove a protection, if any. -/
def minimum? : Bundled → Option Role
  | codeOwnerApproval => none
  | restrictedUnprotect minimum => some minimum

/-- The roles asked for, in the order in which the extensions were registered. -/
def minimums (bundled : List Bundled) : List Role := bundled.filterMap minimum?

/-- The highest of the roles asked for. -/
def strictest (bundled : List Bundled) : Role := Role.highest (minimums bundled)

theorem minimums_cons_codeOwnerApproval (bundled : List Bundled) :
    minimums (codeOwnerApproval :: bundled) = minimums bundled := rfl

theorem minimums_cons_restrictedUnprotect (minimum : Role) (bundled : List Bundled) :
    minimums (restrictedUnprotect minimum :: bundled) = minimum :: minimums bundled := rfl

/-- An actor falls short of the strictest role when one of the roles asked for is above. -/
theorem lt_strictest {bundled : List Bundled} {role : Role} :
    role < strictest bundled ↔ ∃ minimum ∈ minimums bundled, role < minimum :=
  Role.lt_highest

end Bundled

/-- A removal takes a rule that admits the actor, or no rule at all. -/
theorem Protection.grants_iff_of_unprotect {request : Request} (h : request.action = .unprotect)
    {protection : Protection} {features : Features} :
    protection.grants request features = true ↔
      protection.rulesFor .unprotect = [] ∨
        ∃ rule ∈ protection.rulesFor .unprotect,
          rule.grant.admits features request.actor = true := by
  rw [grants_of_unprotect h, mayUnprotect, RuleSet.satisfiedBy, Bool.or_eq_true,
    RuleSet.isSome_firstMatch, RuleSet.isEmpty, List.isEmpty_iff]
  rfl

/-- Why a removal is denied to an actor below the role `minimum`. -/
def Request.removalReason (request : Request) (minimum : Role) : String :=
  "unprotecting '" ++ request.refName ++ "' requires at least the " ++ name minimum ++ " role"

namespace Policy

/-- Some protection the ref falls under has no unprotect rules. -/
def HasOpenProtection [PatternLimit] (policy : Policy) (request : Request) : Prop :=
  ∃ protection ∈ policy.protections,
    protection.kind = request.kind ∧ protection.covers request.refName = true ∧
      protection.rulesFor .unprotect = []

/-- The request is a removal that only the absence of rules speaks for. -/
structure LeavesOpen [PatternLimit] (policy : Policy) (request : Request) : Prop where
  removes : request.action = .unprotect
  hasOpen : policy.HasOpenProtection request
  noRule : ¬ policy.RuleGrants request

section Removals

variable {limit : PatternLimit} {policy : Policy} {bundled : List Bundled} {request : Request}

/-! ## What the extensions answer -/

/-- Whether a protection is open, asked of the protections the ref falls under. -/
theorem hasOpenProtection_iff :
    policy.HasOpenProtection request ↔
      ((policy.protections.governing request.refName request.kind).filter fun protection =>
        (protection.rulesFor .unprotect).isEmpty) ≠ [] := by
  rw [ne_eq, List.eq_nil_iff_forall_not_mem]
  simp only [Classical.not_forall, Classical.not_not, List.mem_filter, Protections.mem_governing,
    List.isEmpty_iff, and_assoc, HasOpenProtection]

/-- The extension looks at labels, of which there are none if no protection is open. -/
theorem openLabels_isEmpty_iff :
    (Extension.openLabels
      (policy.protections.governing request.refName request.kind)).isEmpty = true ↔
        ¬ policy.HasOpenProtection request := by
  rw [hasOpenProtection_iff, Extension.openLabels, Protections.labels, List.isEmpty_map,
    List.isEmpty_iff, ne_eq, Classical.not_not]

/-- No rule speaks for a removal if the unprotect rules of all protections miss the actor. -/
theorem not_ruleGrants_iff (hact : request.action = .unprotect) :
    ¬ policy.RuleGrants request ↔
      ∀ protection ∈ policy.protections.governing request.refName request.kind,
        ∀ rule ∈ protection.rulesFor .unprotect,
          rule.grant.admits policy.features request.actor = false := by
  simp only [RuleGrants, hact, Protections.mem_governing]
  grind

/-- The extension steps back before a rule that admits the actor. -/
theorem any_grants_iff_ruleGrants (hact : request.action = .unprotect) :
    ((policy.protections.governing request.refName request.kind).any fun protection =>
      (protection.ruleSet .unprotect policy.features).grants request.actor) = true ↔
        policy.RuleGrants request := by
  simp only [List.any_eq_true, RuleSet.grants_eq_isSome_firstMatch, RuleSet.isSome_firstMatch,
    Protections.mem_governing, Protection.ruleSet, RuleGrants, hact, and_assoc]

/-- What the removal is denied with. -/
def removalDenial [PatternLimit] (policy : Policy) (request : Request) (minimum : Role) :
    Decision :=
  .denied (request.removalReason minimum)
    (Extension.openLabels (policy.protections.governing request.refName request.kind))

/-- An open removal is denied to those who fall short of the role. -/
theorem preCheck_of_leavesOpen {minimum : Role} (hopen : policy.LeavesOpen request)
    (hadmin : request.actor.admin = false) (hrole : request.actor.role < minimum) :
    (Extension.restrictedUnprotect minimum).preCheck request policy =
      some (policy.removalDenial request minimum) := by
  have hact : (request.action != .unprotect) = false := by simp [hopen.removes]
  have hlow : (request.actor.admin || decide (minimum ≤ request.actor.role)) = false := by
    simp only [hadmin, Bool.false_or, decide_eq_false_iff_not]
    exact Nat.not_le.mpr hrole
  have hlabels := mt openLabels_isEmpty_iff.mp (not_not_intro hopen.hasOpen)
  have hgranted := mt (any_grants_iff_ruleGrants hopen.removes).mp hopen.noRule
  simp only [Extension.restrictedUnprotect, hact, hlow, hlabels, hgranted]
  rfl

/-- Everything else is left to the extensions that follow. -/
theorem preCheck_eq_none {minimum : Role}
    (h : ¬ (policy.LeavesOpen request ∧ request.actor.admin = false ∧
      request.actor.role < minimum)) :
    (Extension.restrictedUnprotect minimum).preCheck request policy = none := by
  simp only [Extension.restrictedUnprotect]
  split
  · rfl
  split
  · rfl
  split
  · rfl
  split
  · rfl
  next hact hlow hlabels hgranted =>
    refine absurd ?_ h
    have hremoves : request.action = .unprotect := by simpa using hact
    simp only [Bool.or_eq_true, decide_eq_true_eq, not_or, Bool.not_eq_true] at hlow
    have hopen : policy.HasOpenProtection request :=
      Classical.not_not.mp (mt openLabels_isEmpty_iff.mpr hlabels)
    have hno := mt (any_grants_iff_ruleGrants hremoves).mpr hgranted
    exact ⟨⟨hremoves, hopen, hno⟩, hlow.1, Nat.not_le.mp hlow.2⟩

/-- The first answer counts. -/
theorem checkExtensions_cons_of_some {extension : Extension} {extensions : List Extension}
    {decision : Decision} (h : extension.preCheck request policy = some decision) :
    policy.checkExtensions (extension :: extensions) request = some decision := by
  simp only [checkExtensions, List.findSome?_cons, h]

/-- An extension that has no answer may go. -/
theorem checkExtensions_cons_of_none {extension : Extension} {extensions : List Extension}
    (h : extension.preCheck request policy = none) :
    policy.checkExtensions (extension :: extensions) request =
      policy.checkExtensions extensions request := by
  simp only [checkExtensions, List.findSome?_cons, h]

/-- An open removal is denied by the first extension that asks for a role above
the actor's, and nothing else is settled. -/
theorem checkExtensions_bundled_iff {decision : Decision} :
    policy.checkExtensions (bundled.map Bundled.toExtension) request = some decision ↔
      policy.LeavesOpen request ∧ request.actor.admin = false ∧
        ∃ minimum,
          ((Bundled.minimums bundled).find? fun minimum => request.actor.role < minimum) =
              some minimum ∧
            policy.removalDenial request minimum = decision := by
  induction bundled with
  | nil => simp [checkExtensions, Bundled.minimums]
  | cons first bundled ih =>
      rw [List.map_cons]
      cases first with
      | codeOwnerApproval =>
          rw [Bundled.minimums_cons_codeOwnerApproval, ← ih, checkExtensions_cons_of_none rfl]
      | restrictedUnprotect minimum =>
          rw [Bundled.minimums_cons_restrictedUnprotect]
          by_cases hdenies : policy.LeavesOpen request ∧ request.actor.admin = false ∧
              request.actor.role < minimum
          · obtain ⟨hopen, hadmin, hrole⟩ := hdenies
            rw [Bundled.toExtension,
              checkExtensions_cons_of_some (preCheck_of_leavesOpen hopen hadmin hrole)]
            simp [hopen, hadmin, hrole]
          · rw [Bundled.toExtension, checkExtensions_cons_of_none (preCheck_eq_none hdenies), ih]
            refine and_congr_right fun hopen => and_congr_right fun hadmin => ?_
            have hrole : ¬ request.actor.role < minimum := fun h => hdenies ⟨hopen, hadmin, h⟩
            simp [hrole]

/-! ## What the extensions change -/

/-- The removal is open, and the actor falls short of a role that is asked for. -/
def RestrictsRemoval [PatternLimit] (policy : Policy) (bundled : List Bundled)
    (request : Request) : Prop :=
  policy.LeavesOpen request ∧ request.actor.admin = false ∧
    request.actor.role < Bundled.strictest bundled

/-- A removal that is restricted is denied for the first role that is not held. -/
theorem evaluate_bundled_of_restrictsRemoval (h : policy.RestrictsRemoval bundled request) :
    ∃ minimum,
      ((Bundled.minimums bundled).find? fun minimum => request.actor.role < minimum) =
          some minimum ∧
        policy.evaluate (bundled.map Bundled.toExtension) request =
          policy.removalDenial request minimum := by
  obtain ⟨hopen, hadmin, hrole⟩ := h
  obtain ⟨strict, hmem, hstrict⟩ := Bundled.lt_strictest.mp hrole
  have hsome : ((Bundled.minimums bundled).find? fun minimum =>
      decide (request.actor.role < minimum)).isSome = true :=
    List.find?_isSome.mpr ⟨strict, hmem, decide_eq_true hstrict⟩
  obtain ⟨minimum, hfind⟩ := Option.isSome_iff_exists.mp hsome
  have hcheck : policy.checkExtensions (bundled.map Bundled.toExtension) request =
      some (policy.removalDenial request minimum) :=
    checkExtensions_bundled_iff.mpr ⟨hopen, hadmin, minimum, hfind, rfl⟩
  exact ⟨minimum, hfind, by rw [evaluate, hcheck]⟩

/-- Every other request is decided as if there were no extensions. -/
theorem evaluate_bundled_of_not_restrictsRemoval (h : ¬ policy.RestrictsRemoval bundled request) :
    policy.evaluate (bundled.map Bundled.toExtension) request = policy.evaluate [] request := by
  have hcheck : policy.checkExtensions (bundled.map Bundled.toExtension) request = none := by
    rw [Option.eq_none_iff_forall_ne_some]
    intro decision hdecision
    obtain ⟨hopen, hadmin, minimum, hfind, -⟩ := checkExtensions_bundled_iff.mp hdecision
    have hrole : request.actor.role < minimum := by
      simpa using List.find?_some hfind
    have hmem := List.mem_of_find?_eq_some hfind
    exact h ⟨hopen, hadmin, Bundled.lt_strictest.mpr ⟨minimum, hmem, hrole⟩⟩
  rw [evaluate, hcheck]
  rfl

/-- Two decisions compare as they do without extensions if the same removals are
restricted, and their denials compare as well. -/
theorem evaluate_bundled_rel {R : Decision → Decision → Prop} {other : Policy} {request' : Request}
    (hrestricts : policy.RestrictsRemoval bundled request ↔
      other.RestrictsRemoval bundled request')
    (hrole : request.actor.role = request'.actor.role)
    (hdenial : policy.RestrictsRemoval bundled request → ∀ minimum,
      R (policy.removalDenial request minimum) (other.removalDenial request' minimum))
    (hnil : R (policy.evaluate [] request) (other.evaluate [] request')) :
    R (policy.evaluate (bundled.map Bundled.toExtension) request)
      (other.evaluate (bundled.map Bundled.toExtension) request') := by
  by_cases h : policy.RestrictsRemoval bundled request
  · obtain ⟨minimum, hfind, hdenied⟩ := evaluate_bundled_of_restrictsRemoval h
    obtain ⟨minimum', hfind', hdenied'⟩ :=
      evaluate_bundled_of_restrictsRemoval (hrestricts.mp h)
    -- Both look for the first role the actor falls short of.
    rw [hrole] at hfind
    obtain rfl : minimum = minimum' := Option.some.inj (hfind.symm.trans hfind')
    rw [hdenied, hdenied']
    exact hdenial h minimum
  · rw [evaluate_bundled_of_not_restrictsRemoval h,
      evaluate_bundled_of_not_restrictsRemoval (mt hrestricts.mpr h)]
    exact hnil

/-- Of the bundled extensions one asks for approval. -/
theorem requiresApproval_bundled_iff {branch : String} :
    policy.requiresApproval (bundled.map Bundled.toExtension) branch = true ↔
      Bundled.codeOwnerApproval ∈ bundled ∧
        (policy.protections.governing branch .branch).any Protection.codeOwnerApproval = true := by
  rw [requiresApproval, List.any_map, List.any_eq_true]
  constructor
  · intro h
    obtain ⟨extension, hmem, hasks⟩ := h
    cases extension with
    | codeOwnerApproval => exact ⟨hmem, hasks⟩
    | restrictedUnprotect minimum => exact absurd hasks Bool.false_ne_true
  · intro h
    exact ⟨.codeOwnerApproval, h.1, h.2⟩

/-! ## The ways to a permission -/

/-- Without extensions a removal takes a rule or an open protection. -/
theorem permits_nil_iff_of_unprotect (hact : request.action = .unprotect) :
    policy.permits [] request = true ↔
      policy.RuleGrants request ∨ policy.HasOpenProtection request := by
  have hfirst : policy.bootstrapApplies request = false := by
    simp [bootstrapApplies, hact, Action.writesRef]
  rw [permits, evaluate_nil, hfirst, if_neg Bool.false_ne_true, checkProtections,
    Protections.isAllowed_answer, List.any_eq_true]
  simp only [Protections.mem_governing, Protection.grants_iff_of_unprotect hact, RuleGrants,
    HasOpenProtection, hact]
  grind

/-- Three things make a permission, whatever bundled extensions are at work: the
wait for the first push, a rule that admits the actor, and a protection
without unprotect rules, if the actor is an administrator or holds every role
asked for. -/
theorem permits_bundled_iff :
    policy.permits (bundled.map Bundled.toExtension) request = true ↔
      policy.bootstrapApplies request = true ∨ policy.RuleGrants request ∨
        request.action = .unprotect ∧ policy.HasOpenProtection request ∧
          (request.actor.admin = true ∨ ¬ request.actor.role < Bundled.strictest bundled) := by
  by_cases hact : request.action = .unprotect
  · have hfirst : ¬ policy.bootstrapApplies request = true := by
      simp [bootstrapApplies, hact, Action.writesRef]
    by_cases hrestricts : policy.RestrictsRemoval bundled request
    · obtain ⟨minimum, -, hdenied⟩ := evaluate_bundled_of_restrictsRemoval hrestricts
      obtain ⟨hopen, hadmin, hrole⟩ := hrestricts
      simp [permits, hdenied, removalDenial, Decision.isAllowed, hfirst, hopen.noRule, hadmin,
        hrole]
    · have hnil : policy.permits [] request = true ↔
          policy.RuleGrants request ∨ policy.HasOpenProtection request :=
        permits_nil_iff_of_unprotect hact
      rw [permits, evaluate_bundled_of_not_restrictsRemoval hrestricts, ← permits, hnil]
      have hshort (hrule : ¬ policy.RuleGrants request)
          (hopen : policy.HasOpenProtection request) :
          request.actor.admin = true ∨ ¬ request.actor.role < Bundled.strictest bundled := by
        by_cases hadmin : request.actor.admin = true
        · exact .inl hadmin
        · exact .inr fun hrole =>
            hrestricts ⟨⟨hact, hopen, hrule⟩, Bool.not_eq_true _ ▸ hadmin, hrole⟩
      grind
  · have hrestricts : ¬ policy.RestrictsRemoval bundled request :=
      fun h => hact h.1.removes
    rw [permits, evaluate_bundled_of_not_restrictsRemoval hrestricts, ← permits,
      permits_nil_iff_of_writesRef (Action.writesRef_iff.mpr hact)]
    simp [hact]

end Removals

/-- With any bundled extensions the decision is the one without them, reason and
protections in the way included, but for removals that are left open to an
actor who is no administrator and falls short of a role asked for, which is
to fall short of the strictest.  Such a removal would be allowed, and is
denied in the name of the protections without unprotect rules, for the first
role that is asked for and not held. -/
theorem evaluate_bundled_eq_nil_or_denied [PatternLimit] (policy : Policy)
    (bundled : List Bundled) (request : Request) :
    let governing := policy.protections.governing request.refName request.kind
    let extensions := bundled.map Bundled.toExtension
    let withoutRules : Protections :=
      governing.filter fun protection => (protection.rulesFor .unprotect).isEmpty
    let restricted :=
      request.action = .unprotect ∧ request.actor.admin = false ∧
        (∃ minimum ∈ Bundled.minimums bundled, request.actor.role < minimum) ∧
        withoutRules ≠ [] ∧
        ∀ protection ∈ governing, ∀ rule ∈ protection.rulesFor .unprotect,
          rule.grant.admits policy.features request.actor = false
    ((∃ minimum ∈ Bundled.minimums bundled, request.actor.role < minimum) ↔
      request.actor.role < Bundled.strictest bundled) ∧
    (¬ restricted → policy.evaluate extensions request = policy.evaluate [] request) ∧
    (restricted →
      (policy.evaluate [] request).isAllowed = true ∧
      ∃ minimum,
        ((Bundled.minimums bundled).find? fun minimum => request.actor.role < minimum) =
            some minimum ∧
          policy.evaluate extensions request =
            .denied (request.removalReason minimum) withoutRules.labels) := by
  intro governing extensions withoutRules restricted
  have hopen : withoutRules ≠ [] ↔ policy.HasOpenProtection request := hasOpenProtection_iff.symm
  have hiff : restricted ↔ policy.RestrictsRemoval bundled request := by
    constructor
    · intro h
      obtain ⟨hact, hadmin, hrole, hne, hrules⟩ := h
      have hno := (not_ruleGrants_iff hact).mpr hrules
      exact ⟨⟨hact, hopen.mp hne, hno⟩, hadmin, Bundled.lt_strictest.mpr hrole⟩
    · intro h
      obtain ⟨⟨hact, hne, hno⟩, hadmin, hrole⟩ := h
      have hrules := (not_ruleGrants_iff hact).mp hno
      exact ⟨hact, hadmin, Bundled.lt_strictest.mp hrole, hopen.mpr hne, hrules⟩
  refine ⟨Bundled.lt_strictest.symm, ?_, ?_⟩
  · intro h
    exact evaluate_bundled_of_not_restrictsRemoval (mt hiff.mpr h)
  · intro h
    have hrestricts := hiff.mp h
    refine ⟨?_, evaluate_bundled_of_restrictsRemoval hrestricts⟩
    exact (permits_nil_iff_of_unprotect h.1).mpr (.inr hrestricts.1.hasOpen)

/-- The first role that is not held is named, though a later one is lower, and
of the two protections only the one without unprotect rules. -/
example :
    let policy : Policy :=
      { protections :=
          [{ pattern := ⟨"m*"⟩, kind := .branch, rules := [⟨.unprotect, .user 2⟩] },
            { pattern := ⟨"main"⟩, kind := .branch }] }
    policy.evaluate
        ([.restrictedUnprotect .owner, .restrictedUnprotect .maintainer].map Bundled.toExtension)
        ⟨{ id := 1, role := .developer }, .unprotect, "main", .branch⟩ =
      .denied "unprotecting 'main' requires at least the owner role" ["main"] := by
  decide

end Policy

end RefPolicy
