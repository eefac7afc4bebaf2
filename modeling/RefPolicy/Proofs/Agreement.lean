import RefPolicy.Evaluation

/-!
# RefPolicy.Proofs.Agreement

Deciding a request agrees with the questions a policy answers on its own.
`Policy.evaluate` asks one protection after the other, each with the rules it
declares itself; `Protections.rulesFor` puts the rules of all of them into
one list and knows no protections any more.  What ties the two is the
protection that *declares* the first rule of the list that admits the actor:

* `firstMatch_allRules_iff` — the first match of the list is declared there;
* `find?_grants_iff` — that protection is the first to grant a write;
* `evaluate_agrees_with_queries` — the whole decision, reason and protections
  in the way included, read off the queries.
-/

namespace RefPolicy

namespace Protections

/-- `owner` declares `rule`, and `rule` is the first of all rules to admit the
actor: none of those before it does, whether declared by a protection before
`owner` or by `owner` itself. -/
def DeclaresFirst (governing : Protections) (action : Action) (features : Features)
    (actor : Actor) (owner : Protection) (rule : Rule) : Prop :=
  ∃ before after earlier later,
    governing = before ++ owner :: after ∧
    owner.rulesFor action = earlier ++ rule :: later ∧
    rule.grant.admits features actor = true ∧
    ∀ other ∈ Protections.allRules before action ++ earlier,
      other.grant.admits features actor = false

variable {governing : Protections} {features : Features} {actor : Actor} {action : Action}
  {request : Request}

/-! ## Where the first match is declared -/

/-- The rules before the first match, told apart by where they are declared. -/
theorem declaresFirst_iff {owner : Protection} {rule : Rule} :
    governing.DeclaresFirst action features actor owner rule ↔
      ∃ before after, governing = before ++ owner :: after ∧
        (owner.ruleSet action features).firstMatch actor = some rule ∧
        ∀ protection ∈ before, ∀ other ∈ protection.rulesFor action,
          other.grant.admits features actor = false := by
  simp only [RuleSet.firstMatch, Protection.ruleSet, List.find?_eq_some_iff_append,
    Bool.not_eq_eq_eq_not, Bool.not_true]
  constructor
  · intro h
    obtain ⟨before, after, earlier, later, hgov, hrules, hadmits, hnone⟩ := h
    refine ⟨before, after, hgov, ⟨hadmits, earlier, later, hrules, ?_⟩, ?_⟩
    · intro other hother
      exact hnone other (List.mem_append_right _ hother)
    · intro protection hprotection other hother
      have hall : other ∈ Protections.allRules before action :=
        mem_allRules.mpr ⟨protection, hprotection, hother⟩
      exact hnone other (List.mem_append_left _ hall)
  · intro h
    obtain ⟨before, after, hgov, ⟨hadmits, earlier, later, hrules, hearlier⟩, hbefore⟩ := h
    refine ⟨before, after, earlier, later, hgov, hrules, hadmits, ?_⟩
    intro other hother
    rcases List.mem_append.mp hother with hall | hown
    · obtain ⟨protection, hprotection, hrule⟩ := mem_allRules.mp hall
      exact hbefore protection hprotection other hrule
    · exact hearlier other hown

/-- The first match of the list of all rules is declared by some protection, and first of all. -/
theorem firstMatch_allRules_iff {rule : Rule} :
    RuleSet.firstMatch ⟨governing.allRules action, features⟩ actor = some rule ↔
      ∃ owner, governing.DeclaresFirst action features actor owner rule := by
  rw [RuleSet.firstMatch, allRules, List.find?_flatMap, List.findSome?_eq_some_iff]
  simp only [declaresFirst_iff, List.find?_eq_none, Bool.not_eq_true]
  constructor
  · intro h
    obtain ⟨before, owner, after, hgov, hfirst, hbefore⟩ := h
    exact ⟨owner, before, after, hgov, hfirst, hbefore⟩
  · intro h
    obtain ⟨owner, before, after, hgov, hfirst, hbefore⟩ := h
    exact ⟨before, owner, after, hgov, hfirst, hbefore⟩

/-! ## The first protection that grants a write -/

/-- A protection that does not grant a write has no rule that admits the actor. -/
theorem grants_eq_false_iff {protection : Protection}
    (hwrites : request.action.writesRef = true) :
    protection.grants request features = false ↔
      ∀ rule ∈ protection.rulesFor request.action,
        rule.grant.admits features request.actor = false := by
  rw [← Bool.not_eq_true, Protection.grants_iff_of_writesRef hwrites]
  simp only [not_exists, not_and, Bool.not_eq_true]

/-- The first protection that grants a write is the one that declares the first match. -/
theorem find?_grants_iff {owner : Protection}
    (hwrites : request.action.writesRef = true) :
    (governing.find? fun protection => protection.grants request features) = some owner ↔
      ∃ rule, governing.DeclaresFirst request.action features request.actor owner rule := by
  rw [List.find?_eq_some_iff_append, Protection.grants_of_writesRef hwrites,
    Option.isSome_iff_exists]
  simp only [declaresFirst_iff, Bool.not_eq_eq_eq_not, Bool.not_true, grants_eq_false_iff hwrites]
  constructor
  · intro h
    obtain ⟨⟨rule, hfirst⟩, before, after, hgov, hbefore⟩ := h
    exact ⟨rule, before, after, hgov, hfirst, hbefore⟩
  · intro h
    obtain ⟨rule, before, after, hgov, hfirst, hbefore⟩ := h
    exact ⟨⟨rule, hfirst⟩, before, after, hgov, hbefore⟩

/-! ## The answer of the protections -/

/-- A write is allowed if there is a first match at all. -/
theorem isAllowed_answer_iff_of_writesRef (hwrites : request.action.writesRef = true) :
    (governing.answer request features).isAllowed = true ↔
      (RuleSet.firstMatch ⟨governing.allRules request.action, features⟩
        request.actor).isSome = true := by
  rw [isAllowed_answer, ← List.isSome_find?, Option.isSome_iff_exists, Option.isSome_iff_exists]
  simp only [find?_grants_iff hwrites, firstMatch_allRules_iff]
  exact exists_comm

/-- A removal is allowed if one of the protections may be removed. -/
theorem isAllowed_answer_iff_of_unprotect (hact : request.action = .unprotect) :
    (governing.answer request features).isAllowed = true ↔
      ∃ protection ∈ governing, protection.mayUnprotect request.actor features = true := by
  simp only [isAllowed_answer, List.any_eq_true, Protection.grants_of_unprotect hact]

/-- The protection that declares the first match is the one that is named. -/
theorem answer_of_firstMatch {rule : Rule} (hwrites : request.action.writesRef = true)
    (hrule : RuleSet.firstMatch ⟨governing.allRules request.action, features⟩ request.actor =
      some rule) :
    ∃ owner, governing.DeclaresFirst request.action features request.actor owner rule ∧
      governing.answer request features = .allowed (request.grantReason owner) := by
  obtain ⟨owner, howner⟩ := firstMatch_allRules_iff.mp hrule
  have hfind := (find?_grants_iff hwrites).mpr ⟨rule, howner⟩
  exact ⟨owner, howner, answer_eq_allowed.mpr ⟨owner, hfind, rfl⟩⟩

/-- The first protection that may be removed is the one that is named. -/
theorem answer_of_find?_mayUnprotect {protection : Protection} (hact : request.action = .unprotect)
    (hfind : (governing.find? fun protection => protection.mayUnprotect request.actor features) =
      some protection) :
    governing.answer request features = .allowed (request.grantReason protection) := by
  refine answer_eq_allowed.mpr ⟨protection, ?_, rfl⟩
  simpa only [Protection.grants_of_unprotect hact] using hfind

/-- What is governed and not allowed is denied in the name of all. -/
theorem answer_of_not_isAllowed (hne : governing ≠ [])
    (hno : (governing.answer request features).isAllowed = false) :
    governing.answer request features = .denied request.denialReason governing.labels := by
  rw [isAllowed_answer, List.any_eq_false] at hno
  exact answer_eq_denied hne fun protection h => by simpa using hno protection h

end Protections

/-! ## The whole decision -/

namespace Policy

/-- While the project waits for its first push, writing a branch is open to
administrators and roles above developer.  Apart from that a ref that falls
under no protection is ungoverned; otherwise a write is allowed exactly when
the list of rules has a first match, in the name of the protection that
declares it, and a removal exactly when one of the protections may be
removed, in the name of the first; all else is denied, in the name of all
protections the ref falls under. -/
theorem evaluate_agrees_with_queries [PatternLimit] (policy : Policy) (request : Request) :
    let governing := policy.protections.governing request.refName request.kind
    let rules : RuleSet :=
      ⟨policy.protections.rulesFor request.refName request.kind request.action, policy.features⟩
    let decision := policy.evaluate [] request
    let firstPush :=
      request.kind = .branch ∧ request.action ≠ .unprotect ∧
        policy.project.bootstrapProtected = true ∧
        (request.actor.admin = true ∨ Role.developer < request.actor.role)
    (firstPush → decision = .allowed request.actor.bootstrapReason) ∧
    (¬ firstPush → governing = [] → decision = .ungoverned) ∧
    (¬ firstPush → governing ≠ [] → request.action ≠ .unprotect →
      (decision.isAllowed = true ↔ (rules.firstMatch request.actor).isSome = true) ∧
      ∀ rule, rules.firstMatch request.actor = some rule →
        ∃ owner,
          governing.DeclaresFirst request.action policy.features request.actor owner rule ∧
          decision = .allowed (request.grantReason owner)) ∧
    (¬ firstPush → governing ≠ [] → request.action = .unprotect →
      (decision.isAllowed = true ↔
        ∃ protection ∈ governing,
          protection.mayUnprotect request.actor policy.features = true) ∧
      ∀ protection,
        (governing.find? fun protection =>
          protection.mayUnprotect request.actor policy.features) = some protection →
        decision = .allowed (request.grantReason protection)) ∧
    (¬ firstPush → governing ≠ [] → decision.isAllowed = false →
      decision = .denied request.denialReason governing.labels) := by
  intro governing rules decision firstPush
  have hfirst : firstPush → decision = .allowed request.actor.bootstrapReason := by
    intro h
    exact (evaluate_nil policy request).trans (if_pos (bootstrapApplies_iff.mpr h))
  have hanswer : ¬ firstPush → decision = governing.answer request policy.features := by
    intro h
    exact (evaluate_nil policy request).trans (if_neg fun hb => h (bootstrapApplies_iff.mp hb))
  refine ⟨hfirst, ?_, ?_, ?_, ?_⟩
  · intro hnot hnil
    rw [hanswer hnot]
    exact Protections.answer_eq_ungoverned.mpr hnil
  · intro hnot _ hact
    have hwrites := Action.writesRef_iff.mpr hact
    rw [hanswer hnot]
    exact ⟨Protections.isAllowed_answer_iff_of_writesRef hwrites,
      fun _ => Protections.answer_of_firstMatch hwrites⟩
  · intro hnot _ hact
    rw [hanswer hnot]
    exact ⟨Protections.isAllowed_answer_iff_of_unprotect hact,
      fun _ => Protections.answer_of_find?_mayUnprotect hact⟩
  · intro hnot hne
    rw [hanswer hnot]
    exact Protections.answer_of_not_isAllowed hne

end Policy

end RefPolicy
