import RefPolicy.Evaluation

/-!
# RefPolicy.Proofs.FirstPush

How far the wait for the first push reaches.  While a project waits for it,
every branch counts as protected, and administrators and roles above
developer may write every branch.  Neither rule asks which branch it is, and
the second leaves all other actors to the protections, which may be none:

* `permits_nil_iff_of_writesRef` — a write is permitted by the first push or
  by a rule, and by nothing else;
* `isProtected_iff_governed_iff` — a protected ref is governed for writes,
  but for an actor the first push leaves to no protection;
* `permits_branch_iff_first_push_or_rule` — whatever the branch is called, a
  write without a rule for it is permitted while the project waits for its
  first push.
-/

namespace RefPolicy

namespace Policy

/-- A protection the ref falls under has a rule that admits the actor. -/
def RuleGrants [PatternLimit] (policy : Policy) (request : Request) : Prop :=
  ∃ protection ∈ policy.protections,
    protection.kind = request.kind ∧ protection.covers request.refName = true ∧
      ∃ rule ∈ protection.rulesFor request.action,
        rule.grant.admits policy.features request.actor = true

/-! ## Decisions without extensions -/

section Decisions

variable {limit : PatternLimit} {policy : Policy} {request : Request}

/-- A request is ungoverned if the ref falls under no protection and the wait
for the first push does not settle it. -/
theorem evaluate_nil_eq_ungoverned :
    policy.evaluate [] request = .ungoverned ↔
      policy.bootstrapApplies request = false ∧
        policy.protections.governing request.refName request.kind = [] := by
  rw [evaluate_nil]
  split
  · next h => simp [h]
  · next h => simp [h, checkProtections, Protections.answer_eq_ungoverned]

/-- Protections allow a write by their rules alone. -/
theorem isAllowed_checkProtections_iff_of_writesRef (hwrites : request.action.writesRef = true) :
    (policy.checkProtections request).isAllowed = true ↔ policy.RuleGrants request := by
  rw [checkProtections, Protections.isAllowed_answer, List.any_eq_true]
  simp only [Protections.mem_governing, Protection.grants_iff_of_writesRef hwrites, RuleGrants,
    and_assoc]

/-- A write is permitted by the first push or by a rule. -/
theorem permits_nil_iff_of_writesRef (hwrites : request.action.writesRef = true) :
    policy.permits [] request = true ↔
      policy.bootstrapApplies request = true ∨ policy.RuleGrants request := by
  rw [permits, evaluate_nil]
  split
  · next h => simp [h, Decision.isAllowed]
  · next h => simp [h, isAllowed_checkProtections_iff_of_writesRef hwrites]

end Decisions

/-! ## Protected refs are governed -/

/-- A ref that is not protected is ungoverned.  A protected one is governed,
unless it is a branch of a project that waits for its first push, no
protection covers it, and the actor is not one who may make that push. -/
theorem isProtected_iff_governed_iff [PatternLimit] (policy : Policy) (request : Request)
    (hwrites : request.action.writesRef = true) :
    let isProtected :=
      policy.protections.isProtected request.refName request.kind policy.project
    let decision := policy.evaluate [] request
    ((isProtected = true ↔ decision.isUngoverned = false) ↔
      ¬ (request.kind = .branch ∧ policy.project.bootstrapProtected = true ∧
        policy.protections.governing request.refName request.kind = [] ∧
        ¬ (request.actor.admin = true ∨ Role.developer < request.actor.role))) ∧
    (isProtected = false → decision = .ungoverned) := by
  intro isProtected decision
  have hprotected : isProtected = true ↔
      request.kind = .branch ∧ policy.project.bootstrapProtected = true ∨
        policy.protections.governing request.refName request.kind ≠ [] :=
    Protections.isProtected_iff
  have hungoverned : decision = .ungoverned ↔
      policy.bootstrapApplies request = false ∧
        policy.protections.governing request.refName request.kind = [] :=
    evaluate_nil_eq_ungoverned
  rw [← Bool.not_eq_true, bootstrapApplies_iff, ← Action.writesRef_iff] at hungoverned
  rw [← Bool.not_eq_true decision.isUngoverned, Decision.isUngoverned_iff, hungoverned,
    ← Bool.not_eq_true isProtected, hprotected]
  grind

/-- A maintainer may make the first push, and it is governed. -/
theorem maintainer_first_push_governed :
    let policy : Policy := { project := { emptyRepository := true } }
    let request : Request := ⟨{ id := 1, role := .maintainer }, .push, "main", .branch⟩
    request.action.writesRef = true ∧
      (policy.protections.isProtected request.refName request.kind policy.project = true ↔
        (policy.evaluate [] request).isUngoverned = false) := by
  intro policy request
  have hwrites : request.action.writesRef = true := rfl
  have hmaintainer : Role.developer < request.actor.role := by decide
  refine ⟨hwrites, (isProtected_iff_governed_iff policy request hwrites).1.mpr ?_⟩
  intro h
  exact h.2.2.2 (.inr hmaintainer)

/-- A developer may not, and nobody says so: the branch is protected, and
writing it is ungoverned. -/
theorem developer_first_push_ungoverned :
    let policy : Policy := { project := { emptyRepository := true } }
    let request : Request := ⟨{ id := 1, role := .developer }, .push, "main", .branch⟩
    request.action.writesRef = true ∧
      policy.protections.isProtected request.refName request.kind policy.project = true ∧
      policy.evaluate [] request = .ungoverned := by
  decide

/-! ## Every branch is open to the first push -/

/-- A write to a branch is permitted by the first push or by a rule, so it is
permitted without a rule exactly while the project waits for its first push
and the actor may make it.  The name of the branch, and which one is the
default, play no part. -/
theorem permits_branch_iff_first_push_or_rule [PatternLimit] (policy : Policy) (actor : Actor)
    (action : Action) (refName : String) (hwrites : action.writesRef = true) :
    let request : Request := ⟨actor, action, refName, .branch⟩
    let firstPush :=
      policy.project.bootstrapProtected = true ∧
        (actor.admin = true ∨ Role.developer < actor.role)
    (policy.permits [] request = true ↔ firstPush ∨ policy.RuleGrants request) ∧
    ((policy.permits [] request = true → policy.RuleGrants request) ↔
      ¬ (firstPush ∧ ¬ policy.RuleGrants request)) := by
  intro request firstPush
  have hfirst : policy.bootstrapApplies request = true ↔ firstPush := by
    rw [bootstrapApplies_iff]
    have hact : request.action ≠ .unprotect := Action.writesRef_iff.mp hwrites
    simp only [request, firstPush] at hact ⊢
    simp [hact]
  have hpermits : policy.permits [] request = true ↔ firstPush ∨ policy.RuleGrants request := by
    rw [permits_nil_iff_of_writesRef hwrites, hfirst]
  refine ⟨hpermits, ?_⟩
  constructor
  · intro h hboth
    exact hboth.2 (h (hpermits.mpr (.inl hboth.1)))
  · intro hnot hpermitted
    rcases hpermits.mp hpermitted with hpush | hrule
    · exact Classical.byContradiction fun hno => hnot ⟨hpush, hno⟩
    · exact hrule

/-- Once the repository has content, a maintainer who may write a branch does so
by a rule: there is one for it, though none for the default branch. -/
theorem maintainer_write_takes_rule :
    let policy : Policy :=
      { protections :=
          [{ pattern := ⟨"main"⟩, kind := .branch },
            { pattern := ⟨"feature*"⟩, kind := .branch,
              rules := [⟨.merge, .user 2⟩, ⟨.push, .role .developer⟩] }] }
    let actor : Actor := { id := 1, role := .maintainer }
    Action.writesRef .push = true ∧
      policy.permits [] ⟨actor, .push, "feature", .branch⟩ = true ∧
      policy.RuleGrants ⟨actor, .push, "feature", .branch⟩ ∧
      policy.permits [] ⟨actor, .push, "main", .branch⟩ = false := by
  intro policy actor
  have hwrites : Action.writesRef .push = true := rfl
  have hpermits : policy.permits [] ⟨actor, .push, "feature", .branch⟩ = true := by decide
  have htakes := (permits_branch_iff_first_push_or_rule policy actor .push "feature" hwrites).2.mpr
    fun h => absurd h.1.1 (by decide)
  exact ⟨hwrites, hpermits, htakes hpermits, by decide⟩

/-- While it is empty, a maintainer may write a branch that is not the default
one, though no protection speaks about it. -/
theorem maintainer_writes_other_branch :
    let policy : Policy := { project := { emptyRepository := true } }
    let request : Request := ⟨{ id := 1, role := .maintainer }, .push, "feature", .branch⟩
    request.action.writesRef = true ∧ request.refName ≠ policy.project.defaultBranch ∧
      policy.permits [] request = true ∧ ¬ policy.RuleGrants request := by
  refine ⟨rfl, by decide, rfl, ?_⟩
  intro h
  obtain ⟨protection, hprotection, -⟩ := h
  exact List.not_mem_nil hprotection

end Policy

end RefPolicy
