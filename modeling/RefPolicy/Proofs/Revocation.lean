import RefPolicy.Proofs.Agreement
import RefPolicy.Proofs.Bearing

/-!
# RefPolicy.Proofs.Revocation

A rule that takes access away.  One more rule lets more actors write, but a
protection without unprotect rules can be removed by anyone, so its first such
rule closes it to all but those the rule is for.  No other rule takes away a
permission, and none changes the decisions about other actions.

* `Protection.seenAlike_allow` — requests for other actions see no difference;
* `Policy.ruleGrants_allow` — who could pass by a rule still can;
* `Policy.closes_of_allow` — what is left is that the rule closes its protection;
* `Policy.allow_revokes_only_open_removal` — the whole.
-/

namespace RefPolicy

/-! ## One more rule -/

namespace Protection

variable {protection : Protection} {action : Action} {grant : Grant}

/-- A rule for one action leaves those for the others. -/
theorem rulesFor_allow_of_ne {other : Action} (h : other ≠ action) :
    (protection.allow action grant).rulesFor other = protection.rulesFor other := by
  have hother : (action == other) = false := beq_eq_false_iff_ne.mpr h.symm
  simp [rulesFor, allow, hother]

/-- It comes last of the rules for its action. -/
theorem rulesFor_allow_self :
    (protection.allow action grant).rulesFor action =
      protection.rulesFor action ++ [⟨action, grant⟩] := by
  simp [rulesFor, allow]

/-- No rule goes. -/
theorem rulesFor_subset_allow (other : Action) :
    protection.rulesFor other ⊆ (protection.allow action grant).rulesFor other :=
  List.filter_subset _ (List.subset_append_left _ _)

/-- The rule is seen by requests for its action only. -/
theorem seenAlike_allow {limit : PatternLimit} {request : Request} {features : Features}
    (h : request.action ≠ action) :
    protection.SeenAlike request features (protection.allow action grant) where
  kind_eq := rfl
  covers_eq := rfl
  bearing_eq := by
    simp only [bearing, rulesFor_allow_of_ne h]
    rfl

end Protection

namespace Protections

variable {before after : Protections} {protection other : Protection} {action : Action}
  {grant : Grant}

/-- The changed protection stands where it stood. -/
theorem mem_allow :
    protection.allow action grant ∈ before ++ protection.allow action grant :: after :=
  List.mem_append_right before List.mem_cons_self

/-- The other protections stay. -/
theorem eq_or_mem_of_mem (h : other ∈ before ++ protection :: after) :
    other = protection ∨ other ∈ before ++ protection.allow action grant :: after := by
  simp only [List.mem_append, List.mem_cons] at h ⊢
  grind

end Protections

namespace Policy

section Ways

variable {limit : PatternLimit} {project : Project} {features : Features}
  {before after : Protections} {protection : Protection} {action : Action} {grant : Grant}
  {bundled : List Bundled} {request : Request}

/-- Who could pass by a rule still can. -/
theorem ruleGrants_allow
    (hrule : RuleGrants ⟨project, before ++ protection :: after, features⟩ request) :
    RuleGrants ⟨project, before ++ protection.allow action grant :: after, features⟩ request := by
  obtain ⟨other, hmem, hkind, hcovers, rule, hruleMem, hadmits⟩ := hrule
  rcases Protections.eq_or_mem_of_mem hmem with rfl | hmem
  · exact ⟨_, Protections.mem_allow, hkind, hcovers, rule,
      Protection.rulesFor_subset_allow _ hruleMem, hadmits⟩
  · exact ⟨other, hmem, hkind, hcovers, rule, hruleMem, hadmits⟩

/-- The new rule lets those pass whom it admits. -/
theorem ruleGrants_allow_of_admits (hact : request.action = action)
    (hkind : protection.kind = request.kind) (hcovers : protection.covers request.refName = true)
    (hadmits : grant.admits features request.actor = true) :
    RuleGrants ⟨project, before ++ protection.allow action grant :: after, features⟩ request := by
  refine ⟨_, Protections.mem_allow, hkind, hcovers, ⟨action, grant⟩, ?_, hadmits⟩
  rw [hact, Protection.rulesFor_allow_self]
  exact List.mem_append_right _ (List.mem_singleton_self _)

/-- If a rule leaves no protection open where one was, it is the first rule for
the removal of that one. -/
theorem closes_of_allow
    (hopen : HasOpenProtection ⟨project, before ++ protection :: after, features⟩ request)
    (hclosed : ¬ HasOpenProtection
      ⟨project, before ++ protection.allow action grant :: after, features⟩ request) :
    action = .unprotect ∧ protection.kind = request.kind ∧
      protection.covers request.refName = true ∧ protection.rulesFor .unprotect = [] := by
  obtain ⟨other, hmem, hkind, hcovers, hrules⟩ := hopen
  rcases Protections.eq_or_mem_of_mem hmem with rfl | hmem
  · refine ⟨Classical.byContradiction fun hne => ?_, hkind, hcovers, hrules⟩
    have hrules' : (other.allow action grant).rulesFor .unprotect = [] :=
      (Protection.rulesFor_allow_of_ne (Ne.symm hne)).trans hrules
    exact hclosed ⟨_, Protections.mem_allow, hkind, hcovers, hrules'⟩
  · exact absurd ⟨other, hmem, hkind, hcovers, hrules⟩ hclosed

/-! ## Decisions -/

/-- A removal that is not permitted though no protection is open is denied in the
name of all. -/
theorem evaluate_eq_denied_of_closed {policy : Policy} (hact : request.action = .unprotect)
    (hclosed : ¬ policy.HasOpenProtection request)
    (hne : policy.protections.governing request.refName request.kind ≠ [])
    (hno : policy.permits (bundled.map Bundled.toExtension) request = false) :
    policy.evaluate (bundled.map Bundled.toExtension) request =
      .denied request.denialReason
        (policy.protections.governing request.refName request.kind).labels := by
  have hrestricts : ¬ policy.RestrictsRemoval bundled request := fun h => hclosed h.1.hasOpen
  have hfirst : ¬ policy.bootstrapApplies request = true := fun h =>
    (bootstrapApplies_iff.mp h).2.1 hact
  have hanswer : policy.evaluate (bundled.map Bundled.toExtension) request =
      policy.checkProtections request := by
    rw [evaluate_bundled_of_not_restrictsRemoval hrestricts, evaluate_nil, if_neg hfirst]
  rw [permits, hanswer] at hno
  rw [hanswer]
  exact Protections.answer_of_not_isAllowed hne hno

end Ways

/-- One more rule for an action, declared by any protection, changes no decision
about other actions.  If it takes a permission away, it is an unprotect rule
of a protection the ref falls under and that had none, it does not admit the
actor, and the request is now denied in the name of all protections the ref
falls under. -/
theorem allow_revokes_only_open_removal [PatternLimit] (project : Project) (features : Features)
    (before after : Protections) (protection : Protection) (action : Action) (grant : Grant)
    (bundled : List Bundled) (request : Request) :
    let policy : Policy := ⟨project, before ++ protection :: after, features⟩
    let changed : Policy :=
      ⟨project, before ++ protection.allow action grant :: after, features⟩
    let decision := policy.evaluate (bundled.map Bundled.toExtension) request
    let decision' := changed.evaluate (bundled.map Bundled.toExtension) request
    (request.action ≠ action → decision' = decision) ∧
    (decision.isAllowed = true → decision'.isAllowed = false →
      action = .unprotect ∧ protection.kind = request.kind ∧
        protection.covers request.refName = true ∧ protection.rulesFor .unprotect = [] ∧
        grant.admits features request.actor = false ∧
        decision' =
          .denied request.denialReason
            (changed.protections.governing request.refName request.kind).labels) := by
  intro policy changed decision decision'
  constructor
  · intro hact
    have hsame (others : Protections) :
        List.Forall₂ (Protection.SeenAlike request features) others others :=
      List.forall₂_same.mpr fun _ _ => ⟨rfl, rfl, rfl⟩
    have halike : List.Forall₂ (Protection.SeenAlike request features)
        (before ++ protection :: after) (before ++ protection.allow action grant :: after) :=
      List.rel_append (hsame before) (.cons (Protection.seenAlike_allow hact) (hsame after))
    exact (evaluate_eq_of_seenAlike halike).symm
  · intro hallowed hrevoked
    have hno : ¬ changed.permits (bundled.map Bundled.toExtension) request = true :=
      Bool.not_eq_true _ ▸ hrevoked
    have hways := mt permits_bundled_iff.mpr hno
    rcases permits_bundled_iff.mp hallowed with hfirst | hrule | ⟨hact, hopen, hrole⟩
    -- The first push asks for no rule.
    · exact absurd (.inl hfirst) hways
    · exact absurd (.inr (.inl (ruleGrants_allow hrule))) hways
    · have hclosed : ¬ changed.HasOpenProtection request := fun h =>
        hways (.inr (.inr ⟨hact, h, hrole⟩))
      obtain ⟨rfl, hkind, hcovers, hrules⟩ := closes_of_allow hopen hclosed
      have hmember : protection.allow .unprotect grant ∈
          changed.protections.governing request.refName request.kind :=
        Protections.mem_governing.mpr ⟨Protections.mem_allow, hkind, hcovers⟩
      have hmisses : ¬ grant.admits features request.actor = true := fun hadmits =>
        hways (.inr (.inl (ruleGrants_allow_of_admits hact hkind hcovers hadmits)))
      refine ⟨rfl, hkind, hcovers, hrules, Bool.not_eq_true _ ▸ hmisses, ?_⟩
      exact evaluate_eq_denied_of_closed hact hclosed (List.ne_nil_of_mem hmember) hrevoked

/-- A guest may remove a protection, until somebody else gets the right to. -/
example :
    let main : Protection := { pattern := ⟨"main"⟩, kind := .branch }
    let request : Request := ⟨{ id := 1, role := .guest }, .unprotect, "main", .branch⟩
    (evaluate { protections := [main] } [] request).isAllowed = true ∧
      evaluate { protections := [main.allow .unprotect (.user 2)] } [] request =
        .denied "not allowed to unprotect protected branch 'main'" ["main"] := by
  decide

end Policy

end RefPolicy
