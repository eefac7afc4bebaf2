import RefPolicy.Proofs.Removal

/-!
# RefPolicy.Proofs.Reach

Protections that reach further.  A protection is *within* another when the
other covers at least the same refs and is equal in everything a decision asks
of a protection but its label; a list is within another when each of its
members is within some member there.  More protections, and protections that
cover more, are both of this kind.

Whatever asks for *some* protection finds one in the larger list as well.
Permissions do so by the three ways of `Policy.permits_bundled_iff`: a
protection without unprotect rules, which is also what lets an extension deny
a removal first, opens a way only to those who hold the roles asked for, so
one more of them closes no way.

* `any_of_within`, `governing_within` — members, and the members a ref falls under;
* `isProtected_of_within`, `anyProtected_of_within` — queries;
* `permits_of_within`, `governed_of_within`, `requiresApproval_of_within` —
  decisions under bundled extensions.
-/

namespace RefPolicy

/-- Covers no ref that the other does not cover, and says the same of those it covers. -/
structure Protection.Within [PatternLimit] (protection other : Protection) : Prop where
  covers : ∀ refName, protection.covers refName = true → other.covers refName = true
  kind_eq : protection.kind = other.kind
  approval_eq : protection.codeOwnerApproval = other.codeOwnerApproval
  rules_eq : protection.rules = other.rules

namespace Protection.Within

variable {limit : PatternLimit} {protection other : Protection}

/-- A protection is within itself. -/
theorem refl (protection : Protection) : protection.Within protection :=
  ⟨fun _ h => h, rfl, rfl, rfl⟩

/-- A protection has the rules of those it is within. -/
theorem rulesFor_eq (h : protection.Within other) (action : Action) :
    protection.rulesFor action = other.rulesFor action := by
  rw [rulesFor, rulesFor, h.rules_eq]

end Protection.Within

/-- Each member is within some member of the other list. -/
def Protections.Within [PatternLimit] (protections others : Protections) : Prop :=
  ∀ protection ∈ protections, ∃ other ∈ others, protection.Within other

/-! ## Members -/

namespace Protections

variable {limit : PatternLimit} {protections others : Protections}

/-- More protections reach further. -/
theorem within_of_subset (h : protections ⊆ others) : protections.Within others :=
  fun protection hmem => ⟨protection, h hmem, .refl protection⟩

/-- One member gives way to another that it is within. -/
theorem within_replace {protection other : Protection} (h : protection.Within other)
    (before after : Protections) :
    Within (before ++ protection :: after) (before ++ other :: after) := by
  intro member hmem
  rcases List.mem_append.mp hmem with hbefore | htail
  · exact ⟨member, List.mem_append_left _ hbefore, .refl member⟩
  rcases List.mem_cons.mp htail with rfl | hafter
  · exact ⟨other, List.mem_append_right _ List.mem_cons_self, h⟩
  · exact ⟨member, List.mem_append_right _ (List.mem_cons_of_mem _ hafter), .refl member⟩

/-- What holds of whatever a member is within holds of a member of the larger list. -/
theorem exists_of_within (h : protections.Within others) {P : Protection → Prop}
    (hP : ∀ protection other, protection.Within other → P protection → P other)
    (hexists : ∃ protection ∈ protections, P protection) :
    ∃ other ∈ others, P other := by
  obtain ⟨protection, hmem, hholds⟩ := hexists
  obtain ⟨other, hother, hwithin⟩ := h protection hmem
  exact ⟨other, hother, hP protection other hwithin hholds⟩

/-- A question that is answered yes by whatever a member is within is answered
yes by the larger list. -/
theorem any_of_within (h : protections.Within others) {p : Protection → Bool}
    (hp : ∀ protection other, protection.Within other → p protection = true → p other = true)
    (hany : protections.any p = true) : others.any p = true := by
  rw [List.any_eq_true] at hany ⊢
  exact exists_of_within h hp hany

/-- The protections of one kind are within those of the same kind. -/
theorem ofKind_within (h : protections.Within others) (kind : RefKind) :
    (protections.ofKind kind).Within (others.ofKind kind) := by
  intro protection hmem
  rw [ofKind, List.mem_filter] at hmem
  obtain ⟨other, hother, hwithin⟩ := h protection hmem.1
  refine ⟨other, List.mem_filter.mpr ⟨hother, ?_⟩, hwithin⟩
  rw [← hwithin.kind_eq]
  exact hmem.2

/-- So are those that a ref falls under. -/
theorem governing_within (h : protections.Within others) (refName : String) (kind : RefKind) :
    (protections.governing refName kind).Within (others.governing refName kind) := by
  intro protection hmem
  rw [governing, List.mem_filter] at hmem
  obtain ⟨other, hother, hwithin⟩ := ofKind_within h kind protection hmem.1
  exact ⟨other, List.mem_filter.mpr ⟨hother, hwithin.covers refName hmem.2⟩, hwithin⟩

/-- Only the empty list is within the empty list. -/
theorem eq_nil_of_within (h : protections.Within others) (hnil : others = []) :
    protections = [] := by
  rw [List.eq_nil_iff_forall_not_mem]
  intro protection hmem
  obtain ⟨other, hother, -⟩ := h protection hmem
  exact List.not_mem_nil (hnil ▸ hother)

/-! ## Queries -/

/-- What is protected stays protected. -/
theorem isProtected_of_within (h : protections.Within others) {refName : String} {kind : RefKind}
    {project : Project} (hprotected : protections.isProtected refName kind project = true) :
    others.isProtected refName kind project = true := by
  rw [isProtected, Bool.or_eq_true] at hprotected ⊢
  refine hprotected.imp_right (any_of_within (ofKind_within h kind) ?_)
  exact fun _ _ hwithin => hwithin.covers refName

/-- Of several names, what is protected stays protected. -/
theorem anyProtected_of_within (h : protections.Within others) {refNames : List String}
    {kind : RefKind} (hany : protections.anyProtected refNames kind = true) :
    others.anyProtected refNames kind = true := by
  refine any_of_within (ofKind_within h kind) (fun protection other hwithin hcovers => ?_) hany
  rw [List.any_eq_true] at hcovers ⊢
  obtain ⟨refName, hmem, hcovers⟩ := hcovers
  exact ⟨refName, hmem, hwithin.covers refName hcovers⟩

end Protections

/-! ## Decisions -/

namespace Policy

variable {limit : PatternLimit} {project : Project} {features : Features}
  {protections others : Protections} {bundled : List Bundled} {request : Request}

/-- A rule that speaks for a request is one of the larger list as well. -/
theorem ruleGrants_of_within (h : protections.Within others)
    (hrule : RuleGrants ⟨project, protections, features⟩ request) :
    RuleGrants ⟨project, others, features⟩ request := by
  refine Protections.exists_of_within h (fun protection other hwithin => ?_) hrule
  rw [← hwithin.kind_eq, ← hwithin.rulesFor_eq]
  exact And.imp_right (And.imp_left (hwithin.covers request.refName))

/-- A protection that is open is within one that is open. -/
theorem hasOpenProtection_of_within (h : protections.Within others)
    (hopen : HasOpenProtection ⟨project, protections, features⟩ request) :
    HasOpenProtection ⟨project, others, features⟩ request := by
  refine Protections.exists_of_within h (fun protection other hwithin => ?_) hopen
  rw [← hwithin.kind_eq, ← hwithin.rulesFor_eq]
  exact And.imp_right (And.imp_left (hwithin.covers request.refName))

/-- A permission passes to protections that reach further, in the way that it came about. -/
theorem permits_of_within (h : protections.Within others)
    (hpermits : permits ⟨project, protections, features⟩ (bundled.map Bundled.toExtension)
      request = true) :
    permits ⟨project, others, features⟩ (bundled.map Bundled.toExtension) request = true := by
  rw [permits_bundled_iff] at hpermits ⊢
  rcases hpermits with hfirst | hrule | ⟨hact, hopen, hrole⟩
  -- The first push asks for no protection.
  · exact .inl hfirst
  · exact .inr (.inl (ruleGrants_of_within h hrule))
  · exact .inr (.inr ⟨hact, hasOpenProtection_of_within h hopen, hrole⟩)

/-- Bundled extensions settle no request that no protection governs. -/
theorem evaluate_bundled_eq_ungoverned {policy : Policy} :
    policy.evaluate (bundled.map Bundled.toExtension) request = .ungoverned ↔
      policy.bootstrapApplies request = false ∧
        policy.protections.governing request.refName request.kind = [] := by
  by_cases hrestricts : policy.RestrictsRemoval bundled request
  · obtain ⟨minimum, -, hdenied⟩ := evaluate_bundled_of_restrictsRemoval hrestricts
    have hne : policy.protections.governing request.refName request.kind ≠ [] := by
      obtain ⟨protection, hmem, hkind, hcovers, -⟩ := hrestricts.1.hasOpen
      exact List.ne_nil_of_mem (Protections.mem_governing.mpr ⟨hmem, hkind, hcovers⟩)
    simp [hdenied, removalDenial, hne]
  · rw [evaluate_bundled_of_not_restrictsRemoval hrestricts, evaluate_nil_eq_ungoverned]

/-- What is governed stays governed. -/
theorem governed_of_within (h : protections.Within others)
    (hgoverned : evaluate ⟨project, protections, features⟩ (bundled.map Bundled.toExtension)
      request ≠ .ungoverned) :
    evaluate ⟨project, others, features⟩ (bundled.map Bundled.toExtension) request ≠
      .ungoverned := by
  rw [ne_eq, evaluate_bundled_eq_ungoverned] at hgoverned ⊢
  rintro ⟨hfirst, hnone⟩
  have hgoverning := Protections.governing_within h request.refName request.kind
  exact hgoverned ⟨hfirst, Protections.eq_nil_of_within hgoverning hnone⟩

/-- A branch that needs approval needs it still. -/
theorem requiresApproval_of_within (h : protections.Within others) {branch : String}
    (hrequires : requiresApproval ⟨project, protections, features⟩
      (bundled.map Bundled.toExtension) branch = true) :
    requiresApproval ⟨project, others, features⟩ (bundled.map Bundled.toExtension) branch =
      true := by
  rw [requiresApproval_bundled_iff] at hrequires ⊢
  refine hrequires.imp_right
    (Protections.any_of_within (Protections.governing_within h branch .branch) ?_)
  intro protection other hwithin hasks
  rw [← hwithin.approval_eq]
  exact hasks

end Policy

end RefPolicy
