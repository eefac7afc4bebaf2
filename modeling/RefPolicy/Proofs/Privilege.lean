import RefPolicy.Proofs.Removal

/-!
# RefPolicy.Proofs.Privilege

More powers never lose a permission.  An actor is *below* another who is the
same user with at least the same role, groups, administration and deploy key.
Each of the three ways to a permission (`Policy.permits_bundled_iff`) asks of
the actor only what those above have as well; the extensions, which can deny
first, ask for a role and step back before a rule, so they are no exception.

* `admits_of_below` — what a grant admits, and all above it;
* `permits_of_below` — a permission passes to every actor above, under the
  same switches or with deploy keys honoured.
-/

namespace RefPolicy

/-- `other` is the same user with at least the powers of `actor`. -/
structure Actor.Below (actor other : Actor) : Prop where
  id_eq : other.id = actor.id
  role_le : actor.role ≤ other.role
  groups_subset : ∀ group ∈ actor.groups, group ∈ other.groups
  admin_imp : actor.admin = true → other.admin = true
  deployKey_kept : ∀ key, actor.deployKey = some key → other.deployKey = some key

/-- `wider` honours deploy keys where `features` does. -/
def Features.Below (features wider : Features) : Prop :=
  features.deployKeyGrants = true → wider.deployKeyGrants = true

variable {actor other : Actor} {features wider : Features}

/-! ## One grant -/

/-- Whom a grant admits, all above are admitted by it. -/
theorem Grant.admits_of_below (hactor : actor.Below other) (hfeatures : features.Below wider)
    {grant : Grant} (h : grant.admits features actor = true) :
    grant.admits wider other = true := by
  cases grant with
  | role threshold =>
      simp only [admits, Bool.or_eq_true, Bool.and_eq_true, decide_eq_true_eq] at h ⊢
      rcases h with hadmin | ⟨hthreshold, hrole⟩
      · exact .inl (hactor.admin_imp hadmin)
      · exact .inr ⟨hthreshold, Nat.le_trans hrole hactor.role_le⟩
  | user id =>
      simp only [admits, beq_iff_eq] at h ⊢
      exact hactor.id_eq.trans h
  | group id =>
      simp only [admits, Actor.isMember, decide_eq_true_eq] at h ⊢
      exact hactor.groups_subset id h
  | deployKey id =>
      simp only [admits, Bool.and_eq_true, beq_iff_eq] at h ⊢
      exact ⟨hfeatures h.1, hactor.deployKey_kept id h.2⟩

namespace Policy

section Ways

variable {limit : PatternLimit} {project : Project} {protections : Protections} {action : Action}
  {refName : String} {kind : RefKind}

/-! ## The three ways to a permission -/

/-- The first push is open to all above. -/
theorem bootstrapApplies_of_below (hactor : actor.Below other)
    (h : bootstrapApplies ⟨project, protections, features⟩ ⟨actor, action, refName, kind⟩ = true) :
    bootstrapApplies ⟨project, protections, wider⟩ ⟨other, action, refName, kind⟩ = true := by
  rw [bootstrapApplies_iff] at h ⊢
  obtain ⟨hkind, hact, hproject, hactor'⟩ := h
  refine ⟨hkind, hact, hproject, ?_⟩
  rcases hactor' with hadmin | hrole
  · exact .inl (hactor.admin_imp hadmin)
  · exact .inr (Nat.lt_of_lt_of_le hrole hactor.role_le)

/-- The rule that speaks for an actor speaks for all above. -/
theorem ruleGrants_of_below (hactor : actor.Below other) (hfeatures : features.Below wider)
    (h : RuleGrants ⟨project, protections, features⟩ ⟨actor, action, refName, kind⟩) :
    RuleGrants ⟨project, protections, wider⟩ ⟨other, action, refName, kind⟩ := by
  obtain ⟨protection, hmem, hkind, hcovers, rule, hrule, hadmits⟩ := h
  exact ⟨protection, hmem, hkind, hcovers, rule, hrule,
    Grant.admits_of_below hactor hfeatures hadmits⟩

/-- All above hold the roles that the extensions ask for. -/
theorem holds_strictest_of_below (hactor : actor.Below other) {bundled : List Bundled}
    (h : actor.admin = true ∨ ¬ actor.role < Bundled.strictest bundled) :
    other.admin = true ∨ ¬ other.role < Bundled.strictest bundled := by
  rcases h with hadmin | hrole
  · exact .inl (hactor.admin_imp hadmin)
  · exact .inr fun hlow => hrole (Nat.lt_of_le_of_lt hactor.role_le hlow)

end Ways

/-- What an actor may do, every actor above may do, whatever bundled extensions
are at work, and also where deploy keys are honoured that were not. -/
theorem permits_of_below [PatternLimit] (project : Project) (protections : Protections)
    (features wider : Features) (bundled : List Bundled) (actor other : Actor) (action : Action)
    (refName : String) (kind : RefKind) (hactor : actor.Below other)
    (hfeatures : features.Below wider)
    (h : permits ⟨project, protections, features⟩ (bundled.map Bundled.toExtension)
      ⟨actor, action, refName, kind⟩ = true) :
    permits ⟨project, protections, wider⟩ (bundled.map Bundled.toExtension)
      ⟨other, action, refName, kind⟩ = true := by
  rw [permits_bundled_iff] at h ⊢
  rcases h with hfirst | hrule | ⟨hact, hopen, hstrict⟩
  · exact .inl (bootstrapApplies_of_below hactor hfirst)
  · exact .inr (.inl (ruleGrants_of_below hactor hfeatures hrule))
  · exact .inr (.inr ⟨hact, hopen, holds_strictest_of_below hactor hstrict⟩)

/-- A guest removes a protection by a deploy key alone, past an extension that
asks for a maintainer; so does a reporter with that key, who also has a group. -/
theorem reporter_keeps_guest_removal :
    let protections : Protections :=
      [{ pattern := ⟨"main"⟩, kind := .branch },
        { pattern := ⟨"m*"⟩, kind := .branch, rules := [⟨.unprotect, .deployKey 7⟩] }]
    let bundled : List Bundled := [.codeOwnerApproval, .restrictedUnprotect .maintainer]
    let features : Features := { deployKeyGrants := true }
    let guest : Actor := { id := 1, role := .guest, deployKey := some 7 }
    let reporter : Actor := Actor.join { guest with role := .reporter } [3]
    guest.Below reporter ∧ features.Below features ∧
      permits ⟨{}, protections, features⟩ (bundled.map Bundled.toExtension)
        ⟨guest, .unprotect, "main", .branch⟩ = true ∧
      permits ⟨{}, protections, features⟩ (bundled.map Bundled.toExtension)
        ⟨reporter, .unprotect, "main", .branch⟩ = true := by
  intro protections bundled features guest reporter
  have hbelow : guest.Below reporter :=
    ⟨rfl, by decide, fun _ h => absurd h List.not_mem_nil, id, fun _ h => h⟩
  have hguest : permits ⟨{}, protections, features⟩ (bundled.map Bundled.toExtension)
      ⟨guest, .unprotect, "main", .branch⟩ = true := by decide
  exact ⟨hbelow, id, hguest,
    permits_of_below {} protections features features bundled guest reporter .unprotect "main"
      .branch hbelow id hguest⟩

end Policy

end RefPolicy
