import RefPolicy.Proofs.Reach

/-!
# RefPolicy.Proofs.Additions

Protections add up.  One more protection, wherever it is declared, takes no
permission away, leaves nothing ungoverned that was governed, and unprotects
no ref: a list is within every list that has all its members, and what holds
of protections that reach further (`RefPolicy.Proofs.Reach`) holds here.

* `permits_of_subset`, `governed_of_subset` — decisions on more protections;
* `insertion_keeps_answers` — decisions and queries after an insertion.
-/

namespace RefPolicy

namespace Protections

variable {limit : PatternLimit} {protections others : Protections}

/-- One more protection unprotects no ref. -/
theorem isProtected_of_subset (h : protections ⊆ others) {refName : String} {kind : RefKind}
    {project : Project} (hprotected : protections.isProtected refName kind project = true) :
    others.isProtected refName kind project = true :=
  isProtected_of_within (within_of_subset h) hprotected

/-- Nor any of several names. -/
theorem anyProtected_of_subset (h : protections ⊆ others) {refNames : List String}
    {kind : RefKind} (hany : protections.anyProtected refNames kind = true) :
    others.anyProtected refNames kind = true :=
  anyProtected_of_within (within_of_subset h) hany

end Protections

namespace Policy

variable {limit : PatternLimit} {project : Project} {features : Features}
  {protections others : Protections} {bundled : List Bundled} {request : Request}

/-- More protections take no permission away. -/
theorem permits_of_subset (h : protections ⊆ others)
    (hpermits : permits ⟨project, protections, features⟩ (bundled.map Bundled.toExtension)
      request = true) :
    permits ⟨project, others, features⟩ (bundled.map Bundled.toExtension) request = true :=
  permits_of_within (Protections.within_of_subset h) hpermits

/-- More protections leave nothing ungoverned that was governed. -/
theorem governed_of_subset (h : protections ⊆ others)
    (hgoverned : evaluate ⟨project, protections, features⟩ (bundled.map Bundled.toExtension)
      request ≠ .ungoverned) :
    evaluate ⟨project, others, features⟩ (bundled.map Bundled.toExtension) request ≠
      .ungoverned :=
  governed_of_within (Protections.within_of_subset h) hgoverned

/-- More protections take back no demand for approval. -/
theorem requiresApproval_of_subset (h : protections ⊆ others) {branch : String}
    (hrequires : requiresApproval ⟨project, protections, features⟩
      (bundled.map Bundled.toExtension) branch = true) :
    requiresApproval ⟨project, others, features⟩ (bundled.map Bundled.toExtension) branch =
      true :=
  requiresApproval_of_within (Protections.within_of_subset h) hrequires

/-- A protection added anywhere in the list leaves a permission a permission and
a governed request governed, whatever bundled extensions are at work; every
ref that is protected and every branch that needs approval stay so. -/
theorem insertion_keeps_answers (project : Project) (features : Features)
    (before after : Protections) (added : Protection) :
    let policy : Policy := ⟨project, before ++ after, features⟩
    let grown : Policy := ⟨project, before ++ added :: after, features⟩
    (∀ (bundled : List Bundled) (request : Request),
      let decision := policy.evaluate (bundled.map Bundled.toExtension) request
      let decision' := grown.evaluate (bundled.map Bundled.toExtension) request
      (decision.isAllowed = true → decision'.isAllowed = true) ∧
      (decision.isDenied = true → decision'.isUngoverned = false)) ∧
    (∀ refName kind,
      policy.protections.isProtected refName kind project = true →
        grown.protections.isProtected refName kind project = true) ∧
    (∀ refNames kind,
      policy.protections.anyProtected refNames kind = true →
        grown.protections.anyProtected refNames kind = true) ∧
    ∀ (bundled : List Bundled) branch,
      policy.requiresApproval (bundled.map Bundled.toExtension) branch = true →
        grown.requiresApproval (bundled.map Bundled.toExtension) branch = true := by
  intro policy grown
  have hsubset : before ++ after ⊆ before ++ added :: after :=
    (List.sublist_cons_self added after).append_left before |>.subset
  refine ⟨fun bundled request => ⟨permits_of_subset hsubset, fun hdenied => ?_⟩,
    fun _ _ => Protections.isProtected_of_subset hsubset,
    fun _ _ => Protections.anyProtected_of_subset hsubset,
    fun _ _ => requiresApproval_of_subset hsubset⟩
  have hgoverned : policy.evaluate (bundled.map Bundled.toExtension) request ≠ .ungoverned := by
    intro hungoverned
    simp [hungoverned, Decision.isDenied] at hdenied
  rw [← Bool.not_eq_true, Decision.isUngoverned_iff]
  exact governed_of_subset hsubset hgoverned

end Policy

end RefPolicy
