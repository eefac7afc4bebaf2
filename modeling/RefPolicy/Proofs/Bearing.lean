import Mathlib.Data.List.Forall2
import RefPolicy.Proofs.Removal

/-!
# RefPolicy.Proofs.Bearing

What bears on a decision.  Every step of a decision looks at the protections a
ref falls under in its own way, but all that is seen of one of them is what it
is called, whether a rule of it admits the actor, and whether it can be
removed for want of rules.  Of the actor, the role and instance administration
count besides.  Where these are the same, the decision is, with its reason and
the protections in the way.

* `Protection.grants_eq_bearing` — what is seen tells whether a request passes;
* `Policy.ruleGrants_iff_bearings`, `hasOpenProtection_iff_bearings`,
  `openLabels_eq_bearings` — the questions of the extensions;
* `Policy.evaluate_eq_of_sameBearing` — the whole decision;
* `Policy.evaluate_eq_of_seenAlike` — where protection for protection the same
  is seen.
-/

namespace RefPolicy

/-- What a request sees of a protection. -/
@[ext] structure Protection.Bearing where
  label : String
  /-- The protection may be removed, since it has no rules for that. -/
  isOpen : Bool
  /-- A rule for the action admits the actor. -/
  admits : Bool

namespace Protection

variable {request : Request} {features : Features}

/-- What `request` sees of the protection. -/
def bearing (request : Request) (features : Features) (protection : Protection) : Bearing where
  label := protection.label
  isOpen := request.action == .unprotect && (protection.rulesFor request.action).isEmpty
  admits := (protection.rulesFor request.action).any fun rule =>
    rule.grant.admits features request.actor

/-- To a removal, a protection without unprotect rules is open. -/
theorem isOpen_bearing {protection : Protection} (hact : request.action = .unprotect) :
    (protection.bearing request features).isOpen = (protection.rulesFor .unprotect).isEmpty := by
  simp [bearing, hact]

/-- No protection is open to a write. -/
theorem isOpen_bearing_eq_false {protection : Protection} (hact : request.action ≠ .unprotect) :
    (protection.bearing request features).isOpen = false := by
  simp [bearing, hact]

/-- A bearing admits the actor by a rule for the action. -/
theorem admits_bearing_iff {protection : Protection} :
    (protection.bearing request features).admits = true ↔
      ∃ rule ∈ protection.rulesFor request.action,
        rule.grant.admits features request.actor = true := by
  rw [bearing, List.any_eq_true]

/-- What is seen of a protection tells whether it grants the request. -/
theorem grants_eq_bearing (protection : Protection) :
    protection.grants request features =
      ((protection.bearing request features).isOpen ||
        (protection.bearing request features).admits) := by
  rw [Bool.eq_iff_iff, Bool.or_eq_true, admits_bearing_iff]
  by_cases hact : request.action = .unprotect
  · rw [grants_iff_of_unprotect hact, isOpen_bearing hact, List.isEmpty_iff, hact]
  · rw [grants_iff_of_writesRef (Action.writesRef_iff.mpr hact), isOpen_bearing_eq_false hact]
    simp only [Bool.false_eq_true, false_or]

end Protection

/-! ## The answer of the protections -/

namespace Protections

variable {governing others : Protections} {request : Request} {features : Features}

/-- The labels are seen. -/
theorem labels_eq_bearings (governing : Protections) (request : Request) (features : Features) :
    governing.labels =
      (governing.map (Protection.bearing request features)).map Protection.Bearing.label := by
  rw [List.map_map]
  rfl

/-- The first that grants the request, as far as it is named. -/
theorem find?_grants_eq_bearings (governing : Protections) (request : Request)
    (features : Features) :
    (governing.find? fun protection => protection.grants request features).map
        Protection.label =
      ((governing.map (Protection.bearing request features)).find? fun bearing =>
        bearing.isOpen || bearing.admits).map Protection.Bearing.label := by
  simp only [List.find?_map, Option.map_map, Protection.grants_eq_bearing]
  rfl

/-- Protections of which the same is seen give the same answer, whoever asks. -/
theorem answer_eq_of_bearings {actor actor' : Actor} {action : Action} {refName : String}
    {kind : RefKind} {features features' : Features}
    (h : governing.map (Protection.bearing ⟨actor, action, refName, kind⟩ features) =
      others.map (Protection.bearing ⟨actor', action, refName, kind⟩ features')) :
    governing.answer ⟨actor, action, refName, kind⟩ features =
      others.answer ⟨actor', action, refName, kind⟩ features' := by
  have hempty : governing.isEmpty = others.isEmpty := by
    simpa using congrArg List.isEmpty h
  have hlabels : governing.labels = others.labels := by
    rw [labels_eq_bearings, h, ← labels_eq_bearings]
  have hfind := find?_grants_eq_bearings governing ⟨actor, action, refName, kind⟩ features
  rw [h, ← find?_grants_eq_bearings] at hfind
  rw [answer, answer, hempty, hlabels]
  cases hfound : governing.find? fun protection =>
      protection.grants ⟨actor, action, refName, kind⟩ features with
  | none =>
      rw [hfound, Option.map_none, eq_comm, Option.map_eq_none_iff] at hfind
      rw [hfind]
      rfl
  | some protection =>
      rw [hfound, Option.map_some, eq_comm, Option.map_eq_some_iff] at hfind
      obtain ⟨other, hfound', hlabel⟩ := hfind
      simp only [hfound', Request.grantReason, hlabel]

end Protections

/-- The request sees the same of both, if it sees them at all. -/
structure Protection.SeenAlike [PatternLimit] (request : Request) (features : Features)
    (protection other : Protection) : Prop where
  kind_eq : protection.kind = other.kind
  covers_eq : protection.covers request.refName = other.covers request.refName
  bearing_eq : protection.bearing request features = other.bearing request features

/-- Where protection for protection the same is seen, so it is of those the ref falls under. -/
theorem Protections.map_bearing_governing_eq {limit : PatternLimit}
    {protections others : Protections} {request : Request} {features : Features}
    (h : List.Forall₂ (Protection.SeenAlike request features) protections others) :
    (protections.governing request.refName request.kind).map (Protection.bearing request features) =
      (others.governing request.refName request.kind).map
        (Protection.bearing request features) := by
  simp only [governing, ofKind, List.filter_filter]
  induction h with
  | nil => rfl
  | cons halike _ ih =>
      rw [List.filter_cons, List.filter_cons, halike.kind_eq, halike.covers_eq]
      split
      · rw [List.map_cons, List.map_cons, halike.bearing_eq, ih]
      · exact ih

/-! ## The whole decision -/

namespace Policy

/-- What a request sees of the protections its ref falls under. -/
def bearings [PatternLimit] (policy : Policy) (request : Request) : List Protection.Bearing :=
  (policy.protections.governing request.refName request.kind).map
    (Protection.bearing request policy.features)

variable {limit : PatternLimit} {policy other : Policy} {request request' : Request}
  {bundled : List Bundled}

/-- Whether a rule speaks for the request is seen. -/
theorem ruleGrants_iff_bearings :
    policy.RuleGrants request ↔
      (policy.bearings request).any Protection.Bearing.admits = true := by
  rw [bearings, List.any_map, List.any_eq_true]
  simp only [Function.comp_apply, Protection.admits_bearing_iff, Protections.mem_governing,
    RuleGrants, and_assoc]

/-- Whether a protection is open to a removal is seen. -/
theorem hasOpenProtection_iff_bearings (hact : request.action = .unprotect) :
    policy.HasOpenProtection request ↔
      (policy.bearings request).any Protection.Bearing.isOpen = true := by
  rw [bearings, List.any_map, List.any_eq_true]
  simp only [Function.comp_apply, Protection.isOpen_bearing hact, List.isEmpty_iff,
    Protections.mem_governing, HasOpenProtection, and_assoc]

/-- The labels that a denied removal names are seen. -/
theorem openLabels_eq_bearings (hact : request.action = .unprotect) :
    Extension.openLabels (policy.protections.governing request.refName request.kind) =
      ((policy.bearings request).filter Protection.Bearing.isOpen).map
        Protection.Bearing.label := by
  have hopen : Protection.Bearing.isOpen ∘ Protection.bearing request policy.features =
      fun protection => (protection.rulesFor .unprotect).isEmpty :=
    funext fun protection => Protection.isOpen_bearing hact
  rw [Extension.openLabels, bearings, List.filter_map, hopen, ← Protections.labels_eq_bearings]

/-- Two requests, each with its policy, that are decided by looking at the same. -/
structure SameBearing [PatternLimit] (policy : Policy) (request : Request) (other : Policy)
    (request' : Request) : Prop where
  project_eq : policy.project = other.project
  action_eq : request.action = request'.action
  refName_eq : request.refName = request'.refName
  kind_eq : request.kind = request'.kind
  role_eq : request.actor.role = request'.actor.role
  admin_eq : request.actor.admin = request'.actor.admin
  bearings_eq : policy.bearings request = other.bearings request'

namespace SameBearing

/-- It does not matter which of the two comes first. -/
theorem symm (h : SameBearing policy request other request') :
    SameBearing other request' policy request :=
  ⟨h.project_eq.symm, h.action_eq.symm, h.refName_eq.symm, h.kind_eq.symm, h.role_eq.symm,
    h.admin_eq.symm, h.bearings_eq.symm⟩

/-- The extensions restrict the same removals. -/
theorem restrictsRemoval (h : SameBearing policy request other request')
    (hrestricts : policy.RestrictsRemoval bundled request) :
    other.RestrictsRemoval bundled request' := by
  obtain ⟨⟨hact, hopen, hrule⟩, hadmin, hrole⟩ := hrestricts
  have hact' : request'.action = .unprotect := h.action_eq ▸ hact
  rw [hasOpenProtection_iff_bearings hact, h.bearings_eq] at hopen
  rw [ruleGrants_iff_bearings, h.bearings_eq] at hrule
  exact ⟨⟨hact', (hasOpenProtection_iff_bearings hact').mpr hopen,
    mt ruleGrants_iff_bearings.mp hrule⟩, h.admin_eq ▸ hadmin, h.role_eq ▸ hrole⟩

/-- They deny them with the same words. -/
theorem removalDenial_eq (h : SameBearing policy request other request')
    (hact : request.action = .unprotect) (minimum : Role) :
    policy.removalDenial request minimum = other.removalDenial request' minimum := by
  have hact' : request'.action = .unprotect := h.action_eq ▸ hact
  have hreason : request.removalReason minimum = request'.removalReason minimum := by
    unfold Request.removalReason
    rw [h.refName_eq]
  rw [removalDenial, removalDenial, hreason, openLabels_eq_bearings hact,
    openLabels_eq_bearings hact', h.bearings_eq]

/-- Without extensions the decisions are the same. -/
theorem evaluate_nil_eq (h : SameBearing policy request other request') :
    policy.evaluate [] request = other.evaluate [] request' := by
  obtain ⟨actor, action, refName, kind⟩ := request
  obtain ⟨actor', action', refName', kind'⟩ := request'
  obtain ⟨hproject, haction, hrefName, hkind, hrole, hadmin, hbearings⟩ := h
  dsimp only at haction hrefName hkind hrole hadmin
  subst haction hrefName hkind
  rw [evaluate_nil, evaluate_nil]
  simp only [bootstrapApplies, bootstraps, Actor.bootstrapReason, hproject, hrole, hadmin,
    checkProtections, Protections.answer_eq_of_bearings hbearings]

end SameBearing

/-- A decision is the same where what it looks at is. -/
theorem evaluate_eq_of_sameBearing (h : SameBearing policy request other request') :
    policy.evaluate (bundled.map Bundled.toExtension) request =
      other.evaluate (bundled.map Bundled.toExtension) request' :=
  evaluate_bundled_rel ⟨h.restrictsRemoval, h.symm.restrictsRemoval⟩ h.role_eq
    (fun hrestricts minimum => h.removalDenial_eq hrestricts.1.removes minimum) h.evaluate_nil_eq

/-- So it is where protection for protection the same is seen. -/
theorem evaluate_eq_of_seenAlike {project : Project} {features : Features}
    {protections others : Protections}
    (h : List.Forall₂ (Protection.SeenAlike request features) protections others) :
    evaluate ⟨project, protections, features⟩ (bundled.map Bundled.toExtension) request =
      evaluate ⟨project, others, features⟩ (bundled.map Bundled.toExtension) request :=
  evaluate_eq_of_sameBearing
    ⟨rfl, rfl, rfl, rfl, rfl, rfl, Protections.map_bearing_governing_eq h⟩

end Policy

end RefPolicy
