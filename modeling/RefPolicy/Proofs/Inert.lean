import RefPolicy.Proofs.Bearing

/-!
# RefPolicy.Proofs.Inert

What plays no part in a decision.  A rule that is not for the actor may go, and
so may a protection that the ref does not fall under, wherever they stand and
however many there are: `Drops` is the relation between a list and what is left
of it.

With rules there is one thing to mind.  A protection without unprotect rules
can be removed by anyone, so for a removal the last of these rules counts even
if it is for someone else.

* `Drops.filter_eq`, `Drops.any_eq` — a question to which nothing that went
  says yes has the same answer;
* `Policy.evaluate_without_idle_rules` — rules and deploy keys that grant nothing;
* `Protections.unrelated_play_no_part` — protections the ref does not fall under.
-/

namespace RefPolicy

/-- What is left of a list without some of its items, of which `idle` holds. -/
inductive Drops {α : Type} (idle : α → Prop) : List α → List α → Prop
  | nil : Drops idle [] []
  | keep (a : α) {items left : List α} (h : Drops idle items left) :
    Drops idle (a :: items) (a :: left)
  | drop {a : α} (ha : idle a) {items left : List α} (h : Drops idle items left) :
    Drops idle (a :: items) left

namespace Drops

variable {α : Type} {idle : α → Prop} {items left : List α} {p : α → Bool}

/-- What is left was there before. -/
theorem subset (h : Drops idle items left) : left ⊆ items := by
  induction h with
  | nil => exact List.Subset.refl []
  | keep a _ ih => exact List.cons_subset_cons a ih
  | drop _ _ ih => exact List.subset_cons_of_subset _ ih

/-- What is picked out is the same if nothing that went would be picked. -/
theorem filter_eq (h : Drops idle items left) (hp : ∀ a, idle a → p a = false) :
    items.filter p = left.filter p := by
  induction h with
  | nil => rfl
  | keep a _ ih => rw [List.filter_cons, List.filter_cons, ih]
  | drop ha _ ih => rw [List.filter_cons_of_neg (by simp [hp _ ha]), ih]

/-- A question to which nothing that went says yes has the same answer. -/
theorem any_eq (h : Drops idle items left) (hp : ∀ a, idle a → p a = false) :
    items.any p = left.any p := by
  simpa using congrArg (List.any · p) (h.filter_eq hp)

/-- A filter leaves out what it says no to. -/
theorem of_filter (items : List α) (hp : ∀ a, p a = false → idle a) :
    Drops idle items (items.filter p) := by
  induction items with
  | nil => exact .nil
  | cons a items ih =>
      rw [List.filter_cons]
      split
      · exact .keep a ih
      · next ha => exact .drop (hp a (by simpa using ha)) ih

end Drops

/-! ## Rules that are for someone else -/

/-- The actor is not whom the grant is for. -/
def Grant.Misses (features : Features) (actor : Actor) : Grant → Prop
  | role threshold => actor.admin = false ∧ (threshold = .noAccess ∨ actor.role < threshold)
  | user id => actor.id ≠ id
  | group id => id ∉ actor.groups
  | deployKey id => features.deployKeyGrants = false ∨ actor.deployKey ≠ some id

/-- A grant that does not admit an actor is not for that actor. -/
theorem Grant.admits_eq_false_iff {features : Features} {actor : Actor} {grant : Grant} :
    grant.admits features actor = false ↔ grant.Misses features actor := by
  cases grant with
  | role threshold =>
      have hrole : ¬ threshold ≤ actor.role ↔ actor.role < threshold := Nat.not_le
      simp only [admits, Misses, Bool.or_eq_false_iff, Bool.and_eq_false_iff, bne_eq_false_iff_eq,
        decide_eq_false_iff_not, hrole]
  | user id => simp [admits, Misses]
  | group id => simp [admits, Misses, Actor.isMember]
  | deployKey id =>
      simp only [admits, Misses, Bool.and_eq_false_iff, beq_eq_false_iff_ne]

/-- `other` is the protection without some of its rules, all of them for someone
else; if the request is a removal, it has rules for that as before. -/
structure Protection.Sheds (request : Request) (features : Features)
    (protection other : Protection) : Prop where
  same : other = { protection with rules := other.rules }
  drops : Drops (fun rule => rule.grant.Misses features request.actor) protection.rules other.rules
  closed : request.action = .unprotect →
    protection.rulesFor .unprotect ≠ [] → other.rulesFor .unprotect ≠ []

namespace Protection.Sheds

variable {request : Request} {features : Features} {protection other : Protection}

/-- Without rules for others, the same actors are admitted. -/
theorem admits_bearing_eq (h : protection.Sheds request features other) :
    (protection.bearing request features).admits = (other.bearing request features).admits := by
  simp only [bearing, rulesFor, List.any_filter]
  refine h.drops.any_eq fun rule hmisses => ?_
  rw [Grant.admits_eq_false_iff.mpr hmisses, Bool.and_false]

/-- A removal finds the protection open as before. -/
theorem isOpen_bearing_eq (h : protection.Sheds request features other) :
    (protection.bearing request features).isOpen = (other.bearing request features).isOpen := by
  by_cases hact : request.action = .unprotect
  · rw [isOpen_bearing hact, isOpen_bearing hact, Bool.eq_iff_iff, List.isEmpty_iff,
      List.isEmpty_iff]
    have hsubset : other.rulesFor .unprotect ⊆ protection.rulesFor .unprotect :=
      List.filter_subset _ h.drops.subset
    constructor
    · intro hnil
      exact List.subset_nil.mp (hnil ▸ hsubset)
    · exact not_imp_not.mp (h.closed hact)
  · rw [isOpen_bearing_eq_false hact, isOpen_bearing_eq_false hact]

/-- So the request sees the same of both. -/
theorem seenAlike {limit : PatternLimit} (h : protection.Sheds request features other) :
    protection.SeenAlike request features other := by
  have hpattern : protection.pattern = other.pattern := by
    rw [h.same]
  have hkind : protection.kind = other.kind := by
    rw [h.same]
  have hlabel : protection.label = other.label := congrArg Pattern.source hpattern
  exact ⟨hkind, by rw [covers, covers, hpattern],
    Bearing.ext hlabel h.isOpen_bearing_eq h.admits_bearing_eq⟩

end Protection.Sheds

/-- Where deploy keys do not count, nobody asks which one it is. -/
theorem Grant.admits_withKey {features : Features} (hgate : features.deployKeyGrants = false)
    (grant : Grant) (actor : Actor) (key : Option Id) :
    grant.admits features { actor with deployKey := key } = grant.admits features actor := by
  cases grant with
  | role threshold | user id | group id => rfl
  | deployKey id => simp only [admits, hgate, Bool.false_and]

/-- The request of an actor who brings another deploy key, or none. -/
def Request.withKey (request : Request) (key : Option Id) : Request :=
  { request with actor := { request.actor with deployKey := key } }

namespace Policy

/-- Where deploy keys do not count, the key has no bearing. -/
theorem sameBearing_withKey {limit : PatternLimit} {policy : Policy}
    (hgate : policy.features.deployKeyGrants = false) (request : Request) (key : Option Id) :
    policy.SameBearing (request.withKey key) policy request where
  project_eq := rfl
  action_eq := rfl
  refName_eq := rfl
  kind_eq := rfl
  role_eq := rfl
  admin_eq := rfl
  bearings_eq := by
    refine List.map_congr_left fun protection _ => ?_
    simp only [Protection.bearing, Request.withKey, Grant.admits_withKey hgate]

/-- A decision stays what it is, reason and protections in the way included, when
any of the protections lose any rules that are not for the actor, as long as
none loses all its rules for the removal that is asked for.  For whom a rule
is not is spelled out first.  Where deploy keys do not count, it also stays
what it is with every other key. -/
theorem evaluate_without_idle_rules [PatternLimit] (policy : Policy) (bundled : List Bundled)
    (request : Request) :
    let extensions := bundled.map Bundled.toExtension
    (∀ grant : Grant,
      grant.admits policy.features request.actor = false ↔
        grant.Misses policy.features request.actor) ∧
    (∀ others : Protections,
      List.Forall₂ (Protection.Sheds request policy.features) policy.protections others →
        Policy.evaluate { policy with protections := others } extensions request =
          policy.evaluate extensions request) ∧
    (policy.features.deployKeyGrants = false →
      ∀ key : Option Id,
        policy.evaluate extensions (request.withKey key) = policy.evaluate extensions request) := by
  intro extensions
  refine ⟨fun grant => Grant.admits_eq_false_iff, ?_, ?_⟩
  · intro others hsheds
    have halike := hsheds.imp fun _ _ h => h.seenAlike
    exact (evaluate_eq_of_seenAlike halike).symm
  · intro hgate key
    exact evaluate_eq_of_sameBearing (sameBearing_withKey hgate request key)

/-- A rule for a deploy key that does not count is still a rule: without it
anyone may remove the protection. -/
example :
    let policy (rules : List Rule) : Policy :=
      { protections := [{ pattern := ⟨"main"⟩, kind := .branch, rules }] }
    let request : Request := ⟨{ id := 1, role := .guest }, .unprotect, "main", .branch⟩
    (policy [⟨.unprotect, .deployKey 2⟩]).permits [] request = false ∧
      (policy []).permits [] request = true := by
  decide

end Policy

/-! ## Protections the ref does not fall under -/

/-- The ref does not fall under the protection. -/
def Protection.Unrelated [PatternLimit] (refName : String) (kind : RefKind)
    (protection : Protection) : Prop :=
  protection.kind ≠ kind ∨ protection.covers refName = false

namespace Protections

variable {limit : PatternLimit} {refName : String} {kind : RefKind}
  {protections others left : Protections}

/-- All that is asked about the ref has the same answer under both. -/
structure AnswerAlike [PatternLimit] (refName : String) (kind : RefKind)
    (protections others : Protections) : Prop where
  evaluate_eq (project : Project) (features : Features) (bundled : List Bundled)
      (actor : Actor) (action : Action) :
    Policy.evaluate ⟨project, protections, features⟩ (bundled.map Bundled.toExtension)
        ⟨actor, action, refName, kind⟩ =
      Policy.evaluate ⟨project, others, features⟩ (bundled.map Bundled.toExtension)
        ⟨actor, action, refName, kind⟩
  require_eq (project : Project) (features : Features) (bundled : List Bundled)
      (actor : Actor) (action : Action) :
    Policy.require ⟨project, protections, features⟩ (bundled.map Bundled.toExtension)
        ⟨actor, action, refName, kind⟩ =
      Policy.require ⟨project, others, features⟩ (bundled.map Bundled.toExtension)
        ⟨actor, action, refName, kind⟩
  isProtected_eq (project : Project) :
    protections.isProtected refName kind project = others.isProtected refName kind project
  rulesFor_eq (action : Action) :
    protections.rulesFor refName kind action = others.rulesFor refName kind action
  requiresApproval_eq (project : Project) (features : Features) (bundled : List Bundled)
      (hkind : kind = .branch) :
    Policy.requiresApproval ⟨project, protections, features⟩ (bundled.map Bundled.toExtension)
        refName =
      Policy.requiresApproval ⟨project, others, features⟩ (bundled.map Bundled.toExtension)
        refName

/-- The kind and the pattern together pick out what governs a ref. -/
theorem governing_eq_filter (protections : Protections) (refName : String) (kind : RefKind) :
    protections.governing refName kind =
      protections.filter fun protection =>
        protection.covers refName && protection.kind == kind := by
  rw [governing, ofKind, List.filter_filter]

/-- What is not picked out is unrelated. -/
theorem governs_eq_false_iff {protection : Protection} :
    (protection.covers refName && protection.kind == kind) = false ↔
      protection.Unrelated refName kind := by
  rw [Bool.and_eq_false_iff, beq_eq_false_iff_ne, or_comm, Protection.Unrelated]

/-- What governs the ref is what is left without the protections it does not fall
under. -/
theorem drops_governing (protections : Protections) (refName : String) (kind : RefKind) :
    Drops (Protection.Unrelated refName kind) protections
      (protections.governing refName kind) := by
  rw [governing_eq_filter]
  exact Drops.of_filter protections fun _ => governs_eq_false_iff.mp

/-- Without unrelated protections a ref falls under the same ones. -/
theorem governing_eq_of_drops (h : Drops (Protection.Unrelated refName kind) protections left) :
    protections.governing refName kind = left.governing refName kind := by
  rw [governing_eq_filter, governing_eq_filter]
  exact h.filter_eq fun _ => governs_eq_false_iff.mpr

/-- Where a ref falls under the same protections, all answers are alike. -/
theorem AnswerAlike.of_governing_eq
    (h : protections.governing refName kind = others.governing refName kind) :
    AnswerAlike refName kind protections others := by
  have hevaluate (project : Project) (features : Features) (bundled : List Bundled)
      (actor : Actor) (action : Action) :
      Policy.evaluate ⟨project, protections, features⟩ (bundled.map Bundled.toExtension)
          ⟨actor, action, refName, kind⟩ =
        Policy.evaluate ⟨project, others, features⟩ (bundled.map Bundled.toExtension)
          ⟨actor, action, refName, kind⟩ :=
    Policy.evaluate_eq_of_sameBearing
      ⟨rfl, rfl, rfl, rfl, rfl, rfl, congrArg (List.map _) h⟩
  refine ⟨hevaluate, ?_, ?_, ?_, ?_⟩
  · intro project features bundled actor action
    rw [Policy.require, hevaluate, Policy.require]
  · intro project
    rw [Bool.eq_iff_iff, isProtected_iff, isProtected_iff, h]
  · intro action
    rw [rulesFor, h, rulesFor]
  · intro project features bundled hkind
    subst hkind
    rw [Bool.eq_iff_iff, Policy.requiresApproval_bundled_iff,
      Policy.requiresApproval_bundled_iff, h]

/-- Protections of the other kind, and those whose pattern does not cover the
ref, play no part in anything that is asked about it: they may be removed and
inserted anywhere, as many as there are, and in the end the answers are those
of the protections the ref falls under.  Without a label a protection plays no
part for any ref. -/
theorem unrelated_play_no_part (refName : String) (kind : RefKind) (protections : Protections) :
    (∀ left others : Protections,
      Drops (Protection.Unrelated refName kind) protections left →
        Drops (Protection.Unrelated refName kind) others left →
          AnswerAlike refName kind protections others) ∧
    AnswerAlike refName kind protections (protections.governing refName kind) ∧
    ∀ protection : Protection, protection.label = "" → protection.Unrelated refName kind := by
  refine ⟨?_, ?_, ?_⟩
  · intro left others hleft hothers
    exact .of_governing_eq
      ((governing_eq_of_drops hleft).trans (governing_eq_of_drops hothers).symm)
  · exact .of_governing_eq (governing_eq_of_drops (drops_governing protections refName kind))
  · intro protection hlabel
    have hform : protection.pattern.form limit.fits = .never := by
      rw [Pattern.form, ← Protection.label, hlabel]
      rfl
    exact .inr (by rw [Protection.covers, Pattern.covers, hform])

end Protections

end RefPolicy
