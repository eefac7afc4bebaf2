import RefPolicy.Proofs.Removal

/-!
# RefPolicy.Proofs.Members

A policy decides by its members, not by their order.  Every loop over
protections or rules stops at a first hit, but what is asked of it is only
whether there is one.  Two protections *say the same* when they differ at
most in the order and repetition of their rules and in when they were
declared; two lists have the *same members* when each member of one says the
same as some member of the other.

* `exists_iff_of_sameMembers` — a question that all who say the same answer
  alike finds a member in both lists or in neither;
* `answer_agrees`, `removalDenial_agrees` — the answers of such lists;
* `decides_alike_of_sameMembers` — decisions and queries on them.
-/

namespace RefPolicy

/-- Equal but for the order and repetition of rules and the time of declaration. -/
structure Protection.SaysSame (protection other : Protection) : Prop where
  label_eq : protection.label = other.label
  kind_eq : protection.kind = other.kind
  approval_eq : protection.codeOwnerApproval = other.codeOwnerApproval
  mem_rules_iff : ∀ rule, rule ∈ protection.rules ↔ rule ∈ other.rules

/-- Each member of one list says the same as some member of the other. -/
structure Protections.SameMembers (protections others : Protections) : Prop where
  exists_right : ∀ protection ∈ protections, ∃ other ∈ others, protection.SaysSame other
  exists_left : ∀ other ∈ others, ∃ protection ∈ protections, protection.SaysSame other

/-- The same answer, but for the reason of a permission and for the order and
repetition of the protections that stand in the way. -/
def Decision.Agrees : Decision → Decision → Prop
  | allowed _, allowed _ => True
  | denied reason labels, denied reason' labels' =>
    reason = reason' ∧ ∀ label, label ∈ labels ↔ label ∈ labels'
  | ungoverned, ungoverned => True
  | _, _ => False

/-- Two permissions agree, whatever their reasons. -/
theorem Decision.agrees_of_isAllowed {decision other : Decision}
    (h : decision.isAllowed = true) (h' : other.isAllowed = true) : decision.Agrees other := by
  cases decision <;> cases other <;> simp_all [isAllowed, Agrees]

/-! ## Protections that say the same -/

namespace Protection.SaysSame

variable {protection other : Protection} {action : Action} {request : Request}
  {features : Features}

/-- It does not matter which of the two comes first. -/
theorem symm (h : protection.SaysSame other) : other.SaysSame protection :=
  ⟨h.label_eq.symm, h.kind_eq.symm, h.approval_eq.symm, fun rule => (h.mem_rules_iff rule).symm⟩

/-- Patterns are known by their texts, so the same refs are covered. -/
theorem covers_eq {limit : PatternLimit} (h : protection.SaysSame other) (refName : String) :
    protection.covers refName = other.covers refName := by
  have hpattern : protection.pattern = other.pattern := congrArg Pattern.mk h.label_eq
  rw [covers, covers, hpattern]

/-- They have the same rules for every action. -/
theorem mem_rulesFor_iff (h : protection.SaysSame other) {rule : Rule} :
    rule ∈ protection.rulesFor action ↔ rule ∈ other.rulesFor action := by
  simp only [rulesFor, List.mem_filter, h.mem_rules_iff]

/-- If one has no rules for an action, neither has the other. -/
theorem rulesFor_eq_nil_iff (h : protection.SaysSame other) :
    protection.rulesFor action = [] ↔ other.rulesFor action = [] := by
  simp only [List.eq_nil_iff_forall_not_mem, h.mem_rulesFor_iff]

/-- They grant the same requests. -/
theorem grants_eq (h : protection.SaysSame other) :
    protection.grants request features = other.grants request features := by
  rw [Bool.eq_iff_iff]
  by_cases hact : request.action = .unprotect
  · rw [grants_iff_of_unprotect hact, grants_iff_of_unprotect hact, h.rulesFor_eq_nil_iff]
    simp only [h.mem_rulesFor_iff]
  · have hwrites := Action.writesRef_iff.mpr hact
    rw [grants_iff_of_writesRef hwrites, grants_iff_of_writesRef hwrites]
    simp only [h.mem_rulesFor_iff]

end Protection.SaysSame

/-! ## Lists with the same members -/

namespace Protections

variable {limit : PatternLimit} {protections others : Protections} {request : Request}
  {features : Features}

/-- It does not matter which list comes first. -/
theorem SameMembers.symm (h : protections.SameMembers others) :
    others.SameMembers protections := by
  constructor
  · intro other hmem
    obtain ⟨protection, hprotection, hsame⟩ := h.exists_left other hmem
    exact ⟨protection, hprotection, hsame.symm⟩
  · intro protection hmem
    obtain ⟨other, hother, hsame⟩ := h.exists_right protection hmem
    exact ⟨other, hother, hsame.symm⟩

/-- A question that all who say the same answer alike finds a member in both
lists or in neither. -/
theorem exists_iff_of_sameMembers (h : protections.SameMembers others) {P : Protection → Prop}
    (hP : ∀ protection other, protection.SaysSame other → (P protection ↔ P other)) :
    (∃ protection ∈ protections, P protection) ↔ ∃ other ∈ others, P other := by
  constructor
  · intro hex
    obtain ⟨protection, hmem, hp⟩ := hex
    obtain ⟨other, hother, hsame⟩ := h.exists_right protection hmem
    exact ⟨other, hother, (hP protection other hsame).mp hp⟩
  · intro hex
    obtain ⟨other, hmem, hp⟩ := hex
    obtain ⟨protection, hprotection, hsame⟩ := h.exists_left other hmem
    exact ⟨protection, hprotection, (hP protection other hsame).mpr hp⟩

/-- The same, for questions that are computed. -/
theorem any_eq_of_sameMembers (h : protections.SameMembers others) {p : Protection → Bool}
    (hp : ∀ protection other, protection.SaysSame other → p protection = p other) :
    protections.any p = others.any p := by
  rw [Bool.eq_iff_iff, List.any_eq_true, List.any_eq_true]
  refine exists_iff_of_sameMembers h fun protection other hsame => ?_
  rw [hp protection other hsame]

/-- Such a question picks out the same members. -/
theorem filter_sameMembers (h : protections.SameMembers others) {p : Protection → Bool}
    (hp : ∀ protection other, protection.SaysSame other → p protection = p other) :
    SameMembers (protections.filter p) (others.filter p) := by
  constructor
  · intro protection hmem
    rw [List.mem_filter] at hmem
    obtain ⟨other, hother, hsame⟩ := h.exists_right protection hmem.1
    exact ⟨other, List.mem_filter.mpr ⟨hother, hp protection other hsame ▸ hmem.2⟩, hsame⟩
  · intro other hmem
    rw [List.mem_filter] at hmem
    obtain ⟨protection, hprotection, hsame⟩ := h.exists_left other hmem.1
    exact ⟨protection, List.mem_filter.mpr ⟨hprotection, hp protection other hsame ▸ hmem.2⟩,
      hsame⟩

/-- The protections of one kind are the same members. -/
theorem ofKind_sameMembers (h : protections.SameMembers others) (kind : RefKind) :
    (protections.ofKind kind).SameMembers (others.ofKind kind) :=
  filter_sameMembers h fun _ _ hsame => by rw [hsame.kind_eq]

/-- So are those that a ref falls under. -/
theorem governing_sameMembers (h : protections.SameMembers others) (refName : String)
    (kind : RefKind) :
    (protections.governing refName kind).SameMembers (others.governing refName kind) :=
  filter_sameMembers (ofKind_sameMembers h kind) fun _ _ hsame => hsame.covers_eq refName

/-- The labels form the same set. -/
theorem mem_labels_iff_of_sameMembers (h : protections.SameMembers others) (label : String) :
    label ∈ protections.labels ↔ label ∈ others.labels := by
  simp only [labels, List.mem_map]
  exact exists_iff_of_sameMembers h fun _ _ hsame => by rw [hsame.label_eq]

/-- Neither list is empty alone. -/
theorem eq_nil_of_sameMembers (h : protections.SameMembers others) (hnil : protections = []) :
    others = [] := by
  rw [List.eq_nil_iff_forall_not_mem]
  intro other hmem
  obtain ⟨protection, hprotection, -⟩ := h.exists_left other hmem
  exact absurd (hnil ▸ hprotection) List.not_mem_nil

/-- The answers of lists with the same members agree. -/
theorem answer_agrees (h : protections.SameMembers others) :
    (protections.answer request features).Agrees (others.answer request features) := by
  have hany : (protections.any fun protection => protection.grants request features) =
      others.any fun protection => protection.grants request features :=
    any_eq_of_sameMembers h fun _ _ hsame => hsame.grants_eq
  by_cases hnil : protections = []
  · rw [answer_eq_ungoverned.mpr hnil, answer_eq_ungoverned.mpr (eq_nil_of_sameMembers h hnil)]
    trivial
  cases hallowed : (others.any fun protection => protection.grants request features) with
  | true =>
      refine Decision.agrees_of_isAllowed ?_ ?_
      · rw [isAllowed_answer, hany, hallowed]
      · rw [isAllowed_answer, hallowed]
  | false =>
      have hnil' : others ≠ [] := mt (eq_nil_of_sameMembers h.symm) hnil
      rw [answer_eq_denied hnil (by simpa [hallowed] using hany),
        answer_eq_denied hnil' (by simpa using hallowed)]
      exact ⟨rfl, mem_labels_iff_of_sameMembers h⟩

end Protections

/-! ## Whole decisions -/

namespace Policy

section Decisions

variable {limit : PatternLimit} {project : Project} {features : Features}
  {protections others : Protections} {bundled : List Bundled} {request : Request}

/-- A rule speaks for a request in both lists or in neither. -/
theorem ruleGrants_iff_of_sameMembers (h : protections.SameMembers others) :
    RuleGrants ⟨project, protections, features⟩ request ↔
      RuleGrants ⟨project, others, features⟩ request :=
  Protections.exists_iff_of_sameMembers h fun _ _ hsame => by
    simp only [hsame.kind_eq, hsame.covers_eq, hsame.mem_rulesFor_iff]

/-- A protection is open in both lists or in neither. -/
theorem hasOpenProtection_iff_of_sameMembers (h : protections.SameMembers others) :
    HasOpenProtection ⟨project, protections, features⟩ request ↔
      HasOpenProtection ⟨project, others, features⟩ request :=
  Protections.exists_iff_of_sameMembers h fun _ _ hsame => by
    simp only [hsame.kind_eq, hsame.covers_eq, hsame.rulesFor_eq_nil_iff]

/-- The extensions restrict the same removals. -/
theorem restrictsRemoval_of_sameMembers (h : protections.SameMembers others)
    (hrestricts : RestrictsRemoval ⟨project, protections, features⟩ bundled request) :
    RestrictsRemoval ⟨project, others, features⟩ bundled request := by
  obtain ⟨hopen, hadmin, hrole⟩ := hrestricts
  refine ⟨⟨hopen.removes, ?_, ?_⟩, hadmin, hrole⟩
  · exact (hasOpenProtection_iff_of_sameMembers h).mp hopen.hasOpen
  · exact mt (ruleGrants_iff_of_sameMembers h).mpr hopen.noRule

/-- They deny them in the name of the same protections. -/
theorem removalDenial_agrees (h : protections.SameMembers others) (minimum : Role) :
    (removalDenial ⟨project, protections, features⟩ request minimum).Agrees
      (removalDenial ⟨project, others, features⟩ request minimum) := by
  refine ⟨rfl, Protections.mem_labels_iff_of_sameMembers ?_⟩
  refine Protections.filter_sameMembers
    (Protections.governing_sameMembers h request.refName request.kind) fun _ _ hsame => ?_
  rw [Bool.eq_iff_iff, List.isEmpty_iff, List.isEmpty_iff, hsame.rulesFor_eq_nil_iff]

/-- Without extensions the decisions agree. -/
theorem evaluate_nil_agrees (h : protections.SameMembers others) :
    (evaluate ⟨project, protections, features⟩ [] request).Agrees
      (evaluate ⟨project, others, features⟩ [] request) := by
  -- The first push asks for no protection, so it comes to the same on both sides.
  have hfirst : bootstrapApplies ⟨project, protections, features⟩ request =
      bootstrapApplies ⟨project, others, features⟩ request := rfl
  rw [evaluate_nil, evaluate_nil, hfirst]
  split
  · trivial
  · exact Protections.answer_agrees
      (Protections.governing_sameMembers h request.refName request.kind)

/-- With bundled extensions they agree as well. -/
theorem evaluate_bundled_agrees (h : protections.SameMembers others) :
    (evaluate ⟨project, protections, features⟩ (bundled.map Bundled.toExtension) request).Agrees
      (evaluate ⟨project, others, features⟩ (bundled.map Bundled.toExtension) request) :=
  evaluate_bundled_rel
    ⟨restrictsRemoval_of_sameMembers h, restrictsRemoval_of_sameMembers h.symm⟩ rfl
    (fun _ minimum => removalDenial_agrees h minimum) (evaluate_nil_agrees h)

/-- The same refs are protected. -/
theorem isProtected_eq_of_sameMembers (h : protections.SameMembers others) (refName : String)
    (kind : RefKind) :
    protections.isProtected refName kind project = others.isProtected refName kind project := by
  rw [Protections.isProtected, Protections.isProtected,
    Protections.any_eq_of_sameMembers (Protections.ofKind_sameMembers h kind) fun _ _ hsame =>
      hsame.covers_eq refName]

/-- Sets of names have the same answer, in whatever order they are given. -/
theorem anyProtected_eq_of_sameMembers (h : protections.SameMembers others)
    {refNames refNames' : List String} (hnames : ∀ n, n ∈ refNames ↔ n ∈ refNames')
    (kind : RefKind) :
    protections.anyProtected refNames kind = others.anyProtected refNames' kind := by
  have hany (p : String → Bool) : refNames.any p = refNames'.any p := by
    rw [Bool.eq_iff_iff, List.any_eq_true, List.any_eq_true]
    simp only [hnames]
  simp only [Protections.anyProtected, hany]
  exact Protections.any_eq_of_sameMembers (Protections.ofKind_sameMembers h kind)
    fun _ _ hsame => congrArg refNames'.any (funext hsame.covers_eq)

/-- The same branches need approval. -/
theorem requiresApproval_eq_of_sameMembers (h : protections.SameMembers others)
    (branch : String) :
    requiresApproval ⟨project, protections, features⟩ (bundled.map Bundled.toExtension) branch =
      requiresApproval ⟨project, others, features⟩ (bundled.map Bundled.toExtension) branch := by
  rw [Bool.eq_iff_iff, requiresApproval_bundled_iff, requiresApproval_bundled_iff,
    Protections.any_eq_of_sameMembers (Protections.governing_sameMembers h branch .branch)
      fun _ _ hsame => hsame.approval_eq]

end Decisions

/-- Policies whose protections have the same members decide alike: every
request has the same sort of answer, a denial for the same reason and in the
name of the same protections, and the same refs are protected and need
approval.  The names asked about at once form a set as well. -/
theorem decides_alike_of_sameMembers [PatternLimit] (project : Project) (features : Features)
    (protections others : Protections) (h : protections.SameMembers others) :
    let policy : Policy := ⟨project, protections, features⟩
    let other : Policy := ⟨project, others, features⟩
    (∀ (bundled : List Bundled) (request : Request),
      (policy.evaluate (bundled.map Bundled.toExtension) request).Agrees
        (other.evaluate (bundled.map Bundled.toExtension) request)) ∧
    (∀ refName kind,
      protections.isProtected refName kind project = others.isProtected refName kind project) ∧
    (∀ refNames refNames' kind, (∀ refName, refName ∈ refNames ↔ refName ∈ refNames') →
      protections.anyProtected refNames kind = others.anyProtected refNames' kind) ∧
    ∀ (bundled : List Bundled) branch,
      policy.requiresApproval (bundled.map Bundled.toExtension) branch =
        other.requiresApproval (bundled.map Bundled.toExtension) branch := by
  intro policy other
  exact ⟨fun bundled request => evaluate_bundled_agrees h,
    fun refName kind => isProtected_eq_of_sameMembers h refName kind,
    fun refNames refNames' kind hnames => anyProtected_eq_of_sameMembers h hnames kind,
    fun bundled branch => requiresApproval_eq_of_sameMembers h branch⟩

/-- Two protections turned round, one repeated and the rules of the other
declared in another order: a removal is denied in the name of the same one. -/
theorem reordered_removal_agrees :
    let main : Protection :=
      { pattern := ⟨"main"⟩, kind := .branch,
        rules := [⟨.push, .role .maintainer⟩, ⟨.unprotect, .user 2⟩] }
    let every : Protection := { pattern := ⟨"m*"⟩, kind := .branch, codeOwnerApproval := true }
    let main' : Protection :=
      { main with
        rules := [⟨.unprotect, .user 2⟩, ⟨.push, .role .maintainer⟩, ⟨.unprotect, .user 2⟩] }
    let request : Request := ⟨{ id := 1, role := .guest }, .unprotect, "main", .branch⟩
    Protections.SameMembers [main, every] [every, main', every] ∧
      (evaluate ⟨{}, [main, every], {}⟩ [.restrictedUnprotect .owner] request).Agrees
        (evaluate ⟨{}, [every, main', every], {}⟩ [.restrictedUnprotect .owner] request) ∧
      evaluate ⟨{}, [every, main', every], {}⟩ [.restrictedUnprotect .owner] request =
        .denied "unprotecting 'main' requires at least the owner role" ["m*", "m*"] := by
  intro main every main' request
  have hmain : main.SaysSame main' := by
    refine ⟨rfl, rfl, rfl, fun rule => ?_⟩
    simp only [main, main', List.mem_cons, List.not_mem_nil, or_false]
    grind
  have hevery : every.SaysSame every := ⟨rfl, rfl, rfl, fun _ => Iff.rfl⟩
  have hsame : Protections.SameMembers [main, every] [every, main', every] := by
    constructor <;> simp [hmain, hevery]
  refine ⟨hsame, ?_, by decide⟩
  exact (decides_alike_of_sameMembers {} {} [main, every] [every, main', every] hsame).1
    [.restrictedUnprotect .owner] request

end Policy

end RefPolicy
