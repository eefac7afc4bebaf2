import RefPolicy.RuleSet
import RefPolicy.Text.Blank
import RefPolicy.Text.LowerCase

/-!
# RefPolicy.Policy

The policy of one project: the state of its repository, its protections in
declared order, and the switches of the host — together with the questions
that need no actor.

* `mem_governing` — a ref falls under the protections of its kind that cover it;
* `isProtected_iff` — the first push apart, it is protected when there is one.
-/

namespace RefPolicy

/-- What the policy has to know of the repository. -/
structure Project where
  emptyRepository : Bool := false
  defaultBranchProtected : Bool := true
  defaultBranch : String := "main"
  deriving DecidableEq

/-- Is the project waiting for a first push that protection already governs? -/
def Project.bootstrapProtected (project : Project) : Bool :=
  project.emptyRepository && project.defaultBranchProtected

/-- The protections of a project, in declared order. -/
abbrev Protections := List Protection

namespace Protections

/-- The protections of one kind of ref. -/
def ofKind (protections : Protections) (kind : RefKind) : Protections :=
  protections.filter fun protection => protection.kind == kind

/-- The protections a ref falls under. -/
def governing [PatternLimit] (protections : Protections) (refName : String) (kind : RefKind) :
    Protections :=
  (protections.ofKind kind).filter fun protection => protection.covers refName

/-- Is a ref protected?  While the project waits for its first push, every
branch is. -/
def isProtected [PatternLimit] (protections : Protections) (refName : String) (kind : RefKind)
    (project : Project) : Bool :=
  (kind == .branch && project.bootstrapProtected) ||
    (protections.ofKind kind).any fun protection => protection.covers refName

/-- Does one of the names fall under a protection?  The first push plays no part. -/
def anyProtected [PatternLimit] (protections : Protections) (refNames : List String)
    (kind : RefKind) : Bool :=
  (protections.ofKind kind).any fun protection => refNames.any protection.covers

/-- The rules of one action over all protections, in one list. -/
def allRules (protections : Protections) (action : Action) : List Rule :=
  protections.flatMap fun protection => protection.rulesFor action

/-- The rules of one action over all protections a ref falls under. -/
def rulesFor [PatternLimit] (protections : Protections) (refName : String) (kind : RefKind)
    (action : Action) : List Rule :=
  (protections.governing refName kind).allRules action

/-- The protections whose label contains the query, blanks around it dropped
and letter case set aside.  A blank query finds nothing. -/
def search (protections : Protections) (query : String) : Protections :=
  let needle := Text.trim query.toList
  if needle.isEmpty then []
  else
    protections.filter fun protection =>
      Text.contains (Text.lowerCase needle) (Text.lowerCase protection.label.toList)

/-- The protections that ask for code owner approval, of either kind. -/
def requiringApproval (protections : Protections) : Protections :=
  protections.filter Protection.codeOwnerApproval

/-- The labels, in order and with repetitions. -/
def labels (protections : Protections) : List String := protections.map Protection.label

variable {limit : PatternLimit}

/-- A ref falls under the protections of its kind that cover it. -/
@[simp] theorem mem_governing {protections : Protections} {refName : String} {kind : RefKind}
    {protection : Protection} :
    protection ∈ protections.governing refName kind ↔
      protection ∈ protections ∧ protection.kind = kind ∧ protection.covers refName = true := by
  simp only [governing, ofKind, List.mem_filter, beq_iff_eq, and_assoc]

/-- Each rule of the list is declared by some protection. -/
theorem mem_allRules {protections : Protections} {action : Action} {rule : Rule} :
    rule ∈ protections.allRules action ↔
      ∃ protection ∈ protections, rule ∈ protection.rulesFor action :=
  List.mem_flatMap

/-- The first push apart, a ref is protected if it falls under a protection. -/
theorem isProtected_iff {protections : Protections} {refName : String} {kind : RefKind}
    {project : Project} :
    protections.isProtected refName kind project = true ↔
      kind = .branch ∧ project.bootstrapProtected = true ∨
        protections.governing refName kind ≠ [] := by
  rw [isProtected, Bool.or_eq_true, Bool.and_eq_true, beq_iff_eq, List.any_eq_true, Ne,
    ← List.isEmpty_iff, Bool.not_eq_true, List.isEmpty_eq_false_iff_exists_mem]
  simp only [governing, List.mem_filter]

end Protections

/-- Everything a decision may depend on besides the request. -/
structure Policy where
  project : Project := {}
  protections : Protections := []
  features : Features := {}

end RefPolicy
