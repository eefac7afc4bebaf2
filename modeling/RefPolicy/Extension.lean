import RefPolicy.Policy
import RefPolicy.Decision
import RefPolicy.Text.Quoted

/-!
# RefPolicy.Extension

Policy extensions.  An extension may settle a request before the protections
are asked, and may demand code owner approval for merges into a branch.  Two
come with the library; `Bundled` lists them.
-/

namespace RefPolicy

/-- A named addition to the policy; by default it has no say in anything. -/
structure Extension where
  label : String
  preCheck : Request → Policy → Option Decision := fun _ _ => none
  requiresApproval : String → Policy → Bool := fun _ _ => false

namespace Extension

/-- Merges into a branch need code owner approval when a protection the
branch falls under asks for it. -/
def codeOwnerApproval [PatternLimit] : Extension where
  label := "code_owner_approval"
  requiresApproval branch policy :=
    (policy.protections.governing branch .branch).any Protection.codeOwnerApproval

/-- The protections without unprotect rules, which anyone may remove. -/
def openLabels (governing : Protections) : List String :=
  Protections.labels (governing.filter fun protection => (protection.rulesFor .unprotect).isEmpty)

/-- Removing a protection without unprotect rules takes at least the role
`minimum`, unless another protection of the ref grants the removal. -/
def restrictedUnprotect [PatternLimit] (minimum : Role) : Extension where
  label := "restricted_unprotect"
  preCheck request policy :=
    let governing := policy.protections.governing request.refName request.kind
    let granted := governing.any fun protection =>
      (protection.ruleSet .unprotect policy.features).grants request.actor
    if request.action != .unprotect then none
    else if request.actor.admin || decide (minimum ≤ request.actor.role) then none
    else if (openLabels governing).isEmpty then none
    else if granted then none
    else
      some <| .denied
        ("unprotecting '" ++ request.refName ++ "' requires at least the " ++ name minimum ++ " role")
        (openLabels governing)

/-- An extension that gives every request the same answer. -/
def fixed (label : String) (answer : Option Decision) (approval : Bool) : Extension where
  label
  preCheck _ _ := answer
  requiresApproval _ _ := approval

end Extension

/-- The extensions a policy file can switch on. -/
inductive Bundled where
  | codeOwnerApproval
  | restrictedUnprotect (minimum : Role)
  deriving DecidableEq

/-- The role removals take when nothing else is said. -/
def Bundled.defaultMinimum : Role := .maintainer

/-- What a bundled extension does. -/
def Bundled.toExtension [PatternLimit] : Bundled → Extension
  | codeOwnerApproval => .codeOwnerApproval
  | restrictedUnprotect minimum => .restrictedUnprotect minimum

/-- A one-line description of the extensions at work, for diagnostics. -/
def Extension.describe (extensions : List Extension) : String :=
  "AccessEvaluator \x7b extensions: [" ++
    ", ".intercalate (extensions.map fun extension => Text.quoted extension.label) ++ "] \x7d"

end RefPolicy
