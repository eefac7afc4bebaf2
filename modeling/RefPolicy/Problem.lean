import RefPolicy.Evaluation
import RefPolicy.Settings.Load

/-!
# RefPolicy.Problem

Everything that can keep a question from being answered with yes, and how it
is reported.
-/

namespace RefPolicy

/-- What went wrong. -/
inductive Problem where
  | loading (error : LoadError)
  | naming (unknown : UnknownName)
  | refused (refusal : Refusal)

/-- The report of a problem. -/
def Problem.message : Problem → String
  | loading error => "Configuration error: " ++ error.message
  | naming unknown => "Invalid input: " ++ unknown.message
  | refused refusal => "Access denied: " ++ refusal.message

end RefPolicy
