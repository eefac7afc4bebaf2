import RefPolicy.Evaluation
import RefPolicy.Json

/-!
# RefPolicy.Report

Answers as text for people or as JSON for programs.  JSON is compact, with
the members of every object in alphabetical order.
-/

namespace RefPolicy

/-- The two forms of a report. -/
inductive OutputFormat where
  | text
  | json
  deriving DecidableEq

namespace OutputFormat

instance : Named OutputFormat where
  all := [text, json]
  name
    | text => "text"
    | json => "json"

/-- A form is read back from its name. -/
@[simp] theorem ofName?_name (format : OutputFormat) :
    Named.ofName? (name format) = some format :=
  Named.ofName?_name (fun a => by cases a <;> decide)
    (fun a b => by cases a <;> cases b <;> decide) format

/-- The form used when none is asked for. -/
def default : OutputFormat := text

/-- Read the name of a form. -/
def parse (word : String) : Except UnknownName OutputFormat :=
  (Named.ofName? word).elim (.error (.outputFormat word)) .ok

end OutputFormat

/-! ## Values in JSON -/

/-- A name of a vocabulary. -/
def Json.ofName {α : Type} [Named α] (value : α) : Json := .ofText (name value)

/-- A grant: its sort, and who. -/
def Grant.toJson : Grant → Json
  | role threshold => .ofMembers [("role", .ofName threshold)]
  | user id => .ofMembers [("user", .ofId id)]
  | group id => .ofMembers [("group", .ofId id)]
  | deployKey id => .ofMembers [("deploy_key", .ofId id)]

/-- A protection with its grants by action. -/
def Protection.toJson [limit : PatternLimit] (protection : Protection) : Json :=
  let grants (action : Action) : Json := .array ((protection.grantsFor action).map Grant.toJson)
  .ofMembers [
    ("code_owner_approval_required", .bool protection.codeOwnerApproval),
    ("created_at", .ofOptionalText (protection.createdAt.map Timestamp.text)),
    ("kind", .ofName protection.kind),
    ("merge", grants .merge),
    ("name", .ofText protection.label),
    ("push", grants .push),
    ("unprotect", grants .unprotect),
    ("wildcard", .bool (protection.pattern.isWildcard limit.fits))]

/-- What is asked, and by whom. -/
def Request.members (request : Request) : List (String × Json) :=
  [("action", .ofName request.action), ("actor", .ofId request.actor.id),
    ("kind", .ofName request.kind), ("ref", .ofText request.refName)]

/-- What there is to say about a decision depends on which it is. -/
def Decision.members (decision : Decision) : List (String × Json) :=
  ("decision", .ofText decision.word) ::
    match decision with
    | allowed reason => [("reason", .ofText reason)]
    | denied reason governing =>
      [("governing", .array (governing.map .ofText)), ("reason", .ofText reason)]
    | ungoverned => []

/-- A request with its answer, in one object. -/
def Decision.toJson (request : Request) (decision : Decision) : Json :=
  .ofMembers (Json.putMembers request.members decision.members)

namespace Report

/-! ## Decisions -/

/-- A request and its answer in one line. -/
def decisionLine (request : Request) (decision : Decision) : String :=
  name request.action ++ " " ++ name request.kind ++ " '" ++ request.refName ++ "' by user " ++
    request.actor.id.text ++ ": " ++ decision.text ++
    if decision.governing.isEmpty then ""
    else " (governed by " ++ ", ".intercalate decision.governing ++ ")"

/-- Report a decision. -/
def decision (format : OutputFormat) (request : Request) (decision : Decision) : String :=
  match format with
  | .text => decisionLine request decision
  | .json => (decision.toJson request).text

/-! ## Which refs are protected -/

def protectionLine (result : String × Bool) : String :=
  result.1 ++ ": " ++ if result.2 then "protected" else "unprotected"

def protectionJson (result : String × Bool) : Json :=
  .ofMembers [("protected", .bool result.2), ("ref", .ofText result.1)]

/-- Report for each ref name whether it is protected. -/
def protection (format : OutputFormat) (results : List (String × Bool)) : String :=
  match format with
  | .text => "\n".intercalate (results.map protectionLine)
  | .json => Json.text (.array (results.map protectionJson))

/-! ## Lists of protections -/

/-- The grants of an action, or what their absence means. -/
def grantsText (protection : Protection) (action : Action) : String :=
  match protection.grantsFor action with
  | [] => if action = .unprotect then "anyone" else "no one"
  | grants => ", ".intercalate (grants.map Grant.text)

/-- A protection in four lines, each with its line feed. -/
def protectionBlock (protection : Protection) : List Char :=
  let grantsLine (action : Action) :=
    "  " ++ name action ++ ": " ++ grantsText protection action ++ "\n"
  (protection.label ++ " (" ++ name protection.kind ++ ")\n" ++ grantsLine .push ++
    grantsLine .merge ++ grantsLine .unprotect).toList

/-- Report a list of protections.  As text, nothing blank ends the report. -/
def protections [PatternLimit] (format : OutputFormat) (listed : Protections) : String :=
  match format with
  | .text => String.ofList (Text.trimEnd (listed.flatMap protectionBlock))
  | .json => Json.text (.array (listed.map Protection.toJson))

end Report

end RefPolicy
