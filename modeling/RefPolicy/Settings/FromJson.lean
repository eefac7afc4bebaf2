import RefPolicy.Json.Fields
import RefPolicy.Json.Reader
import RefPolicy.Settings

/-!
# RefPolicy.Settings.FromJson

The types of a policy read from JSON.  Nothing is converted: a number is not
a name, a string is not a number, and only `createdAt` and `deployKey` may be
`null`.
-/

namespace RefPolicy

open Json

/-- A grant is an object with one member: the sort of actor, and who. -/
def Grant.ofJson? (value : Json) : Option Grant :=
  (onlyMember value).bind fun (key, who) =>
    match key with
    | "role" => (asName who).map .role
    | "user" => (asId who).map .user
    | "group" => (asId who).map .group
    | "deploy_key" => (asId who).map .deployKey
    | _ => none

def Rule.ofJson? (value : Json) : Option Rule := do
  let field ← value.record? ["action", "grant"]
  let action ← required asName (field "action")
  let grant ← required Grant.ofJson? (field "grant")
  some ⟨action, grant⟩

def Actor.ofJson? (value : Json) : Option Actor := do
  let field ← value.record? ["id", "role_tier", "groups", "admin", "deploy_key"]
  let id ← required asId (field "id")
  let role ← required asName (field "role_tier")
  let groups ← orDefault [] (listOf asId) (field "groups")
  let admin ← orDefault false asBool (field "admin")
  let deployKey ← orDefault none (nullable asId) (field "deploy_key")
  some { id, role, groups := .ofList groups, admin, deployKey }

/-- A timestamp is a string that writes one. -/
def Timestamp.ofJson? (value : Json) : Option Timestamp := (asText value).bind Timestamp.parse?

def Features.ofJson? (value : Json) : Option Features := do
  let field ← value.record? ["deploy_key_grants"]
  let deployKeyGrants ← orDefault false asBool (field "deploy_key_grants")
  some { deployKeyGrants }

/-- The fields of a project, in order. -/
def Project.fieldNames : List String :=
  ["empty_repository", "default_branch_protected", "default_branch"]

/-- A project on its own, every field given. -/
def Project.ofJson? (value : Json) : Option Project := do
  let field ← value.record? fieldNames
  let emptyRepository ← required asBool (field "empty_repository")
  let defaultBranchProtected ← required asBool (field "default_branch_protected")
  let defaultBranch ← required asText (field "default_branch")
  some { emptyRepository, defaultBranchProtected, defaultBranch }

/-- A project inside settings, where fields may be left out. -/
def Project.ofSettingsJson? (value : Json) : Option Project := do
  let field ← value.record? fieldNames
  let default : Project := {}
  let emptyRepository ← orDefault default.emptyRepository asBool (field "empty_repository")
  let defaultBranchProtected ←
    orDefault default.defaultBranchProtected asBool (field "default_branch_protected")
  let defaultBranch ← orDefault default.defaultBranch asText (field "default_branch")
  some { emptyRepository, defaultBranchProtected, defaultBranch }

def Logging.ofJson? (value : Json) : Option Logging := do
  let field ← value.record? ["level", "format"]
  let default : Logging := {}
  let level ← orDefault default.level asText (field "level")
  let format ← orDefault default.format asName (field "format")
  some { level, format }

def ExtensionSwitches.ofJson? (value : Json) : Option ExtensionSwitches := do
  let field ← value.record? ["code_owner_approval", "restricted_unprotect", "unprotect_min_role"]
  let default : ExtensionSwitches := {}
  let codeOwnerApproval ← orDefault default.codeOwnerApproval asBool (field "code_owner_approval")
  let restrictedUnprotect ←
    orDefault default.restrictedUnprotect asBool (field "restricted_unprotect")
  let unprotectMinimum ← orDefault default.unprotectMinimum asName (field "unprotect_min_role")
  some { codeOwnerApproval, restrictedUnprotect, unprotectMinimum }

/-- The fields of a protected ref, in order. -/
def ProtectedRef.fieldNames : List String :=
  ["name", "kind", "created_at", "code_owner_approval_required", "push", "merge", "unprotect"]

def ProtectedRef.ofJson? (value : Json) : Option ProtectedRef := do
  let field ← value.record? fieldNames
  let default : ProtectedRef := {}
  let label ← orDefault default.label asText (field "name")
  let kind ← orDefault default.kind asName (field "kind")
  let createdAt ← orDefault none (nullable Timestamp.ofJson?) (field "created_at")
  let codeOwnerApproval ←
    orDefault default.codeOwnerApproval asBool (field "code_owner_approval_required")
  let push ← orDefault [] (listOf Grant.ofJson?) (field "push")
  let merge ← orDefault [] (listOf Grant.ofJson?) (field "merge")
  let unprotect ← orDefault [] (listOf Grant.ofJson?) (field "unprotect")
  some { label, kind, createdAt, codeOwnerApproval, push, merge, unprotect }

def Settings.ofJson? (value : Json) : Option Settings := do
  let field ← value.record? ["logging", "features", "project", "extensions", "protected_refs"]
  let logging ← orDefault {} Logging.ofJson? (field "logging")
  let features ← orDefault {} Features.ofJson? (field "features")
  let project ← orDefault {} Project.ofSettingsJson? (field "project")
  let extensions ← orDefault {} ExtensionSwitches.ofJson? (field "extensions")
  let protectedRefs ← orDefault [] (listOf ProtectedRef.ofJson?) (field "protected_refs")
  some { logging, features, project, extensions, protectedRefs }

end RefPolicy
