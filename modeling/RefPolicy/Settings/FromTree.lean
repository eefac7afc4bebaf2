import RefPolicy.Settings
import RefPolicy.Tree.Section

/-!
# RefPolicy.Settings.FromTree

Settings read from a configuration tree, with the conversions of
`RefPolicy.Tree`: every section is given by its fields.

A grant is a table with one key.  Written as the bare name of a sort of actor
it has no one to speak of, and reading it cannot go on: that is a defect of
its own.
-/

namespace RefPolicy

open RefPolicy.Tree

/-- The sorts of actor a grant may name. -/
def Grant.sorts : List String := ["role", "user", "group", "deploy_key"]

def Grant.ofTree : Tree → Except Defect Grant
  | .table [(key, who)] =>
    match key with
    | "role" => (leaf name? who).map .role
    | "user" => (leaf id? who).map .user
    | "group" => (leaf id? who).map .group
    | "deploy_key" => (leaf id? who).map .deployKey
    | _ => .error .mismatch
  | .text word => if word ∈ sorts then .error .bareGrant else .error .mismatch
  | _ => .error .mismatch

/-- A timestamp that may be left empty. -/
def Timestamp.ofTree : Tree → Except Defect (Option Timestamp)
  | .absent => .ok none
  | tree => (leaf (fun tree => tree.text?.bind Timestamp.parse?) tree).map some

def Logging.layout : Layout Logging where
  default := {}
  fields :=
    [.of "level" (leaf text?) level fun level logging => { logging with level },
      .of "format" (leaf name?) format fun format logging => { logging with format }]

def Features.layout : Layout Features where
  default := {}
  fields :=
    [.of "deploy_key_grants" (leaf flag?) deployKeyGrants fun deployKeyGrants _ =>
      { deployKeyGrants }]

def Project.layout : Layout Project where
  default := {}
  fields :=
    [.of "empty_repository" (leaf flag?) emptyRepository fun emptyRepository project =>
        { project with emptyRepository },
      .of "default_branch_protected" (leaf flag?) defaultBranchProtected
        fun defaultBranchProtected project => { project with defaultBranchProtected },
      .of "default_branch" (leaf text?) defaultBranch fun defaultBranch project =>
        { project with defaultBranch }]

def ExtensionSwitches.layout : Layout ExtensionSwitches where
  default := {}
  fields :=
    [.of "code_owner_approval" (leaf flag?) codeOwnerApproval fun codeOwnerApproval extensions =>
        { extensions with codeOwnerApproval },
      .of "restricted_unprotect" (leaf flag?) restrictedUnprotect
        fun restrictedUnprotect extensions => { extensions with restrictedUnprotect },
      .of "unprotect_min_role" (leaf name?) unprotectMinimum fun unprotectMinimum extensions =>
        { extensions with unprotectMinimum }]

def ProtectedRef.layout : Layout ProtectedRef where
  default := {}
  fields :=
    [.of "name" (leaf text?) label fun label ref => { ref with label },
      .of "kind" (leaf name?) kind fun kind ref => { ref with kind },
      .of "created_at" Timestamp.ofTree createdAt fun createdAt ref => { ref with createdAt },
      .of "code_owner_approval_required" (leaf flag?) codeOwnerApproval
        fun codeOwnerApproval ref => { ref with codeOwnerApproval },
      .of "push" (listOf Grant.ofTree) push fun push ref => { ref with push },
      .of "merge" (listOf Grant.ofTree) merge fun merge ref => { ref with merge },
      .of "unprotect" (listOf Grant.ofTree) unprotect fun unprotect ref =>
        { ref with unprotect }]

/-- The sections of settings are themselves read in the order of the machine. -/
def Settings.layout (tables : Order) : Layout Settings where
  default := {}
  fields :=
    [.of "logging" (Logging.layout.read tables) logging fun logging settings =>
        { settings with logging },
      .of "features" (Features.layout.read tables) features fun features settings =>
        { settings with features },
      .of "project" (Project.layout.read tables) project fun project settings =>
        { settings with project },
      .of "extensions" (ExtensionSwitches.layout.read tables) extensions
        fun extensions settings => { settings with extensions },
      .of "protected_refs" (listOf (ProtectedRef.layout.read tables)) protectedRefs
        fun protectedRefs settings => { settings with protectedRefs }]

def Settings.ofTree (tables : Order) : Tree → Except Defect Settings :=
  (layout tables).read tables

end RefPolicy
