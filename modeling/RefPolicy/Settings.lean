import RefPolicy.Evaluation

/-!
# RefPolicy.Settings

The contents of a policy file: how to log, which switches and extensions are
on, the state of the repository, and the protected refs with their grants.
Everything has a default.  `policy` and `bundled` build from it what requests
are decided with.
-/

namespace RefPolicy

/-- How log lines look. -/
inductive LogFormat where
  | pretty
  | json
  deriving DecidableEq

instance : Named LogFormat where
  all := [.pretty, .json]
  name
    | .pretty => "pretty"
    | .json => "json"

structure Logging where
  level : String := "warn"
  format : LogFormat := .pretty
  deriving DecidableEq

/-- Which bundled extensions are on. -/
structure ExtensionSwitches where
  codeOwnerApproval : Bool := false
  restrictedUnprotect : Bool := false
  /-- The role that `restrictedUnprotect` asks for. -/
  unprotectMinimum : Role := Bundled.defaultMinimum
  deriving DecidableEq

/-- A protected ref as a policy file declares it, grants listed by action. -/
structure ProtectedRef where
  label : String := ""
  kind : RefKind := .branch
  createdAt : Option Timestamp := none
  codeOwnerApproval : Bool := false
  push : List Grant := []
  merge : List Grant := []
  unprotect : List Grant := []
  deriving DecidableEq

/-- The protection a declaration describes: its rules are those for pushing,
then those for merging, then those for removal. -/
def ProtectedRef.toProtection (ref : ProtectedRef) : Protection :=
  let bare : Protection :=
    { pattern := ⟨ref.label⟩, kind := ref.kind, createdAt := ref.createdAt,
      codeOwnerApproval := ref.codeOwnerApproval }
  bare.allowAll .push ref.push |>.allowAll .merge ref.merge |>.allowAll .unprotect ref.unprotect

/-- The contents of a policy file. -/
structure Settings where
  logging : Logging := {}
  features : Features := {}
  project : Project := {}
  extensions : ExtensionSwitches := {}
  protectedRefs : List ProtectedRef := []
  deriving DecidableEq

namespace Settings

/-- The policy that the settings describe. -/
def policy (settings : Settings) : Policy where
  project := settings.project
  protections := settings.protectedRefs.map ProtectedRef.toProtection
  features := settings.features

/-- The extensions that are on, in the order they are asked. -/
def bundled (settings : Settings) : List Bundled :=
  (if settings.extensions.codeOwnerApproval then [.codeOwnerApproval] else []) ++
    if settings.extensions.restrictedUnprotect then
      [.restrictedUnprotect settings.extensions.unprotectMinimum]
    else []

/-- What the extensions that are on do. -/
def extensionsInUse [PatternLimit] (settings : Settings) : List Extension :=
  settings.bundled.map Bundled.toExtension

end Settings

end RefPolicy
