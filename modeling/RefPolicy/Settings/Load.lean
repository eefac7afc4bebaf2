import RefPolicy.Settings.FromTree
import RefPolicy.Settings.Source

/-!
# RefPolicy.Settings.Load

Loading settings: find the policy file, lay the environment over it, give it
types, and check what types cannot.

A path that is given has to exist.  Without one, the first candidate that
exists is read, and none has to.  What exists under a name but is no file is
looked for once more with `.toml` added to the name.

Two things end the program where it stands: a grant that names no one, and a
key that would have a list get longer than there is room for.
-/

namespace RefPolicy

/-- What reading a policy can break off at. -/
inductive Breakdown where
  /-- A grant without anyone to speak of. -/
  | bareGrant
  /-- A list that there is no room for. -/
  | noRoom
  deriving DecidableEq

/-- Why settings could not be loaded. -/
inductive LoadError where
  /-- The path that was given names nothing. -/
  | notFound (path : String)
  /-- The file is not a document, or the document does not describe settings. -/
  | malformed (detail : String)
  /-- The program does not live to report it. -/
  | brokenOff (cause : Breakdown)
  | missing (field : String)
  | invalid (detail : String)
  | io (detail : String)
  deriving DecidableEq

def LoadError.message : LoadError → String
  | notFound path => "Failed to load configuration: Configuration file not found: " ++ path
  | malformed detail => "Failed to load configuration: " ++ detail
  | brokenOff .bareGrant => "Failed to load configuration: a grant names no one"
  | brokenOff .noRoom => "Failed to load configuration: a list is too long"
  | missing field => "Missing required configuration: " ++ field
  | invalid detail => "Invalid configuration: " ++ detail
  | io detail => "IO error: " ++ detail

/-! ## Documents -/

/-- Types for a tree. -/
def Settings.typed (machine : Machine) (tree : Tree) : Except LoadError Settings :=
  match Settings.ofTree machine.tables tree with
  | .ok settings => .ok settings
  | .error .mismatch => .error (.malformed "the document does not describe a policy")
  | .error .bareGrant => .error (.brokenOff .bareGrant)

/-- The default branch and the log level may not be blank. -/
def Settings.checked (settings : Settings) : Except LoadError Settings :=
  if (Text.trim settings.project.defaultBranch.toList).isEmpty then
    .error (.missing "project.default_branch")
  else if (Text.trim settings.logging.level.toList).isEmpty then
    .error (.invalid "logging.level must not be empty")
  else .ok settings

/-- A tree with a source over it. -/
def Tree.withSource (machine : Machine) (tree : Tree) (source : List (String × Tree)) :
    Except LoadError Tree :=
  (tree.addSource machine source).elim (.error (.brokenOff .noRoom)) .ok

/-- The tree of a document; no text is an empty document. -/
def Tree.ofDocument (machine : Machine) (text : Option String) : Except LoadError Tree :=
  match text with
  | none => .ok (.table [])
  | some text =>
    match Toml.parse? text with
    | some entries => (Tree.table []).withSource machine (Tree.ofTomlEntries entries)
    | none => .error (.malformed "the text is not a TOML document")

/-- Settings from a document and the environment, the environment winning. -/
def Settings.ofSources (machine : Machine) (text : Option String) (environment : List Variable) :
    Except LoadError Settings := do
  let file ← Tree.ofDocument machine text
  let tree ← file.withSource machine (Variable.source environment)
  let settings ← Settings.typed machine tree
  settings.checked

/-- Settings from a document alone. -/
def Settings.parse (machine : Machine) (text : String) : Except LoadError Settings :=
  Settings.ofSources machine (some text) []

/-! ## Files -/

/-- What a path leads to. -/
inductive Entry where
  | file (text : String)
  /-- A directory, or a device, a pipe or anything else that is not a file. -/
  | noFile

/-- A place to look for a policy file: a path as given, one below the home
directory, or the file beside the working directory that is called like it,
with `.toml` after the name. -/
inductive Place where
  | path (path : String)
  | home (path : String)
  | besideWorking
  deriving DecidableEq

namespace Place

/-- Cut off slashes and `.` components at the end of a path. -/
def withoutTail : List Char → List Char
  | '/' :: rest => withoutTail rest
  | '.' :: '/' :: rest => withoutTail ('/' :: rest)
  | reversed => reversed

/-- The same path with `.toml` after its last name.  Nothing is called like the
root or like what `..` leads to. -/
def suffixed (path : String) : Option String :=
  let reversed := withoutTail path.toList.reverse
  let name := reversed.takeWhile (· != '/')
  if name = [] ∨ name = ['.', '.'] then none
  else some (String.ofList reversed.reverse ++ ".toml")

/-- The place to look at when there is no file at a place that exists.  The
working directory goes by its own name. -/
def secondTry : Place → Option Place
  | path p =>
    if withoutTail p.toList.reverse = ['.'] then some besideWorking else (suffixed p).map path
  | home p => (suffixed p).map home
  | besideWorking => none

/-- Where to look when no path is given, in order. -/
def candidates : List Place :=
  [path "refguard.toml", path ".refguard.toml", home ".config/refguard/config.toml",
    path "/etc/refguard/config.toml"]

/-- Every place that loading may look at. -/
def consulted (given : Option String) : List Place :=
  let first := given.elim candidates fun p => [path p]
  first ++ first.filterMap secondTry

end Place

/-- The text of the file at a place that exists. -/
def fileAt (lookUp : Place → Option Entry) (place : Place) : Except LoadError String :=
  match lookUp place, place.secondTry.bind lookUp with
  | some (.file text), _ => .ok text
  | _, some (.file text) => .ok text
  | _, _ => .error (.malformed "the configuration is not a file")

/-- The text of the policy file: at the path given, or the first candidate. -/
def policyText (lookUp : Place → Option Entry) (given : Option String) :
    Except LoadError (Option String) :=
  match given with
  | some path =>
    if (lookUp (.path path)).isSome then (fileAt lookUp (.path path)).map some
    else .error (.notFound path)
  | none =>
    match Place.candidates.find? fun place => (lookUp place).isSome with
    | some place => (fileAt lookUp place).map some
    | none => .ok none

/-- Load settings. -/
def Settings.load (machine : Machine) (lookUp : Place → Option Entry)
    (environment : List Variable) (given : Option String) : Except LoadError Settings :=
  (policyText lookUp given).bind fun text => Settings.ofSources machine text environment

end RefPolicy
