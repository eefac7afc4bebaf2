import RefPolicy.CommandLine.Usage
import RefPolicy.Problem

/-!
# RefPolicy.CommandLine.Run

A run of the program: what it prints and how it exits, from its arguments,
its environment and the files it can see.

The exit status is 0 for a granted request and any other answered question, 1
for a request that was not granted, 2 for mistakes in the arguments or the
policy file, and 101 when reading the policy file breaks off.
-/

namespace RefPolicy.CommandLine

/-- What a run leaves behind. -/
structure Outcome where
  status : Nat
  output : String := ""
  complaint : String := ""
  deriving DecidableEq

/-- Print a line and exit. -/
def printing (status : Nat) (line : String) : Outcome := { status, output := line ++ "\n" }

/-- Answer a question. -/
def answer [PatternLimit] (settings : Settings) (format : OutputFormat) : Command → Outcome
  | .check request =>
    let decision := settings.policy.evaluate settings.extensionsInUse request
    printing (if decision.isAllowed then 0 else 1) (Report.decision format request decision)
  | .areProtected refNames kind =>
    let policy := settings.policy
    printing 0 <| Report.protection format <| refNames.map fun refName =>
      (refName, policy.protections.isProtected refName kind policy.project)
  | .list search kind =>
    let protections := settings.policy.protections
    let found := match search with
      | some query => protections.search query
      | none => protections
    printing 0 (Report.protections format (Protections.ofKind found kind))

/-- The exit status of a run that could not load its settings. -/
def failureStatus : LoadError → Nat
  | .brokenOff _ => 101
  | _ => 2

/-- How a run ends that could not load its settings. -/
def failing (error : LoadError) : Outcome where
  status := failureStatus error
  complaint := "refguard: " ++ error.message ++ "\n"

/-- The value of an environment variable. -/
def lookUpVariable (environment : List Variable) (label : String) : Option String :=
  (environment.find? fun entry => entry.label == label).map Variable.value

/-- Run the program. -/
def run [PatternLimit] (machine : Machine) (lookUp : Place → Option Entry)
    (environment : List Variable) (arguments : List String) : Outcome :=
  match parse (lookUpVariable environment "REFGUARD_CONFIG") arguments with
  | .ask config format command =>
    match Settings.load machine lookUp environment config with
    | .ok settings => answer settings format command
    | .error error => failing error
  | .showVersion => printing 0 versionText
  | .showHelp topic =>
    { status := 0,
      output :=
        helpText
          { config := (lookUpVariable environment "REFGUARD_CONFIG").getD "",
            logLevel := (lookUpVariable environment "REFGUARD_LOG_LEVEL").getD "" }
          topic }
  | .mistake => { status := 2, complaint := "error: invalid arguments; try --help\n" }

end RefPolicy.CommandLine
