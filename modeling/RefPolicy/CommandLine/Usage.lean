import RefPolicy.CommandLine

/-!
# RefPolicy.CommandLine.Usage

The texts that describe the program: its version, and help on the program
and on each of its commands.
-/

namespace RefPolicy.CommandLine

def versionText : String := "refguard 0.1.0"

/-- The settings of the environment that help mentions. -/
structure Environment where
  config : String := ""
  logLevel : String := ""

/-- The longest line of a help text. -/
def lineWidth : Nat := 100

/-- Put words on lines of at most `width` characters; `line` is the line so far. -/
def fill (width : Nat) (line : String) : List String → List String
  | [] => [line]
  | word :: rest =>
    if line.length + 1 + word.length ≤ width then fill width (line ++ " " ++ word) rest
    else line :: fill width word rest

/-- The lines of a text that has `width` characters on each line. -/
def lines (width : Nat) (text : String) : List String :=
  match text.splitToList (· == ' ') with
  | [] => []
  | word :: rest => fill width word rest

/-- As many blanks. -/
def blanks (count : Nat) : String := String.ofList (List.replicate count ' ')

/-- Two columns, the second one aligned. -/
def columns (rows : List (String × String)) : String :=
  let width := rows.foldl (fun width row => max width row.1.length) 0
  String.join <| rows.map fun (left, right) =>
    "  " ++ left ++ blanks (width + 2 - left.length) ++
      ("\n" ++ blanks (width + 4)).intercalate (lines (lineWidth - (width + 4)) right) ++ "\n"

def configRow (environment : Environment) : String × String :=
  ("-c, --config <CONFIG>",
    "Path to configuration file [env: REFGUARD_CONFIG=" ++ environment.config ++ "]")

def logLevelRow (environment : Environment) : String × String :=
  ("    --log-level <LOG_LEVEL>",
    "Log level (trace, debug, info, warn, error); overrides the config file " ++
      "[env: REFGUARD_LOG_LEVEL=" ++ environment.logLevel ++ "]")

def outputRow : String × String :=
  ("-o, --output <OUTPUT>", "Output format (text, json) [default: text]")

def helpRow : String × String := ("-h, --help", "Print help")

/-- The help text on a topic. -/
def helpText (environment : Environment) : Topic → String
  | .program =>
    "Protected branch and tag access evaluation for code hosting platforms\n\n" ++
      "Usage: refguard [OPTIONS] <COMMAND>\n\nCommands:\n" ++
      columns [
        ("check", "Check whether an actor may push, merge or unprotect a ref"),
        ("protected", "Report whether refs are protected"),
        ("list", "List protected refs"),
        ("help", "Print this message or the help of the given subcommand(s)")] ++
      "\nOptions:\n" ++
      columns [configRow environment, logLevelRow environment, outputRow, helpRow,
        ("-V, --version", "Print version")]
  | .check =>
    "Check whether an actor may push, merge or unprotect a ref\n\n" ++
      "Usage: refguard check [OPTIONS] --ref <REF_NAME> --action <ACTION> --user <USER>\n\n" ++
      "Options:\n" ++
      columns [configRow environment,
        ("    --ref <REF_NAME>", "Ref name"),
        ("    --action <ACTION>", "Action (push, merge, unprotect)"),
        logLevelRow environment, outputRow,
        ("    --user <USER>", "Actor user id"),
        ("    --role <ROLE>", "Actor's maximum role in the project [default: no_access]"),
        ("    --admin", "Actor is an instance administrator"),
        ("    --group <GROUPS>", "Group the actor belongs to (repeatable)"),
        ("    --deploy-key <DEPLOY_KEY>", "Deploy key the actor authenticates with"),
        ("    --tag", "Treat the ref as a tag"), helpRow]
  | .areProtected =>
    "Report whether refs are protected\n\n" ++
      "Usage: refguard protected [OPTIONS] <REFS>...\n\nArguments:\n" ++
      columns [("<REFS>...", "Ref names")] ++ "\nOptions:\n" ++
      columns [configRow environment, logLevelRow environment,
        ("    --tag", "Treat the refs as tags"), outputRow, helpRow]
  | .list =>
    "List protected refs\n\nUsage: refguard list [OPTIONS]\n\nOptions:\n" ++
      columns [configRow environment,
        ("    --search <SEARCH>", "Case-insensitive name filter"),
        logLevelRow environment,
        ("    --tag", "Only list tags (branches otherwise)"), outputRow, helpRow]
  | .help =>
    "Print this message or the help of the given subcommand(s)\n\n" ++
      "Usage: refguard help [COMMAND]...\n\nArguments:\n" ++
      columns [("[COMMAND]...", "Print help for the subcommand(s)")]

end RefPolicy.CommandLine
