import RefPolicy.CommandLine.Run

/-!
# RefPolicy.Main

The command line program.  It collects what a run may look at — arguments,
environment variables, and the places a policy file may be — and prints what
the run leaves behind.
-/

open RefPolicy

/-- Run something that may fail. -/
def attempt {α : Type} (action : IO α) : IO (Option α) := do
  try return some (← action)
  catch _ => return none

/-- The text of what a path leads to, if that is a file. -/
def fileText (path : String) : IO (Option String) := do
  let target ← IO.FS.realPath path
  match (← target.metadata).type with
  | .file => return some (← IO.FS.readFile target)
  | _ => return none

/-- What a path leads to on this machine.  A file that cannot be read counts as
something else that exists. -/
def entryAt (path : String) : IO (Option Entry) := do
  match ← attempt (IO.FS.realPath path), ← attempt (fileText path) with
  | some _, some (some text) => return some (.file text)
  | some _, _ => return some .noFile
  | none, _ => return none

/-- What a place leads to on this machine. -/
def entryOf : Place → IO (Option Entry)
  | .path path => entryAt path
  | .home path => do
    match ← IO.getEnv "HOME" with
    | some directory => entryAt (directory ++ "/" ++ path)
    | none => return none
  | .besideWorking => do
    match Place.suffixed (← IO.currentDir).toString with
    | some path => entryAt path
    | none => return none

/-- The environment variables of this process. -/
def environmentVariables : IO (List Variable) := do
  try
    let text ← IO.FS.readFile "/proc/self/environ"
    return (text.splitToList (· == '\x00')).filterMap fun entry =>
      let label := entry.toList.takeWhile (· != '=')
      if label.length < entry.length then
        some ⟨String.ofList label, String.ofList (entry.toList.drop (label.length + 1))⟩
      else none
  catch _ => return []

def main (arguments : List String) : IO UInt32 := do
  let environment ← environmentVariables
  let fallback := CommandLine.lookUpVariable environment "REFGUARD_CONFIG"
  let given := match CommandLine.parse fallback arguments with
    | .ask config _ _ => config
    | _ => none
  let entries ← (Place.consulted given).mapM fun place => return (place, ← entryOf place)
  let lookUp (place : Place) : Option Entry :=
    (entries.find? fun entry => entry.1 == place).bind Prod.snd
  let outcome := CommandLine.run .standard lookUp environment arguments
  IO.print outcome.output
  IO.eprint outcome.complaint
  return outcome.status.toUInt32
