import RefPolicy.Report

/-!
# RefPolicy.CommandLine

The arguments of the command line program.

Options may stand before and after the name of the command; a later place
wins.  A value follows its option as the next argument, after `=`, or — for
the short form — at once.  An argument that begins with `-` is never a value
unless it is `-` alone.  After `--` every argument is a word.  An option with
one value may be given once in each place.

Arguments are read from left to right, and the first one that settles the
outcome does: a mistake, or a request for help or for the version.
-/

namespace RefPolicy.CommandLine

/-! ## Arguments as items -/

/-- An option by its names; a switch takes no value. -/
structure Opt where
  long : String
  short : Option Char := none
  takesValue : Bool := true

/-- What an argument, with its value, stands for. -/
inductive Item where
  | switch (long : String)
  | value (long : String) (text : String)
  | word (text : String)
  | mistake
  deriving DecidableEq

/-- May an argument be the value of the option before it? -/
def isPlainWord (argument : String) : Bool :=
  match argument.toList with
  | '-' :: _ :: _ => false
  | _ => true

/-- An option whose value is the next argument. -/
def takeNext (long : String) : List String → Item × List String
  | [] => (.mistake, [])
  | argument :: rest =>
    if isPlainWord argument then (.value long argument, rest) else (.mistake, argument :: rest)

/-- An argument that began with `--`, without it. -/
def longItem (options : List Opt) (body : List Char) (rest : List String) : Item × List String :=
  let written := body.takeWhile (· != '=')
  match options.find? fun option => option.long.toList == written, body.drop written.length with
  | none, _ => (.mistake, rest)
  | some option, '=' :: text =>
    (if option.takesValue then .value option.long (String.ofList text) else .mistake, rest)
  | some option, _ =>
    if option.takesValue then takeNext option.long rest else (.switch option.long, rest)

/-- The letters of an argument that began with `-`. -/
def shortItems (options : List Opt) (rest : List String) : List Char → List Item × List String
  | [] => ([], rest)
  | c :: letters =>
    match options.find? fun option => option.short == some c with
    | none => ([.mistake], rest)
    | some option =>
      if option.takesValue then
        match letters with
        | [] => let (item, rest) := takeNext option.long rest; ([item], rest)
        | '=' :: text => ([.value option.long (String.ofList text)], rest)
        | text => ([.value option.long (String.ofList text)], rest)
      else
        let (items, rest) := shortItems options rest letters
        (.switch option.long :: items, rest)

/-- The items of the first argument, and the arguments after them. -/
def itemsOf (options : List Opt) (argument : String) (rest : List String) :
    List Item × List String :=
  match argument.toList with
  | '-' :: '-' :: body => let (item, rest) := longItem options body rest; ([item], rest)
  | '-' :: c :: letters => shortItems options rest (c :: letters)
  | _ => ([.word argument], rest)

/-- The items of all arguments.  The bound is their number. -/
def itemsUpTo (options : List Opt) : Nat → List String → List Item
  | _, [] => []
  | 0, _ => []
  | bound + 1, argument :: rest =>
    if argument = "--" then rest.map .word
    else
      let (items, rest) := itemsOf options argument rest
      items ++ itemsUpTo options bound rest

/-- The items of all arguments. -/
def items (options : List Opt) (arguments : List String) : List Item :=
  itemsUpTo options arguments.length arguments

/-- The items before the first word, and the word with the arguments after
it.  A word after `--` is not found. -/
def itemsBeforeWord (options : List Opt) :
    Nat → List String → List Item × Option (String × List String)
  | _, [] => ([], none)
  | 0, _ => ([], none)
  | bound + 1, argument :: rest =>
    if argument = "--" then (rest.map .word, none)
    else
      match itemsOf options argument rest with
      | ([.word text], rest) => ([], some (text, rest))
      | (items, rest) =>
        let (more, command) := itemsBeforeWord options bound rest
        (items ++ more, command)

/-! ## Options and their values -/

/-- What settles the outcome before any question is asked. -/
inductive Stop where
  | mistake
  | help
  | version
  deriving DecidableEq

/-- Everything that arguments may give, each at most once but groups and words. -/
structure Given where
  config : Option String := none
  logLevel : Option String := none
  output : Option OutputFormat := none
  refName : Option String := none
  action : Option Action := none
  user : Option Id := none
  role : Option Role := none
  admin : Option Unit := none
  groups : List Id := []
  deployKey : Option Id := none
  tag : Option Unit := none
  search : Option String := none
  words : List String := []

namespace Given

/-- Give a value that may be given once. -/
def once {α : Type} (before now : Option α) : Except Stop (Option α) :=
  if before.isSome || now.isNone then .error .mistake else .ok now

def id? (text : String) : Option Id := Digits.word64? text.toList

/-- Take the value of an option. -/
def takeValue (given : Given) (long text : String) : Except Stop Given :=
  match long with
  | "config" => (once given.config (some text)).map fun v => { given with config := v }
  | "log-level" => (once given.logLevel (some text)).map fun v => { given with logLevel := v }
  | "output" => (once given.output (Named.ofName? text)).map fun v => { given with output := v }
  | "ref" => (once given.refName (some text)).map fun v => { given with refName := v }
  | "action" => (once given.action (Named.ofName? text)).map fun v => { given with action := v }
  | "user" => (once given.user (id? text)).map fun v => { given with user := v }
  | "role" => (once given.role (Named.ofName? text)).map fun v => { given with role := v }
  | "group" =>
    (once none (id? text)).map fun v => { given with groups := given.groups ++ v.toList }
  | "deploy-key" => (once given.deployKey (id? text)).map fun v => { given with deployKey := v }
  | "search" => (once given.search (some text)).map fun v => { given with search := v }
  | _ => .error .mistake

/-- Take a switch. -/
def takeSwitch (given : Given) (long : String) : Except Stop Given :=
  match long with
  | "help" => .error .help
  | "version" => .error .version
  | "admin" => (once given.admin (some ())).map fun v => { given with admin := v }
  | "tag" => (once given.tag (some ())).map fun v => { given with tag := v }
  | _ => .error .mistake

/-- Take an item; words only where they are expected. -/
def take (takesWords : Bool) (given : Given) : Item → Except Stop Given
  | .mistake => .error .mistake
  | .switch long => given.takeSwitch long
  | .value long text => given.takeValue long text
  | .word text =>
    if takesWords then .ok { given with words := given.words ++ [text] } else .error .mistake

/-- Take items from left to right. -/
def takeAll (takesWords : Bool) (items : List Item) : Except Stop Given :=
  items.foldlM (take takesWords) {}

end Given

/-! ## Commands -/

/-- A question to the program. -/
inductive Command where
  | check (request : Request)
  | areProtected (refNames : List String) (kind : RefKind)
  | list (search : Option String) (kind : RefKind)

/-- What the help text is asked about. -/
inductive Topic where
  | program
  | check
  | areProtected
  | list
  | help
  deriving DecidableEq

/-- What a run of the program has to do. -/
inductive Invocation where
  | ask (config : Option String) (output : OutputFormat) (command : Command)
  | showHelp (topic : Topic)
  | showVersion
  | mistake

/-- Options that are understood everywhere. -/
def sharedOptions : List Opt := [
  { long := "config", short := some 'c' },
  { long := "log-level" },
  { long := "output", short := some 'o' },
  { long := "help", short := some 'h', takesValue := false }]

def programOptions : List Opt :=
  sharedOptions ++ [{ long := "version", short := some 'V', takesValue := false }]

def tagOption : Opt := { long := "tag", takesValue := false }

def checkOptions : List Opt :=
  sharedOptions ++ [
    { long := "ref" }, { long := "action" }, { long := "user" }, { long := "role" },
    { long := "admin", takesValue := false }, { long := "group" }, { long := "deploy-key" },
    tagOption]

def areProtectedOptions : List Opt := sharedOptions ++ [tagOption]

def listOptions : List Opt := sharedOptions ++ [{ long := "search" }, tagOption]

/-- The kind of ref a command is about. -/
def Given.kind (given : Given) : RefKind := .ofTagSwitch given.tag.isSome

/-- The request of a `check`, if what it needs is given. -/
def Given.request? (given : Given) : Option Request := do
  let refName ← given.refName
  let action ← given.action
  let id ← given.user
  let actor : Actor :=
    { id, role := given.role.getD .noAccess, groups := .ofList given.groups,
      admin := given.admin.isSome, deployKey := given.deployKey }
  some { actor, action, refName, kind := given.kind }

/-- Finish a command: `outer` was given before its name, `given` after it. -/
def finish (topic : Topic) (fallback : Option String) (outer : Given)
    (given : Except Stop Given) (command? : Given → Option Command) : Invocation :=
  match given with
  | .error .help => .showHelp topic
  | .error .version => .showVersion
  | .error .mistake => .mistake
  | .ok given =>
    match command? given with
    | some command =>
      .ask (given.config.or (outer.config.or fallback))
        ((given.output.or outer.output).getD .default) command
    | none => .mistake

/-- The topic that the words after `help` name. -/
def helpTopic : List String → Invocation
  | [] => .showHelp .program
  | ["check"] => .showHelp .check
  | ["protected"] => .showHelp .areProtected
  | ["list"] => .showHelp .list
  | ["help"] => .showHelp .help
  | _ => .mistake

/-- A command with the arguments after its name. -/
def command (fallback : Option String) (outer : Given) (word : String) (rest : List String) :
    Invocation :=
  match word with
  | "check" =>
    finish .check fallback outer (Given.takeAll false (items checkOptions rest)) fun given =>
      given.request?.map .check
  | "protected" =>
    finish .areProtected fallback outer (Given.takeAll true (items areProtectedOptions rest))
      fun given =>
        if given.words.isEmpty then none else some (.areProtected given.words given.kind)
  | "list" =>
    finish .list fallback outer (Given.takeAll false (items listOptions rest)) fun given =>
      some (.list given.search given.kind)
  | "help" => helpTopic rest
  | _ => .mistake

/-- Understand the arguments.  `fallback` is the path of the policy file that
the environment names. -/
def parse (fallback : Option String) (arguments : List String) : Invocation :=
  let (before, rest) := itemsBeforeWord programOptions arguments.length arguments
  match Given.takeAll false before, rest with
  | .error .help, _ => .showHelp .program
  | .error .version, _ => .showVersion
  | .error .mistake, _ => .mistake
  | .ok outer, some (word, rest) => command fallback outer word rest
  | .ok _, none => .mistake

end RefPolicy.CommandLine
