import RefPolicy.Toml.Reader
import RefPolicy.Tree.Path

/-!
# RefPolicy.Settings.Source

Where settings come from: a TOML document and environment variables.  Both
give keys with values; `Tree.addSource` writes them at the places their keys
speak of.
-/

namespace RefPolicy

mutual

/-- A TOML value as configuration.  Dates and times are texts. -/
def Tree.ofToml : Toml.Value → Tree
  | .string chars => .text chars
  | .integer value => .whole value
  | .float value => .real value
  | .boolean value => .flag value
  | .dateTime written => .text written
  | .array items => .list (Tree.ofTomlItems items)
  | .table entries => .table (Tree.ofTomlEntries entries)

def Tree.ofTomlItems : List Toml.Value → List Tree
  | [] => []
  | item :: rest => Tree.ofToml item :: Tree.ofTomlItems rest

def Tree.ofTomlEntries : List (String × Toml.Value) → List (String × Tree)
  | [] => []
  | (key, value) :: rest => (key, Tree.ofToml value) :: Tree.ofTomlEntries rest

end

/-- An environment variable. -/
structure Variable where
  label : String
  value : String

namespace Variable

/-- What the names of variables that speak of settings begin with, in any
letter case. -/
def marker : List Char := "refguard__".toList

/-- Two underscores in a row are a dot. -/
def dotted : List Char → List Char
  | '_' :: '_' :: rest => '.' :: dotted rest
  | c :: rest => c :: dotted rest
  | [] => []

/-- The key a variable gives, in lower case; none if it does not speak of
settings. -/
def key? (setting : Variable) : Option String :=
  let label := Text.lowerCase setting.label.toList
  if marker.isPrefixOf label then some (String.ofList (dotted (label.drop marker.length)))
  else none

/-- The value of a variable: a switch, a number, or else a text. -/
def tree (setting : Variable) : Tree :=
  let word := Text.lowerCaseString setting.value
  if word = "true" then .flag true
  else if word = "false" then .flag false
  else
    match Digits.signed64? setting.value.toList, Binary64.read? setting.value.toList with
    | some n, _ => .whole n
    | none, some x => .real x
    | none, none => .text setting.value

/-- What the variables of an environment say about settings.  Of several that
give one key the last counts, so it comes first. -/
def source (environment : List Variable) : List (String × Tree) :=
  environment.reverse.filterMap fun setting => setting.key?.map fun key => (key, setting.tree)

end Variable

end RefPolicy
