import RefPolicy.Toml.Scalar
import RefPolicy.Toml.Text

/-!
# RefPolicy.Toml.Reader

Reading a TOML document: values, then lines, then the document.

Values may be nested `nestingLimit` deep; the limit is what the recursion of
`readValue` counts down.  Everything else is bounded by the length of the
document.
-/

namespace RefPolicy.Toml

/-- The deepest nesting of arrays and inline tables. -/
def nestingLimit : Nat := 80

/-- Characters that end a value without brackets and quotes. -/
def endsScalar (c : Char) : Bool :=
  isBlank c || c == '\n' || c == '\r' || c == ',' || c == ']' || c == '\x7d' || c == '#' || c == '='

/-- Split off the text of a value without brackets and quotes.  A date and a
time may have one space between them. -/
def splitScalar (text : List Char) : List Char × List Char :=
  let word := text.takeWhile fun c => !endsScalar c
  let rest := text.drop word.length
  match rest with
  | ' ' :: d :: _ =>
    if d.isDigit && (readDay word).any (fun day => day.2.isEmpty) then
      let time := (rest.drop 1).takeWhile fun c => !endsScalar c
      (word ++ ' ' :: time, rest.drop (time.length + 1))
    else (word, rest)
  | _ => (word, rest)

/-- Items up to the closing bracket; the last may be followed by a comma. -/
def readItems (readItem : List Char → Option (Value × List Char)) :
    Nat → List Char → Option (List Value × List Char)
  | 0, _ => none
  | bound + 1, text => do
    let rest ← skipGap text
    match rest with
    | ']' :: rest => some ([], rest)
    | rest => do
      let (item, rest) ← readItem rest
      let rest ← skipGap rest
      match rest with
      | ',' :: rest =>
        let (items, rest) ← readItems readItem bound rest
        some (item :: items, rest)
      | ']' :: rest => some ([item], rest)
      | _ => none

/-- A key, an equals sign and a value. -/
def readAssignment (readItem : List Char → Option (Value × List Char)) (bound : Nat)
    (text : List Char) : Option ((List String × Value) × List Char) := do
  let (key, rest) ← readKey bound text
  match skipBlanks rest with
  | '=' :: rest =>
    let (value, rest) ← readItem (skipBlanks rest)
    some ((key, value), rest)
  | _ => none

/-- Assignments up to the closing brace; the last may be followed by a comma. -/
def readAssignments (readItem : List Char → Option (Value × List Char)) :
    Nat → List Char → Option (List (List String × Value) × List Char)
  | 0, _ => none
  | bound + 1, text => do
    let rest ← skipGap text
    match rest with
    | '\x7d' :: rest => some ([], rest)
    | rest => do
      let (assignment, rest) ← readAssignment readItem (bound + 1) rest
      let rest ← skipGap rest
      match rest with
      | ',' :: rest =>
        let (assignments, rest) ← readAssignments readItem bound rest
        some (assignment :: assignments, rest)
      | '\x7d' :: rest => some ([assignment], rest)
      | _ => none

/-- A value without brackets at the front of the text. -/
def readPlainValue (bound : Nat) (text : List Char) : Option (Value × List Char) :=
  match text with
  | '"' :: _ | '\'' :: _ =>
    (readString bound text).map fun (chars, rest) => (.string (String.ofList chars), rest)
  | _ =>
    let (word, rest) := splitScalar text
    (scalar? word).map fun value => (value, rest)

/-- A value at the front of the text, nested at most `depth` deep. -/
def readValue (bound : Nat) : Nat → List Char → Option (Value × List Char)
  | 0, text => readPlainValue bound text
  | depth + 1, text =>
    match text with
    | '[' :: rest =>
      (readItems (readValue bound depth) bound rest).map fun (items, rest) =>
        (.array items, rest)
    | '\x7b' :: rest => do
      let (assignments, rest) ← readAssignments (readValue bound depth) bound rest
      let table ← inlineTable assignments
      some (table, rest)
    | text => readPlainValue bound text

/-- A line of the document, its end left standing. -/
def readLine (bound : Nat) (text : List Char) : Option (Line × List Char) :=
  match text with
  | '[' :: '[' :: rest => do
    let (path, rest) ← readKey bound (skipBlanks rest)
    match skipBlanks rest with
    | ']' :: ']' :: rest => some (.item path, rest)
    | _ => none
  | '[' :: rest => do
    let (path, rest) ← readKey bound (skipBlanks rest)
    match skipBlanks rest with
    | ']' :: rest => some (.table path, rest)
    | _ => none
  | text =>
    (readAssignment (readValue bound nestingLimit) bound text).map fun ((key, value), rest) =>
      (.assignment key value, rest)

/-- At most `count` lines of a document. -/
def readLines (bound : Nat) : Nat → List Char → Option (List Line)
  | 0, _ => some []
  | count + 1, text => do
    let rest ← skipGap text
    if rest.isEmpty then some []
    else do
      let (line, rest) ← readLine bound rest
      let rest ← finishLine rest
      let lines ← readLines bound count rest
      some (line :: lines)

/-- The entries of the document that a text writes.  A byte order mark in
front of it is passed over. -/
def read? (text : List Char) : Option (List (String × Value)) := do
  let text := match text with
    | '\ufeff' :: rest => rest
    | text => text
  let bound := text.length + 1
  let lines ← readLines bound bound text
  let entries ← addLines [] [] lines
  some (Node.entryValues entries)

/-- The entries of the document that a text writes. -/
def parse? (text : String) : Option (List (String × Value)) := read? text.toList

end RefPolicy.Toml
