import RefPolicy.Json.Reader
import RefPolicy.Toml

/-!
# RefPolicy.Toml.Text

The small pieces of a TOML text: blanks, comments, ends of lines, strings and
keys.  Every step takes its part off the front of the text and hands on the
rest.  A step that takes a bound reads at most so many places; the length of
the document is always enough.
-/

namespace RefPolicy.Toml

/-! ## Blanks, comments, ends of lines -/

def isBlank (c : Char) : Bool := c == ' ' || c == '\t'

def skipBlanks (text : List Char) : List Char := text.dropWhile isBlank

/-- Characters that may stand in comments and strings: controls may not, tabs may. -/
def isPlain (c : Char) : Bool := c == '\t' || (0x20 ≤ c.toNat && c.toNat != 0x7F)

/-- A line feed, or a carriage return with one. -/
def lineEnd? : List Char → Option (List Char)
  | '\n' :: rest => some rest
  | '\r' :: '\n' :: rest => some rest
  | _ => none

/-- The rest of a comment, up to the end of its line. -/
def skipComment : List Char → Option (List Char)
  | [] => some []
  | '\n' :: rest => some ('\n' :: rest)
  | '\r' :: '\n' :: rest => some ('\r' :: '\n' :: rest)
  | c :: rest => if isPlain c then skipComment rest else none

/-- Blanks and a comment, then the end of the line or of the text. -/
def finishLine (text : List Char) : Option (List Char) := do
  let rest ← match skipBlanks text with
    | '#' :: rest => skipComment rest
    | rest => some rest
  if rest.isEmpty then some [] else lineEnd? rest

/-- Blanks, comments and ends of lines, as may stand between values and between
lines; `inComment` tells whether a comment is still open. -/
def skipGapFrom (inComment : Bool) : List Char → Option (List Char)
  | [] => some []
  | '\n' :: rest => skipGapFrom false rest
  | '\r' :: '\n' :: rest => skipGapFrom false rest
  | c :: rest =>
    if inComment then if isPlain c then skipGapFrom true rest else none
    else if isBlank c then skipGapFrom false rest
    else if c == '#' then skipGapFrom true rest
    else some (c :: rest)

/-- Blanks, comments and ends of lines. -/
def skipGap (text : List Char) : Option (List Char) := skipGapFrom false text

/-! ## Strings -/

/-- The character whose code has these hexadecimal digits. -/
def codeChar? (digits : List Char) : Option Char :=
  (Json.hexValue 0 digits).bind fun n => if n.isValidChar then some (Char.ofNat n) else none

/-- An escape after its backslash. -/
def readEscape : List Char → Option (Char × List Char)
  | 'b' :: rest => some ('\x08', rest)
  | 't' :: rest => some ('\t', rest)
  | 'n' :: rest => some ('\n', rest)
  | 'f' :: rest => some ('\x0c', rest)
  | 'r' :: rest => some ('\r', rest)
  | 'e' :: rest => some ('\x1b', rest)
  | '"' :: rest => some ('"', rest)
  | '\\' :: rest => some ('\\', rest)
  | 'x' :: a :: b :: rest => (codeChar? [a, b]).map fun c => (c, rest)
  | 'u' :: a :: b :: c :: d :: rest => (codeChar? [a, b, c, d]).map fun c => (c, rest)
  | 'U' :: a :: b :: c :: d :: e :: f :: g :: h :: rest =>
    (codeChar? [a, b, c, d, e, f, g, h]).map fun c => (c, rest)
  | _ => none

/-- A string in double quotes, after the opening quote. -/
def readBasic : Nat → List Char → Option (List Char × List Char)
  | 0, _ => none
  | bound + 1, text =>
    match text with
    | '"' :: rest => some ([], rest)
    | '\\' :: rest => do
      let (c, rest) ← readEscape rest
      let (chars, rest) ← readBasic bound rest
      some (c :: chars, rest)
    | c :: rest =>
      if isPlain c then (readBasic bound rest).map fun (chars, rest) => (c :: chars, rest) else none
    | [] => none

/-- A string in single quotes, after the opening quote: no escapes. -/
def readRaw : List Char → Option (List Char × List Char)
  | [] => none
  | '\'' :: rest => some ([], rest)
  | c :: rest =>
    if isPlain c then (readRaw rest).map fun (chars, rest) => (c :: chars, rest) else none

/-- The end of a string in triple quotes: up to two quotes before the last
three belong to the string. -/
def closeTriple (mark : Char) : List Char → Option (List Char × List Char)
  | a :: b :: c :: d :: e :: rest =>
    if a = mark ∧ b = mark ∧ c = mark then
      if d = mark ∧ e = mark then some ([mark, mark], rest)
      else if d = mark then some ([mark], e :: rest)
      else some ([], d :: e :: rest)
    else none
  | [a, b, c, d] =>
    if a = mark ∧ b = mark ∧ c = mark then
      if d = mark then some ([mark], []) else some ([], [d])
    else none
  | [a, b, c] => if a = mark ∧ b = mark ∧ c = mark then some ([], []) else none
  | _ => none

/-- Blanks and ends of lines. -/
def skipLines : List Char → List Char
  | [] => []
  | '\r' :: '\n' :: rest => skipLines rest
  | c :: rest => if isBlank c || c == '\n' then skipLines rest else c :: rest

/-- A string in triple quotes, after them.  With `escapes`, a backslash at the
end of a line takes away the blanks and lines after it. -/
def readTriple (mark : Char) (escapes : Bool) : Nat → List Char → Option (List Char × List Char)
  | 0, _ => none
  | bound + 1, text =>
    match closeTriple mark text with
    | some closing => some closing
    | none =>
      let keep (kept rest : List Char) :=
        (readTriple mark escapes bound rest).map fun (chars, rest) => (kept ++ chars, rest)
      match text with
      | '\r' :: '\n' :: rest => keep ['\r', '\n'] rest
      | '\n' :: rest => keep ['\n'] rest
      | c :: rest =>
        if escapes && c == '\\' then
          if (lineEnd? (skipBlanks rest)).isSome then keep [] (skipLines rest)
          else (readEscape rest).bind fun (c, rest) => keep [c] rest
        else if isPlain c then keep [c] rest
        else none
      | [] => none

/-- The text after the opening quotes of a string in triple quotes: an end of
line that follows them at once is not part of the string. -/
def afterTriple (text : List Char) : List Char := (lineEnd? text).getD text

/-- A string value. -/
def readString (bound : Nat) : List Char → Option (List Char × List Char)
  | '"' :: '"' :: '"' :: rest => readTriple '"' true bound (afterTriple rest)
  | '\'' :: '\'' :: '\'' :: rest => readTriple '\'' false bound (afterTriple rest)
  | '"' :: rest => readBasic bound rest
  | '\'' :: rest => readRaw rest
  | _ => none

/-! ## Keys -/

/-- Characters of a key without quotes. -/
def isBareKeyChar (c : Char) : Bool := c.isAlphanum || c == '_' || c == '-'

/-- A key without dots. -/
def readSimpleKey (bound : Nat) : List Char → Option (String × List Char)
  | '"' :: rest =>
    (readBasic bound rest).map fun (chars, rest) => (String.ofList chars, rest)
  | '\'' :: rest => (readRaw rest).map fun (chars, rest) => (String.ofList chars, rest)
  | text =>
    let chars := text.takeWhile isBareKeyChar
    if chars.isEmpty then none else some (String.ofList chars, text.drop chars.length)

/-- Keys with dots between them, blanks around the dots. -/
def readKey : Nat → List Char → Option (List String × List Char)
  | 0, _ => none
  | bound + 1, text => do
    let (key, rest) ← readSimpleKey (bound + 1) text
    match skipBlanks rest with
    | '.' :: rest =>
      let (keys, rest) ← readKey bound (skipBlanks rest)
      some (key :: keys, rest)
    | rest => some ([key], rest)

end RefPolicy.Toml
