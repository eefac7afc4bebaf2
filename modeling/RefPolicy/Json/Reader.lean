import RefPolicy.Digits
import RefPolicy.Json

/-!
# RefPolicy.Json.Reader

Reading JSON text, strictly: no comments, no trailing commas, no leading
zeros, no control characters inside strings, nothing after the value but
blanks.  Containers may be nested to any depth.

Every step takes its part off the front of the text and hands on the rest.
The steps that call each other are bounded by `fuel`; the bound that `parse?`
computes from the length of the text is never reached.
-/

namespace RefPolicy.Json

/-! ## Blanks, literals -/

def isBlank (c : Char) : Bool := c == ' ' || c == '\t' || c == '\n' || c == '\r'

def skipBlanks (text : List Char) : List Char := text.dropWhile isBlank

/-- The value of a hexadecimal digit of either case. -/
def hexDigit? (c : Char) : Option Nat :=
  if c.isDigit then some (c.toNat - '0'.toNat)
  else if 'a' ≤ c && c ≤ 'f' then some (c.toNat - 'a'.toNat + 10)
  else if 'A' ≤ c && c ≤ 'F' then some (c.toNat - 'A'.toNat + 10)
  else none

/-- The value of hexadecimal digits, after those of `acc`. -/
def hexValue (acc : Nat) : List Char → Option Nat
  | [] => some acc
  | c :: rest => (hexDigit? c).bind fun d => hexValue (acc * 16 + d) rest

/-- What one place of a string literal writes: a character, or the 16-bit
code of an escape. -/
inductive Piece where
  | char (c : Char)
  | code (n : Nat)

/-- The character a short escape stands for. -/
def shortEscape? : Char → Option Char
  | '"' => some '"'
  | '\\' => some '\\'
  | '/' => some '/'
  | 'b' => some '\x08'
  | 'f' => some '\x0c'
  | 'n' => some '\n'
  | 'r' => some '\r'
  | 't' => some '\t'
  | _ => none

/-- The places of a string literal up to its closing quote. -/
def readPieces : List Char → Option (List Piece × List Char)
  | [] => none
  | '"' :: rest => some ([], rest)
  | '\\' :: 'u' :: a :: b :: c :: d :: rest => do
    let n ← hexValue 0 [a, b, c, d]
    let (pieces, rest) ← readPieces rest
    some (.code n :: pieces, rest)
  | '\\' :: e :: rest => do
    let c ← shortEscape? e
    let (pieces, rest) ← readPieces rest
    some (.char c :: pieces, rest)
  | c :: rest =>
    if c.toNat < 0x20 then none
    else do
      let (pieces, rest) ← readPieces rest
      some (.char c :: pieces, rest)

/-- The character of a surrogate pair. -/
def pairChar (high low : Nat) : Char :=
  Char.ofNat (0x10000 + (high - 0xD800) * 0x400 + (low - 0xDC00))

def isHighHalf (n : Nat) : Bool := 0xD800 ≤ n && n < 0xDC00

def isLowHalf (n : Nat) : Bool := 0xDC00 ≤ n && n < 0xE000

/-- Put the places of a literal together.  A high half waits for the low half
that has to follow it at once. -/
def joinPieces (waiting : Option Nat) : List Piece → Option (List Char)
  | [] => if waiting.isNone then some [] else none
  | .char c :: rest => if waiting.isNone then (joinPieces none rest).map (c :: ·) else none
  | .code n :: rest =>
    match waiting with
    | some high => if isLowHalf n then (joinPieces none rest).map (pairChar high n :: ·) else none
    | none =>
      if isHighHalf n then joinPieces (some n) rest
      else if isLowHalf n then none
      else (joinPieces none rest).map (Char.ofNat n :: ·)

/-- A string literal after its opening quote. -/
def readLiteral (text : List Char) : Option (Literal × List Char) := do
  let (pieces, rest) ← readPieces text
  some ((joinPieces none pieces).map String.ofList, rest)

/-! ## Numbers -/

/-- The digits of a fraction with the point before them, if one follows. -/
def readFraction : List Char → Option (List Char × List Char)
  | '.' :: text =>
    let digits := text.takeWhile Char.isDigit
    if digits.isEmpty then none else some ('.' :: digits, text.drop digits.length)
  | text => some ([], text)

/-- An exponent with its mark, if one follows. -/
def readExponent : List Char → Option (List Char × List Char)
  | c :: text =>
    if c = 'e' ∨ c = 'E' then
      let sign := text.take 1 |>.filter fun s => s == '+' || s == '-'
      let text := text.drop sign.length
      let digits := text.takeWhile Char.isDigit
      if digits.isEmpty then none else some (c :: (sign ++ digits), text.drop digits.length)
    else some ([], c :: text)
  | [] => some ([], [])

/-- The whole digits of a number: no leading zero. -/
def readWhole : List Char → Option (List Char × List Char)
  | '0' :: text => if (text.take 1).any Char.isDigit then none else some (['0'], text)
  | text =>
    let digits := text.takeWhile Char.isDigit
    if digits.isEmpty then none else some (digits, text.drop digits.length)

/-- A number. -/
def readNumber (text : List Char) : Option (Json × List Char) := do
  let sign := text.take 1 |>.filter (· == '-')
  let (whole, rest) ← readWhole (text.drop sign.length)
  let (fraction, rest) ← readFraction rest
  let (exponent, rest) ← readExponent rest
  if sign.isEmpty && fraction.isEmpty && exponent.isEmpty then
    let n ← Digits.value 0 whole
    some (natural n, rest)
  else some (number (String.ofList (sign ++ whole ++ fraction ++ exponent)), rest)

/-! ## Values -/

mutual

/-- A value at the front of the text. -/
def readValue : Nat → List Char → Option (Json × List Char)
  | 0, _ => none
  | fuel + 1, text =>
    match text with
    | 'n' :: 'u' :: 'l' :: 'l' :: rest => some (null, rest)
    | 't' :: 'r' :: 'u' :: 'e' :: rest => some (bool true, rest)
    | 'f' :: 'a' :: 'l' :: 's' :: 'e' :: rest => some (bool false, rest)
    | '"' :: rest => (readLiteral rest).map fun (text, rest) => (string text, rest)
    | '[' :: rest =>
      match skipBlanks rest with
      | ']' :: rest => some (array [], rest)
      | rest => (readItems fuel rest).map fun (items, rest) => (array items, rest)
    | '\x7b' :: rest =>
      match skipBlanks rest with
      | '\x7d' :: rest => some (object [], rest)
      | rest => (readMembers fuel rest).map fun (members, rest) => (object members, rest)
    | text => readNumber text

/-- The items of an array that is not empty, and its closing bracket. -/
def readItems : Nat → List Char → Option (List Json × List Char)
  | 0, _ => none
  | fuel + 1, text => do
    let (item, rest) ← readValue fuel text
    match skipBlanks rest with
    | ']' :: rest => some ([item], rest)
    | ',' :: rest =>
      let (items, rest) ← readItems fuel (skipBlanks rest)
      some (item :: items, rest)
    | _ => none

/-- The members of an object that is not empty, and its closing brace. -/
def readMembers : Nat → List Char → Option (List (Literal × Json) × List Char)
  | 0, _ => none
  | fuel + 1, text =>
    match text with
    | '"' :: rest => do
      let (key, rest) ← readLiteral rest
      match skipBlanks rest with
      | ':' :: rest => do
        let (value, rest) ← readValue fuel (skipBlanks rest)
        match skipBlanks rest with
        | '\x7d' :: rest => some ([(key, value)], rest)
        | ',' :: rest =>
          let (members, rest) ← readMembers fuel (skipBlanks rest)
          some ((key, value) :: members, rest)
        | _ => none
      | _ => none
    | _ => none

end

/-- The value that a whole text writes. -/
def read? (text : List Char) : Option Json := do
  let (value, rest) ← readValue (2 * text.length + 2) (skipBlanks text)
  if (skipBlanks rest).isEmpty then some value else none

/-- The value that a whole text writes. -/
def parse? (text : String) : Option Json := read? text.toList

end RefPolicy.Json
