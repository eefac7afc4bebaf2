import RefPolicy.Json.Reader
import RefPolicy.Toml
import RefPolicy.Calendar

/-!
# RefPolicy.Toml.Scalar

TOML values without brackets and quotes: booleans, integers, floats, dates
and times.  Each reader takes the whole text of the value.
-/

namespace RefPolicy.Toml

/-! ## Numbers -/

/-- Digits with single underscores between them, the underscores taken out. -/
def ungroup (isDigit : Char → Bool) : List Char → Option (List Char)
  | [] => none
  | [c] => if isDigit c then some [c] else none
  | c :: '_' :: rest => if isDigit c then (ungroup isDigit rest).map (c :: ·) else none
  | c :: rest => if isDigit c then (ungroup isDigit rest).map (c :: ·) else none

/-- Decimal digits without a leading zero. -/
def wholeDigits? (text : List Char) : Option (List Char) :=
  (ungroup Char.isDigit text).bind fun digits =>
    match digits with
    | '0' :: _ :: _ => none
    | _ => some digits

/-- Split off a sign. -/
def splitSign : List Char → Bool × List Char
  | '-' :: rest => (true, rest)
  | '+' :: rest => (false, rest)
  | text => (false, text)

/-- The number that digits of a base write. -/
def baseValue (base : Nat) (digits : List Char) : Option Nat :=
  digits.foldlM
    (fun n c => (Json.hexDigit? c).bind fun d => if d < base then some (n * base + d) else none) 0

/-- The number after `0x`, `0o` or `0b`. -/
def based? (base : Nat) (text : List Char) : Option Int := do
  let digits ← ungroup (fun c => (Json.hexDigit? c).any (· < base)) text
  let n ← baseValue base digits
  some n

/-- A whole number, not yet bounded. -/
def wholeNumber? : List Char → Option Int
  | '0' :: 'x' :: rest => based? 16 rest
  | '0' :: 'o' :: rest => based? 8 rest
  | '0' :: 'b' :: rest => based? 2 rest
  | text => do
    let (negative, rest) := splitSign text
    let digits ← wholeDigits? rest
    let n ← Digits.value 0 digits
    some (if negative then -(n : Int) else n)

/-- An integer of 64 bits. -/
def integer? (text : List Char) : Option Int := (wholeNumber? text).bind Digits.toSigned64?

def isGroupedDigit (c : Char) : Bool := c.isDigit || c == '_'

/-- The exponent of a float; absent if there is none. -/
def floatExponent? : List Char → Option (Option Int)
  | [] => some none
  | c :: rest =>
    if c = 'e' ∨ c = 'E' then do
      let (negative, rest) := splitSign rest
      let digits ← ungroup Char.isDigit rest
      let n ← Digits.value 0 digits
      some (some (if negative then -(n : Int) else n))
    else none

/-- A float in digits: it has a fraction or an exponent, and is finite. -/
def decimalFloat? (negative : Bool) (text : List Char) : Option Binary64 := do
  let whole ← wholeDigits? (text.takeWhile isGroupedDigit)
  let (fraction, rest) ← match text.dropWhile isGroupedDigit with
    | '.' :: rest =>
      (ungroup Char.isDigit (rest.takeWhile isGroupedDigit)).map fun digits =>
        (digits, rest.dropWhile isGroupedDigit)
    | rest => some ([], rest)
  let exponent ← floatExponent? rest
  if fraction.isEmpty && exponent.isNone then none
  else
    match Binary64.ofParts negative whole fraction (exponent.getD 0) with
    | some (.infinite _) => none
    | value => value

def float? (text : List Char) : Option Binary64 :=
  let (negative, rest) := splitSign text
  match rest with
  | ['i', 'n', 'f'] => some (.infinite negative)
  | ['n', 'a', 'n'] => some .nan
  | rest => decimalFloat? negative rest

/-! ## Dates and times

Each part is read off the front and comes back in its normal form. -/

/-- Two digits and their number, at most `greatest`. -/
def readTwoDigits (greatest : Nat) : List Char → Option (Nat × List Char)
  | a :: b :: rest =>
    (Digits.natural? [a, b]).bind fun n => if n ≤ greatest then some (n, rest) else none
  | _ => none

/-- A day of the calendar, `YYYY-MM-DD`. -/
def readDay : List Char → Option (List Char × List Char)
  | a :: b :: c :: d :: '-' :: rest => do
    let year ← Digits.natural? [a, b, c, d]
    let (month, rest) ← readTwoDigits 12 rest
    match rest with
    | '-' :: rest => do
      let (day, rest) ← readTwoDigits 31 rest
      if (Day.mk year month day).IsReal then
        some ([a, b, c, d] ++ '-' :: Digits.padded 2 month ++ '-' :: Digits.padded 2 day, rest)
      else none
    | _ => none
  | _ => none

/-- The digits of a fraction of a second: nine count, and zeros at the end
do not, but one is kept. -/
def normalFraction (digits : List Char) : List Char :=
  let kept := ((digits.take 9).reverse.dropWhile (· == '0')).reverse
  if kept.isEmpty then ['0'] else kept

/-- Seconds and their fraction, if they follow; there is a second 60. -/
def readSeconds : List Char → Option (List Char × List Char)
  | ':' :: text => do
    let (second, rest) ← readTwoDigits 60 text
    match rest with
    | '.' :: rest =>
      let digits := rest.takeWhile Char.isDigit
      if digits.isEmpty then none
      else
        some (':' :: Digits.padded 2 second ++ '.' :: normalFraction digits,
          rest.drop digits.length)
    | rest => some (':' :: Digits.padded 2 second, rest)
  | text => some ([], text)

/-- A time of day, `hh:mm` with or without seconds. -/
def readClock (text : List Char) : Option (List Char × List Char) := do
  let (hour, rest) ← readTwoDigits 23 text
  match rest with
  | ':' :: rest => do
    let (minute, rest) ← readTwoDigits 59 rest
    let (seconds, rest) ← readSeconds rest
    some (Digits.padded 2 hour ++ ':' :: Digits.padded 2 minute ++ seconds, rest)
  | _ => none

/-- An offset of hours and minutes after its sign; no offset is negative zero. -/
def offsetText (negative : Bool) (text : List Char) : Option (List Char) := do
  let (hours, rest) ← readTwoDigits 24 text
  match rest with
  | ':' :: rest => do
    let (minutes, rest) ← readTwoDigits 59 rest
    if rest.isEmpty ∧ hours * 60 + minutes ≤ 1440 then
      some ((if negative ∧ 0 < hours + minutes then '-' else '+') ::
        (Digits.padded 2 hours ++ ':' :: Digits.padded 2 minutes))
    else none
  | _ => none

/-- The end of a date with a time: nothing, `Z`, or an offset. -/
def zone? : List Char → Option (List Char)
  | [] => some []
  | ['Z'] | ['z'] => some ['Z']
  | '+' :: rest => offsetText false rest
  | '-' :: rest => offsetText true rest
  | _ => none

/-- A date, a time, or both with or without an offset, in normal form. -/
def dateTime? (text : List Char) : Option (List Char) :=
  match readDay text with
  | some (day, []) => some day
  | some (day, mark :: rest) =>
    if mark = 'T' ∨ mark = 't' ∨ mark = ' ' then do
      let (clock, rest) ← readClock rest
      let zone ← zone? rest
      some (day ++ 'T' :: clock ++ zone)
    else none
  | none =>
    match readClock text with
    | some (clock, []) => some clock
    | _ => none

/-- A value without brackets and quotes. -/
def scalar? (text : List Char) : Option Value :=
  if text = ['t', 'r', 'u', 'e'] then some (.boolean true)
  else if text = ['f', 'a', 'l', 's', 'e'] then some (.boolean false)
  else
    match integer? text, float? text with
    | some n, _ => some (.integer n)
    | none, some x => some (.float x)
    | none, none => (dateTime? text).map fun chars => .dateTime (String.ofList chars)

end RefPolicy.Toml
