import RefPolicy.Calendar
import RefPolicy.Digits
import RefPolicy.Text.Blank

/-!
# RefPolicy.Timestamp

Moments in universal time, to the nanosecond.  A leap second is second 60 of
its minute.

Written, a timestamp is `YYYY-MM-DDThh:mm:ss`, a fraction of three, six or
nine digits unless it is zero (the fewest of these that lose nothing), and
`Z`; a year outside 0 to 9999 carries its sign.

Read, a timestamp may also be written with blanks between its parts, with
short numbers (`2021-1-8`), with `t` or a blank for the `T`, and at any
offset from universal time; the offset has to be there.
-/

namespace RefPolicy

/-- A moment in universal time. -/
structure Timestamp where
  day : Day
  hour : Nat
  minute : Nat
  second : Nat
  nanosecond : Nat
  day_isReal : day.IsReal
  year_inRange : -262143 ≤ day.year ∧ day.year ≤ 262142
  clock_inRange : hour < 24 ∧ minute < 60 ∧ second ≤ 60 ∧ nanosecond < 1000000000
  deriving DecidableEq

namespace Timestamp

/-- The moment with these readings, if they are readings of a calendar and a clock. -/
def ofReadings? (day : Day) (hour minute second nanosecond : Nat) : Option Timestamp :=
  if h : day.IsReal ∧ (-262143 ≤ day.year ∧ day.year ≤ 262142) ∧
      (hour < 24 ∧ minute < 60 ∧ second ≤ 60 ∧ nanosecond < 1000000000) then
    some ⟨day, hour, minute, second, nanosecond, h.1, h.2.1, h.2.2⟩
  else none

/-- The universal time of a clock that runs `offset` minutes ahead of it.
Offsets are whole minutes, shorter than a day, so at most one midnight lies
between the two and seconds do not change. -/
def atOffset? (localTime : Timestamp) (offset : Int) : Option Timestamp :=
  let minutes : Int := (localTime.hour * 60 + localTime.minute : Nat) - offset
  let day :=
    if minutes < 0 then localTime.day.previous
    else if 1440 ≤ minutes then localTime.day.next
    else localTime.day
  let minuteOfDay := (minutes % 1440).toNat
  ofReadings? day (minuteOfDay / 60) (minuteOfDay % 60) localTime.second localTime.nanosecond

/-! ## Writing -/

/-- A year: four digits, or a sign and at least four. -/
def yearText (year : Int) : List Char :=
  if 0 ≤ year ∧ year ≤ 9999 then Digits.padded 4 year.natAbs
  else (if year < 0 then '-' else '+') :: Digits.padded 4 year.natAbs

/-- The fraction of a second. -/
def fractionText (nanosecond : Nat) : List Char :=
  if nanosecond = 0 then []
  else if nanosecond % 1000000 = 0 then '.' :: Digits.padded 3 (nanosecond / 1000000)
  else if nanosecond % 1000 = 0 then '.' :: Digits.padded 6 (nanosecond / 1000)
  else '.' :: Digits.padded 9 nanosecond

/-- The written form, as characters. -/
def chars (t : Timestamp) : List Char :=
  yearText t.day.year ++ '-' :: Digits.padded 2 t.day.month ++ '-' :: Digits.padded 2 t.day.day ++
    'T' :: Digits.padded 2 t.hour ++ ':' :: Digits.padded 2 t.minute ++
    ':' :: Digits.padded 2 t.second ++ fractionText t.nanosecond ++ ['Z']

/-- The written form. -/
def text (t : Timestamp) : String := String.ofList t.chars

/-! ## Reading

Each step takes its part off the front of the text and hands on the rest. -/

/-- A number of at least one and at most `limit` digits. -/
def readDigits (limit : Nat) (text : List Char) : Option (Nat × List Char) :=
  let digits := (text.take limit).takeWhile Char.isDigit
  (Digits.natural? digits).map fun n => (n, text.drop digits.length)

/-- Blanks, then a number of one or two digits. -/
def readShort (text : List Char) : Option (Nat × List Char) := readDigits 2 (Text.trimStart text)

/-- Blanks, then a year: up to four digits, or a sign and any number of them. -/
def readYear (text : List Char) : Option (Int × List Char) :=
  match Text.trimStart text with
  | '-' :: rest => (readDigits rest.length rest).map fun (n, rest) => (-(n : Int), rest)
  | '+' :: rest => (readDigits rest.length rest).map fun (n, rest) => ((n : Int), rest)
  | rest => (readDigits 4 rest).map fun (n, rest) => ((n : Int), rest)

/-- Blanks, then the mark between two numbers. -/
def readMark (mark : Char) (text : List Char) : Option (List Char) :=
  match Text.trimStart text with
  | c :: rest => if c = mark then some rest else none
  | [] => none

/-- The mark between day and time, a single character. -/
def readSeparator : List Char → Option (List Char)
  | 'T' :: rest | 't' :: rest | ' ' :: rest => some rest
  | _ => none

/-- A fraction, if one follows: digits after the ninth are passed over. -/
def readFraction : List Char → Option (Nat × List Char)
  | '.' :: text =>
    let digits := text.takeWhile Char.isDigit
    (Digits.natural? (digits.take 9)).map fun n =>
      (n * Nat.pow 10 (9 - (digits.take 9).length), text.drop digits.length)
  | text => some (0, text)

/-- The minutes of an offset, after `:` and blanks. -/
def readOffsetMinutes (text : List Char) : Option (Nat × List Char) :=
  match text.dropWhile fun c => c == ':' || Text.isBlank c with
  | a :: b :: rest =>
    (Digits.natural? [a, b]).bind fun n => if n < 60 then some (n, rest) else none
  | _ => none

/-- Hours and minutes of an offset, in minutes. -/
def readOffsetAmount : List Char → Option (Int × List Char)
  | a :: b :: rest => do
    let hours ← Digits.natural? [a, b]
    let (minutes, rest) ← readOffsetMinutes rest
    if hours < 24 then some (hours * 60 + minutes, rest) else none
  | _ => none

/-- The offset from universal time, in minutes. -/
def readOffset : List Char → Option (Int × List Char)
  | 'Z' :: rest | 'z' :: rest => some (0, rest)
  | '+' :: rest => readOffsetAmount rest
  | '-' :: rest | '\u2212' :: rest => (readOffsetAmount rest).map fun (n, rest) => (-n, rest)
  | text =>
    if (text.take 3).map Char.toUpper = ['U', 'T', 'C'] then some (0, text.drop 3) else none

/-- The readings of a local clock, and what follows them. -/
def readLocal (text : List Char) : Option (Timestamp × List Char) := do
  let (year, text) ← readYear text
  let text ← readMark '-' text
  let (month, text) ← readShort text
  let text ← readMark '-' text
  let (day, text) ← readShort text
  let text ← readSeparator text
  let (hour, text) ← readShort text
  let text ← readMark ':' text
  let (minute, text) ← readShort text
  let text ← readMark ':' text
  let (second, text) ← readShort text
  let (nanosecond, text) ← readFraction text
  let time ← ofReadings? ⟨year, month, day⟩ hour minute second nanosecond
  some (time, text)

/-- Read a timestamp; nothing but blanks may follow it. -/
def read? (text : List Char) : Option Timestamp := do
  let (localTime, text) ← readLocal text
  let (offset, text) ← readOffset (Text.trimStart text)
  if (Text.trimStart text).isEmpty then localTime.atOffset? offset else none

/-- Read a timestamp. -/
def parse? (text : String) : Option Timestamp := read? text.toList

end Timestamp

end RefPolicy
