import RefPolicy.Digits

/-!
# RefPolicy.Binary64

Floating-point numbers as configuration files hold them: binary64 values,
kept as exact integers `mantissa · 2 ^ exponent`.

* `ofDecimal` rounds a decimal number to the nearest value, a tie going to
  the even mantissa;
* `shortest` finds the fewest digits that read back as a value, of those the
  nearest to it, and of two equally near ones the larger;
* `text` writes those digits in positional notation, never with an exponent
  and without a fraction when there is none;
* `roundToWord` rounds to a whole number of 64 bits, halves going away from
  zero, and stops at the ends of the range.
-/

namespace RefPolicy

/-- A binary64 value.  A mantissa has at most 53 bits, and all 53 unless the
exponent is the least one, `-1074`. -/
inductive Binary64 where
  | finite (negative : Bool) (mantissa : Nat) (exponent : Int)
  | infinite (negative : Bool)
  | nan
  deriving DecidableEq

namespace Binary64

/-- The exponent of the smallest values. -/
def leastExponent : Int := -1074

/-- The exponent of the largest finite values. -/
def greatestExponent : Int := 971

/-- The least mantissa of 53 bits. -/
def fullMantissa : Nat := 4503599627370496

/-- `n · b ^ e` as a numerator over a denominator. -/
def scaled (n b : Nat) (e : Int) : Nat × Nat :=
  if 0 ≤ e then (n * Nat.pow b e.toNat, 1) else (n, Nat.pow b (-e).toNat)

/-- `n / d` to the nearest whole number, a tie going to the even one. -/
def divRoundEven (n d : Nat) : Nat :=
  let q := n / d
  let twice := 2 * (n % d)
  if twice < d then q else if d < twice then q + 1 else q + q % 2

/-- The largest power of two not above `n / d`, for positive `n` and `d`. -/
def floorLog2 (n d : Nat) : Int :=
  let guess : Int := (n.log2 : Int) - d.log2
  let (p, q) := scaled d 2 guess
  if n * q < p then guess - 1 else guess

/-- The value nearest to the fraction `n / d`. -/
def ofFraction (negative : Bool) (n d : Nat) : Binary64 :=
  if n = 0 then finite negative 0 leastExponent
  else
    let exponent := max (floorLog2 n d - 52) leastExponent
    let (p, q) := scaled d 2 exponent
    let mantissa := divRoundEven (n * q) p
    let (mantissa, exponent) :=
      if mantissa = 2 * fullMantissa then (fullMantissa, exponent + 1) else (mantissa, exponent)
    if greatestExponent < exponent then infinite negative else finite negative mantissa exponent

/-- The value nearest to `digits · 10 ^ exponent`.  Beyond `10 ^ 400` every
number is infinite and below `10 ^ -400` every number is zero, whatever its
digits, so powers of ten are never taken further. -/
def ofDecimal (negative : Bool) (digits : Nat) (exponent : Int) : Binary64 :=
  let magnitude : Int := (Nat.toDigits 10 digits).length + exponent
  if digits = 0 ∨ magnitude < -400 then finite negative 0 leastExponent
  else if 400 < magnitude then infinite negative
  else
    let (n, d) := scaled digits 10 exponent
    ofFraction negative n d

/-- Does the value differ from zero?  NaN does. -/
def isNonzero : Binary64 → Bool
  | finite _ mantissa _ => mantissa != 0
  | _ => true

/-- The nearest number of 64 bits. -/
def roundToWord : Binary64 → UInt64
  | finite true .. => 0
  | finite false mantissa exponent =>
    let (n, d) := scaled mantissa 2 exponent
    UInt64.ofNat (min ((2 * n + d) / (2 * d)) (UInt64.size - 1))
  | infinite negative => if negative then 0 else UInt64.ofNat (UInt64.size - 1)
  | nan => 0

/-! ## Shortest digits -/

/-- The reals that round to a value, in quarters of its last place: from
`low` to `high`, ends included if the mantissa is even.  The interval is
shorter below a power of two. -/
def roundingInterval (mantissa : Nat) (exponent : Int) : Nat × Nat :=
  (if mantissa = fullMantissa ∧ leastExponent < exponent then 4 * mantissa - 1 else 4 * mantissa - 2,
    4 * mantissa + 2)

/-- The multiples of `10 ^ k` on both sides of a value: the nearer one of
those that round to the value, and the larger of two equally near ones. -/
def nearestOnGrid (mantissa : Nat) (exponent k : Int) : Option Nat :=
  let (low, high) := roundingInterval mantissa exponent
  -- `unit / quarter` quarters of the last place make one step of the grid
  let (quarter, quarterBase) := scaled 1 2 (exponent - 2)
  let (step, stepBase) := scaled 1 10 k
  let unit := step * quarterBase
  let quarter := quarter * stepBase
  let below := 4 * mantissa * quarter / unit
  let inside (d : Nat) : Bool :=
    let x := d * unit
    if mantissa % 2 = 0 then low * quarter ≤ x && x ≤ high * quarter
    else low * quarter < x && x < high * quarter
  if inside below then
    if inside (below + 1) &&
        (below + 1) * unit - 4 * mantissa * quarter ≤ 4 * mantissa * quarter - below * unit then
      some (below + 1)
    else some below
  else if inside (below + 1) then some (below + 1)
  else none

/-- The coarsest decimal grid with a multiple that reads back as the value,
trying `10 ^ k` and the `count` grids below it. -/
def shortestFrom (mantissa : Nat) (exponent : Int) : Nat → Int → Nat × Int
  | 0, k => (0, k)
  | count + 1, k =>
    match nearestOnGrid mantissa exponent k with
    | some digits => (digits, k)
    | none => shortestFrom mantissa exponent count (k - 1)

/-- Digits and a power of ten: the shortest decimal number that reads back
as `mantissa · 2 ^ exponent`, for a positive mantissa.  All values lie below
`10 ^ 309` and are told apart by `10 ^ -324`. -/
def shortest (mantissa : Nat) (exponent : Int) : Nat × Int :=
  shortestFrom mantissa exponent 640 309

/-- `digits · 10 ^ exponent` in positional notation. -/
def positional (digits : Nat) (exponent : Int) : List Char :=
  if 0 ≤ exponent then Nat.toDigits 10 (digits * Nat.pow 10 exponent.toNat)
  else
    let places := (-exponent).toNat
    let text := Digits.padded (places + 1) digits
    text.take (text.length - places) ++ '.' :: text.drop (text.length - places)

/-- The value in decimal. -/
def chars : Binary64 → List Char
  | finite negative mantissa exponent =>
    let magnitude :=
      if mantissa = 0 then ['0']
      else
        let (digits, power) := shortest mantissa exponent
        positional digits power
    if negative then '-' :: magnitude else magnitude
  | infinite negative => if negative then ['-', 'i', 'n', 'f'] else ['i', 'n', 'f']
  | nan => ['N', 'a', 'N']

/-- The value in decimal. -/
def text (value : Binary64) : String := String.ofList value.chars

/-! ## Decimal numbers with a point and an exponent -/

/-- The value of a sign, whole digits, fraction digits and an exponent. -/
def ofParts (negative : Bool) (whole fraction : List Char) (exponent : Int) : Option Binary64 :=
  (Digits.value 0 (whole ++ fraction)).map fun digits =>
    ofDecimal negative digits (exponent - fraction.length)

/-- The exponent after a mantissa: nothing, or `e` and a whole number. -/
def exponent? : List Char → Option Int
  | [] => some 0
  | c :: text => if c = 'e' ∨ c = 'E' then Digits.integer? text else none

/-- A number without a sign: digits with a point among, before or after them,
and an exponent. -/
def unsigned? (negative : Bool) (text : List Char) : Option Binary64 :=
  let whole := text.takeWhile Char.isDigit
  let rest := text.dropWhile Char.isDigit
  let (fraction, rest) := match rest with
    | '.' :: rest => (rest.takeWhile Char.isDigit, rest.dropWhile Char.isDigit)
    | _ => ([], rest)
  if whole.isEmpty && fraction.isEmpty then none
  else (exponent? rest).bind (ofParts negative whole fraction)

/-- A number as a person may type it: an optional sign, then digits with a
point and an exponent, or `inf`, `infinity` or `nan` in any letter case. -/
def read? (text : List Char) : Option Binary64 :=
  let (negative, rest) := match text with
    | '-' :: rest => (true, rest)
    | '+' :: rest => (false, rest)
    | _ => (false, text)
  let word := String.ofList (rest.map Char.toLower)
  if word = "inf" ∨ word = "infinity" then some (infinite negative)
  else if word = "nan" then some nan
  else unsigned? negative rest

end Binary64

end RefPolicy
