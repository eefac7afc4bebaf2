/-!
# RefPolicy.Digits

Whole numbers in decimal text: an optional sign and one or more ASCII
digits, nothing else.  `natural?` reads digits without a bound; the bounded
readers refuse what does not fit.

* `value_eq_ofDigitChars` — digits have the value they have in base ten;
* `value_toDigits`, `natural?_padded`, `word64?_toDigits`,
  `signed64?_integerText` — a number is read back from its digits, with or
  without zeros in front;
* `length_padded` — the width is exact unless the number is too large for it;
* `toDigits_head_ne_zero` — no zeros are written in front unasked;
* `takeWhile_append` — digits are told apart from what follows them.
-/

namespace RefPolicy.Digits

/-- The value of a decimal digit. -/
def digit? (c : Char) : Option Nat := if c.isDigit then some (c.toNat - '0'.toNat) else none

/-- The number that digits write after the digits of `acc`. -/
def value (acc : Nat) : List Char → Option Nat
  | [] => some acc
  | c :: rest => (digit? c).bind fun d => value (acc * 10 + d) rest

/-- A number written with at least one digit and no sign. -/
def natural? : List Char → Option Nat
  | [] => none
  | text => value 0 text

/-- A number with an optional sign before its digits. -/
def integer? : List Char → Option Int
  | '-' :: text => (natural? text).map fun n => -(n : Int)
  | '+' :: text => (natural? text).map Int.ofNat
  | text => (natural? text).map Int.ofNat

/-- The word that holds a number, if 64 bits are enough for it. -/
def toWord64? (n : Nat) : Option UInt64 :=
  if n < UInt64.size then some (UInt64.ofNat n) else none

/-- A number of 64 bits, with an optional plus sign. -/
def word64? (text : List Char) : Option UInt64 :=
  let digits := match text with
    | '+' :: rest => rest
    | _ => text
  (natural? digits).bind toWord64?

/-- The number itself, if 64 bits are enough for it and its sign. -/
def toSigned64? (n : Int) : Option Int :=
  if -9223372036854775808 ≤ n ∧ n ≤ 9223372036854775807 then some n else none

/-- A signed number of 64 bits. -/
def signed64? (text : List Char) : Option Int := (integer? text).bind toSigned64?

/-- A whole number in decimal, with a minus sign if negative. -/
def integerText (n : Int) : String :=
  if n < 0 then "-" ++ Nat.repr n.natAbs else Nat.repr n.natAbs

/-- At least `width` digits, filled up with zeros on the left. -/
def padded (width n : Nat) : List Char :=
  let digits := Nat.toDigits 10 n
  List.replicate (width - digits.length) '0' ++ digits

/-! ## Reading back what is written -/

/-- The value of digits is the library's. -/
theorem value_eq_ofDigitChars {digits : List Char} (h : ∀ c ∈ digits, c.isDigit = true)
    (acc : Nat) : value acc digits = some (Nat.ofDigitChars 10 digits acc) := by
  induction digits generalizing acc with
  | nil => rfl
  | cons c digits ih =>
      rw [List.forall_mem_cons] at h
      simp only [value, digit?, h.1, if_true, Option.bind_some, ih h.2, Nat.ofDigitChars_cons,
        Nat.mul_comm]

/-- So is a natural number, of which at least one digit is given. -/
theorem natural?_eq_ofDigitChars {digits : List Char} (hne : digits ≠ [])
    (h : ∀ c ∈ digits, c.isDigit = true) :
    natural? digits = some (Nat.ofDigitChars 10 digits 0) := by
  obtain ⟨c, digits, rfl⟩ := List.exists_cons_of_ne_nil hne
  exact value_eq_ofDigitChars h 0

theorem isDigit_of_mem_toDigits {n : Nat} {c : Char} (h : c ∈ Nat.toDigits 10 n) :
    c.isDigit = true :=
  Nat.isDigit_of_mem_toDigits (by decide) (by decide) h

/-- A number is read back from its digits. -/
theorem value_toDigits (n : Nat) : value 0 (Nat.toDigits 10 n) = some n := by
  rw [value_eq_ofDigitChars fun _ => isDigit_of_mem_toDigits, Nat.ofDigitChars_ten_toDigits]

/-- A number is written with at least one digit. -/
theorem toDigits_eq_cons (n : Nat) :
    ∃ c digits, Nat.toDigits 10 n = c :: digits ∧ c.isDigit = true := by
  obtain ⟨c, digits, hdigits⟩ := List.exists_cons_of_ne_nil (Nat.toDigits_ne_nil (n := n))
  exact ⟨c, digits, hdigits, isDigit_of_mem_toDigits (hdigits ▸ List.mem_cons_self)⟩

/-- No digits begin with a zero but those of zero. -/
theorem toDigits_head_ne_zero {n : Nat} (hn : n ≠ 0) :
    (Nat.toDigits 10 n).head? ≠ some '0' := by
  induction n using Nat.strongRecOn with
  | ind n ih =>
      by_cases hlt : n < 10
      · rw [Nat.toDigits_of_lt_base hlt, List.head?_cons, ne_eq, Option.some.injEq,
          Nat.digitChar_eq_zero]
        exact hn
      · have hdiv : (Nat.toDigits 10 (n / 10)).head? ≠ some '0' :=
          ih (n / 10) (by omega) (by omega)
        obtain ⟨c, digits, hdigits, -⟩ := toDigits_eq_cons (n / 10)
        rw [Nat.toDigits_of_base_le (by decide) (by omega)]
        rw [hdigits] at hdiv ⊢
        exact hdiv

/-- Digits end where something else begins. -/
theorem takeWhile_append {digits rest : List Char} (h : ∀ c ∈ digits, c.isDigit = true)
    (hrest : ∀ c ∈ rest.head?, c.isDigit = false) :
    (digits ++ rest).takeWhile Char.isDigit = digits := by
  rw [List.takeWhile_append_of_pos h]
  cases rest with
  | nil => simp
  | cons c rest => simp [hrest c rfl]

theorem isDigit_of_mem_padded {width n : Nat} {c : Char} (h : c ∈ padded width n) :
    c.isDigit = true := by
  rcases List.mem_append.mp h with hzero | hdigit
  · rw [(List.mem_replicate.mp hzero).2]
    rfl
  · exact isDigit_of_mem_toDigits hdigit

theorem padded_ne_nil (width n : Nat) : padded width n ≠ [] :=
  List.append_ne_nil_of_right_ne_nil _ Nat.toDigits_ne_nil

theorem padded_eq_cons (width n : Nat) :
    ∃ c digits, padded width n = c :: digits ∧ c.isDigit = true := by
  obtain ⟨c, digits, hdigits⟩ := List.exists_cons_of_ne_nil (padded_ne_nil width n)
  exact ⟨c, digits, hdigits, isDigit_of_mem_padded (hdigits ▸ List.mem_cons_self)⟩

/-- Zeros in front do not count. -/
theorem natural?_padded (width n : Nat) : natural? (padded width n) = some n := by
  rw [natural?_eq_ofDigitChars (padded_ne_nil width n) fun _ => isDigit_of_mem_padded, padded,
    Nat.ofDigitChars_append, Nat.ofDigitChars_replicate_zero, Nat.mul_zero,
    Nat.ofDigitChars_ten_toDigits]

/-- A number of 64 bits is read back from its digits. -/
theorem word64?_toDigits (n : UInt64) : word64? (Nat.toDigits 10 n.toNat) = some n := by
  obtain ⟨c, digits, hdigits, hdigit⟩ := toDigits_eq_cons n.toNat
  have hplus : c ≠ '+' := by
    rintro rfl
    contradiction
  have hnatural : natural? (c :: digits) = some n.toNat := by
    rw [← value_toDigits n.toNat, hdigits]
    rfl
  have hword : word64? (c :: digits) = (natural? (c :: digits)).bind toWord64? := by
    unfold word64?
    split
    · next heq => exact absurd (List.cons.inj heq).1 hplus
    · rfl
  rw [hdigits, hword, hnatural, Option.bind_some, toWord64?, if_pos n.toNat_lt_size,
    UInt64.ofNat_toNat]

theorem toSigned64?_eq_some {m n : Int} (h : toSigned64? m = some n) : m = n := by
  unfold toSigned64? at h
  split at h
  · exact Option.some.inj h
  · contradiction

/-- What is read as a signed number of 64 bits is one. -/
theorem toSigned64?_of_signed64? {text : List Char} {n : Int} (h : signed64? text = some n) :
    toSigned64? n = some n := by
  obtain ⟨m, -, hm⟩ := Option.bind_eq_some_iff.mp h
  rwa [toSigned64?_eq_some hm] at hm

/-- A signed number of 64 bits is read back from its text. -/
theorem signed64?_integerText {n : Int} (h : toSigned64? n = some n) :
    signed64? (integerText n).toList = some n := by
  have hnatural : natural? (Nat.toDigits 10 n.natAbs) = some n.natAbs := by
    rw [← natural?_padded 0 n.natAbs, padded, Nat.zero_sub, List.replicate_zero, List.nil_append]
  have hinteger : integer? (integerText n).toList = some n := by
    unfold integerText
    split
    · next hneg =>
      have htext : ("-" ++ Nat.repr n.natAbs).toList = '-' :: Nat.toDigits 10 n.natAbs := by simp
      have hvalue : -(n.natAbs : Int) = n := by omega
      rw [htext, integer?, hnatural, ← congrArg some hvalue]
      rfl
    · next hneg =>
      obtain ⟨c, digits, hdigits, hdigit⟩ := toDigits_eq_cons n.natAbs
      have hminus : c ≠ '-' := by
        rintro rfl
        contradiction
      have hplus : c ≠ '+' := by
        rintro rfl
        contradiction
      have hvalue : Int.ofNat n.natAbs = n := Int.natAbs_of_nonneg (by omega)
      rw [Nat.toList_repr, hdigits, integer?, ← hdigits, hnatural, Option.map_some, hvalue]
      · exact fun _ heq => hminus (List.cons.inj heq).1
      · exact fun _ heq => hplus (List.cons.inj heq).1
  rw [signed64?, hinteger, Option.bind_some, h]

/-- A number that fits is padded to the width. -/
theorem length_padded {width n : Nat} (hwidth : 0 < width) (hn : n < Nat.pow 10 width) :
    (padded width n).length = width := by
  have hle := (Nat.length_toDigits_le_iff (by decide) hwidth).mpr hn
  rw [padded, List.length_append, List.length_replicate]
  omega

end RefPolicy.Digits
