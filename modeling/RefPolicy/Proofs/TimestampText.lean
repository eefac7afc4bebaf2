import RefPolicy.Timestamp

/-!
# RefPolicy.Proofs.TimestampText

A written timestamp is read back.  The reader takes more than is ever
written — blanks, short numbers, offsets — so each part of the written form
is followed through the reader that takes it off the front of the text.

* `readYear_yearText`, `readShort_padded`, `readFraction_fractionText` — the
  parts, with anything behind them that ends a number;
* `atOffset?_zero` — universal time is left as it is;
* `parse?_text` — the whole.
-/

namespace RefPolicy

namespace Day

theorem monthLength_le (year : Int) (month : Nat) : monthLength year month ≤ 31 := by
  unfold monthLength
  split <;> (try split) <;> omega

/-- Only the twelve months have days. -/
theorem month_le_of_monthLength_pos {year : Int} {month : Nat}
    (h : 0 < monthLength year month) : month ≤ 12 := by
  unfold monthLength at h
  split at h <;> omega

/-- The parts of a real day have two digits at most. -/
theorem IsReal.le {d : Day} (h : d.IsReal) : d.month ≤ 12 ∧ d.day ≤ 31 :=
  ⟨month_le_of_monthLength_pos (Nat.lt_of_lt_of_le h.1 h.2),
    Nat.le_trans h.2 (monthLength_le d.year d.month)⟩

end Day

namespace Timestamp

/-! ## Numbers -/

/-- Where the digits end, by what follows or by their limit. -/
theorem readDigits_append {digits rest : List Char} {limit n : Nat}
    (h : ∀ c ∈ digits, c.isDigit = true) (hvalue : Digits.natural? digits = some n)
    (hlimit : digits.length ≤ limit)
    (hrest : digits.length = limit ∨ ∀ c ∈ rest.head?, c.isDigit = false) :
    readDigits limit (digits ++ rest) = some (n, rest) := by
  have htake : (digits ++ rest).take limit = digits ++ rest.take (limit - digits.length) := by
    rw [List.take_append, List.take_of_length_le hlimit]
  have hstop : ∀ c ∈ (rest.take (limit - digits.length)).head?, c.isDigit = false := by
    rcases hrest with heq | hrest
    · simp [heq]
    · rw [List.head?_take]
      split
      · simp
      · exact hrest
  rw [readDigits, htake, Digits.takeWhile_append h hstop, hvalue]
  simp

/-- Digits are not blank, so nothing is trimmed in front of them. -/
theorem trimStart_padded (width n : Nat) (rest : List Char) :
    Text.trimStart (Digits.padded width n ++ rest) = Digits.padded width n ++ rest := by
  obtain ⟨c, digits, hdigits, hc⟩ := Digits.padded_eq_cons width n
  rw [hdigits, List.cons_append, Text.trimStart_of_isBlank_eq_false (Text.isBlank_of_isDigit hc)]

/-- A part of two digits is read back. -/
theorem readShort_padded {n : Nat} (hn : n < 100) (rest : List Char) :
    readShort (Digits.padded 2 n ++ rest) = some (n, rest) := by
  have hlength : (Digits.padded 2 n).length = 2 := Digits.length_padded (by decide) hn
  rw [readShort, trimStart_padded]
  exact readDigits_append (fun _ => Digits.isDigit_of_mem_padded) (Digits.natural?_padded 2 n)
    (Nat.le_of_eq hlength) (.inl hlength)

/-- A mark between two parts is passed over. -/
theorem readMark_cons {mark : Char} (h : Text.isBlank mark = false) (rest : List Char) :
    readMark mark (mark :: rest) = some rest := by
  simp [readMark, Text.trimStart_of_isBlank_eq_false h]

/-! ## The year -/

/-- A year without a sign has four digits. -/
theorem readYear_of_isDigit {c : Char} (h : c.isDigit = true) (text : List Char) :
    readYear (c :: text) = (readDigits 4 (c :: text)).map fun (n, rest) => ((n : Int), rest) := by
  rw [readYear, Text.trimStart_of_isBlank_eq_false (Text.isBlank_of_isDigit h)]
  split
  · next heq =>
      obtain ⟨rfl, -⟩ := List.cons.inj heq
      exact absurd h (by decide)
  · next heq =>
      obtain ⟨rfl, -⟩ := List.cons.inj heq
      exact absurd h (by decide)
  · rfl

/-- A year behind a sign may have any number of digits. -/
theorem readDigits_padded (width n : Nat) {rest : List Char}
    (hrest : ∀ c ∈ rest.head?, c.isDigit = false) :
    readDigits (Digits.padded width n ++ rest).length (Digits.padded width n ++ rest) =
      some (n, rest) :=
  readDigits_append (fun _ => Digits.isDigit_of_mem_padded) (Digits.natural?_padded width n)
    (by simp) (.inr hrest)

/-- A year is read back, also where it is negative or has more than four digits. -/
theorem readYear_yearText (year : Int) {rest : List Char}
    (hrest : ∀ c ∈ rest.head?, c.isDigit = false) :
    readYear (yearText year ++ rest) = some (year, rest) := by
  unfold yearText
  split
  · next h =>
      have hlength : (Digits.padded 4 year.natAbs).length = 4 :=
        Digits.length_padded (by decide) (show year.natAbs < 10000 by omega)
      have hread : readDigits 4 (Digits.padded 4 year.natAbs ++ rest) = some (year.natAbs, rest) :=
        readDigits_append (fun _ => Digits.isDigit_of_mem_padded) (Digits.natural?_padded 4 _)
          (Nat.le_of_eq hlength) (.inl hlength)
      obtain ⟨c, digits, hdigits, hc⟩ := Digits.padded_eq_cons 4 year.natAbs
      rw [hdigits, List.cons_append] at hread ⊢
      rw [readYear_of_isDigit hc, hread, Option.map_some]
      simp only [Int.natAbs_of_nonneg h.1]
  · next h =>
      have hread := readDigits_padded 4 year.natAbs hrest
      split
      · next hneg =>
          rw [List.cons_append, readYear, Text.trimStart_of_isBlank_eq_false (by decide)]
          simp only [hread, Option.map_some]
          rw [show -(year.natAbs : Int) = year by omega]
      · next hneg =>
          rw [List.cons_append, readYear, Text.trimStart_of_isBlank_eq_false (by decide)]
          simp only [hread, Option.map_some]
          rw [show (year.natAbs : Int) = year by omega]

/-! ## The fraction -/

/-- A fraction of any width is read back as nanoseconds. -/
theorem readFraction_padded {width n : Nat} (hwidth : 0 < width ∧ width ≤ 9)
    (hn : n < Nat.pow 10 width) {rest : List Char} (hrest : ∀ c ∈ rest.head?, c.isDigit = false) :
    readFraction ('.' :: (Digits.padded width n ++ rest)) =
      some (n * Nat.pow 10 (9 - width), rest) := by
  have hlength : (Digits.padded width n).length = width := Digits.length_padded hwidth.1 hn
  have hdigits : (Digits.padded width n ++ rest).takeWhile Char.isDigit = Digits.padded width n :=
    Digits.takeWhile_append (fun _ => Digits.isDigit_of_mem_padded) hrest
  have htake : (Digits.padded width n).take 9 = Digits.padded width n :=
    List.take_of_length_le (by omega)
  simp only [readFraction, hdigits, htake, Digits.natural?_padded, Option.map_some, hlength,
    List.drop_left' hlength]

/-- So is the fraction that is written, of which there may be none. -/
theorem readFraction_fractionText {n : Nat} (hn : n < 1000000000) {rest : List Char}
    (hrest : ∀ c ∈ rest.head?, c.isDigit = false ∧ c ≠ '.') :
    readFraction (fractionText n ++ rest) = some (n, rest) := by
  have hstop : ∀ c ∈ rest.head?, c.isDigit = false := fun c hc => (hrest c hc).1
  unfold fractionText
  split
  · next hzero =>
      subst hzero
      rw [List.nil_append, readFraction]
      intro text heq
      exact (hrest '.' (by rw [heq]; rfl)).2 rfl
  split
  · next h =>
      rw [List.cons_append,
        readFraction_padded (by decide) (show n / 1000000 < 1000 by omega) hstop]
      simp only [Option.some.injEq, Prod.mk.injEq, and_true, Nat.pow_eq]
      omega
  split
  · next h =>
      rw [List.cons_append,
        readFraction_padded (by decide) (show n / 1000 < 1000000 by omega) hstop]
      simp only [Option.some.injEq, Prod.mk.injEq, and_true, Nat.pow_eq]
      omega
  · rw [List.cons_append, readFraction_padded (by decide) hn hstop]
    simp

/-! ## The whole -/

/-- What a timestamp consists of makes up a timestamp. -/
theorem ofReadings?_eq (t : Timestamp) :
    ofReadings? t.day t.hour t.minute t.second t.nanosecond = some t :=
  dif_pos ⟨t.day_isReal, t.year_inRange, t.clock_inRange⟩

/-- Universal time is left as it is. -/
theorem atOffset?_zero (t : Timestamp) : t.atOffset? 0 = some t := by
  obtain ⟨hhour, hminute, -⟩ := t.clock_inRange
  have hnegative : ¬ ((t.hour * 60 + t.minute : Nat) : Int) - 0 < 0 := by omega
  have hlate : ¬ (1440 : Int) ≤ ((t.hour * 60 + t.minute : Nat) : Int) - 0 := by omega
  have hminutes : ((((t.hour * 60 + t.minute : Nat) : Int) - 0) % 1440).toNat =
      t.hour * 60 + t.minute := by omega
  have hhours : (t.hour * 60 + t.minute) / 60 = t.hour := by omega
  have hrest : (t.hour * 60 + t.minute) % 60 = t.minute := by omega
  simp only [atOffset?, if_neg hnegative, if_neg hlate, hminutes, hhours, hrest]
  exact ofReadings?_eq t

/-- The parts of a timestamp are read back one by one, up to its zone. -/
theorem readLocal_chars (t : Timestamp) : readLocal t.chars = some (t, ['Z']) := by
  obtain ⟨hmonth, hday⟩ := t.day_isReal.le
  obtain ⟨hhour, hminute, hsecond, hnanosecond⟩ := t.clock_inRange
  have hyear (rest : List Char) :
      readYear (yearText t.day.year ++ '-' :: rest) = some (t.day.year, '-' :: rest) :=
    readYear_yearText _ (by simp)
  have hfraction : readFraction (fractionText t.nanosecond ++ ['Z']) =
      some (t.nanosecond, ['Z']) :=
    readFraction_fractionText hnanosecond (by simp)
  have hreadings : ofReadings? ⟨t.day.year, t.day.month, t.day.day⟩ t.hour t.minute t.second
      t.nanosecond = some t := ofReadings?_eq t
  have hdash (rest : List Char) : readMark '-' ('-' :: rest) = some rest :=
    readMark_cons (by decide) rest
  have hcolon (rest : List Char) : readMark ':' (':' :: rest) = some rest :=
    readMark_cons (by decide) rest
  simp only [chars, List.append_assoc, List.cons_append, readLocal, Option.bind_eq_bind,
    Option.bind_some, hyear, hdash, hcolon, hfraction, readSeparator,
    readShort_padded (show t.day.month < 100 by omega),
    readShort_padded (show t.day.day < 100 by omega),
    readShort_padded (show t.hour < 100 by omega),
    readShort_padded (show t.minute < 100 by omega),
    readShort_padded (show t.second < 100 by omega), hreadings]

/-- Every timestamp is read back from its text. -/
theorem parse?_text (t : Timestamp) : parse? t.text = some t := by
  have hoffset : readOffset (Text.trimStart ['Z']) = some (0, []) := rfl
  have hend : Text.trimStart [] = [] := rfl
  simp only [parse?, text, String.toList_ofList, read?, readLocal_chars, Option.bind_eq_bind,
    Option.bind_some, hoffset, hend, List.isEmpty_nil, if_true, atOffset?_zero]

end Timestamp

end RefPolicy
