import RefPolicy.Json.Reader

/-!
# RefPolicy.Proofs.JsonText

JSON text is read back as the value that wrote it.  Every reader is followed
on the text of its own part with anything behind it, as a part of a longer
text stands; only a number has to be ended by what follows.

* `readNumber_toDigits`, `readLiteral_literalChars` — numbers and strings;
* `readItems_itemsChars`, `readMembers_membersChars` — what stands between
  brackets and braces, if its values are read back;
* `Plain.isReadBack`, `parse?_text` — whole values, by recursion on them.
-/

namespace RefPolicy.Json

/-! ## Numbers -/

/-- The text behind a number does not go on with it. -/
def EndsNumber (rest : List Char) : Prop :=
  ∀ c ∈ rest.head?, c.isDigit = false ∧ c ≠ '.' ∧ c ≠ 'e' ∧ c ≠ 'E'

theorem endsNumber_nil : EndsNumber [] := by simp [EndsNumber]

theorem endsNumber_cons {c : Char} (h : c.isDigit = false ∧ c ≠ '.' ∧ c ≠ 'e' ∧ c ≠ 'E')
    (rest : List Char) : EndsNumber (c :: rest) := by
  simpa [EndsNumber] using h

/-- The digits of a number are read up to where they end. -/
theorem readWhole_toDigits (n : Nat) {rest : List Char} (hrest : EndsNumber rest) :
    readWhole (Nat.toDigits 10 n ++ rest) = some (Nat.toDigits 10 n, rest) := by
  have hstop : ∀ c ∈ rest.head?, c.isDigit = false := fun c hc => (hrest c hc).1
  by_cases hn : n = 0
  · subst hn
    rw [Nat.toDigits_zero, List.singleton_append, readWhole]
    cases rest with
    | nil => rfl
    | cons c rest => simp [hstop c rfl]
  · have htake : (Nat.toDigits 10 n ++ rest).takeWhile Char.isDigit = Nat.toDigits 10 n :=
      Digits.takeWhile_append (fun _ => Digits.isDigit_of_mem_toDigits) hstop
    unfold readWhole
    split
    · next heq =>
        obtain ⟨c, digits, hdigits, -⟩ := Digits.toDigits_eq_cons n
        have hhead := Digits.toDigits_head_ne_zero hn
        rw [hdigits] at heq hhead
        exact absurd (congrArg some (List.cons.inj heq).1) hhead
    · simp [htake, List.isEmpty_eq_false_iff.mpr Nat.toDigits_ne_nil]

/-- No fraction follows. -/
theorem readFraction_of_endsNumber {rest : List Char} (hrest : EndsNumber rest) :
    readFraction rest = some ([], rest) := by
  unfold readFraction
  split
  · exact absurd rfl (hrest '.' rfl).2.1
  · rfl

/-- Nor does an exponent. -/
theorem readExponent_of_endsNumber {rest : List Char} (hrest : EndsNumber rest) :
    readExponent rest = some ([], rest) := by
  cases rest with
  | nil => rfl
  | cons c rest =>
      have hc := (hrest c rfl).2.2
      simp [readExponent, hc.1, hc.2]

/-- A natural number is read back from its digits, whatever follows it. -/
theorem readNumber_toDigits (n : Nat) {rest : List Char} (hrest : EndsNumber rest) :
    readNumber (Nat.toDigits 10 n ++ rest) = some (natural n, rest) := by
  have hsign : ((Nat.toDigits 10 n ++ rest).take 1).filter (· == '-') = [] := by
    obtain ⟨c, digits, hdigits, hc⟩ := Digits.toDigits_eq_cons n
    have hne : c ≠ '-' := by
      rintro rfl
      exact absurd hc (by decide)
    simp [hdigits, hne]
  simp only [readNumber, hsign, List.length_nil, List.drop_zero, readWhole_toDigits n hrest,
    readFraction_of_endsNumber hrest, readExponent_of_endsNumber hrest, Option.bind_some,
    Option.bind_eq_bind, List.isEmpty_nil, Bool.and_self, if_true, Digits.value_toDigits]

/-! ## String literals -/

/-- A control character is read back from its two hexadecimal digits. -/
theorem hexValue_control {n : Nat} (h : n < 0x20) :
    hexValue 0 ['0', '0', Nat.digitChar (n / 16), Nat.digitChar (n % 16)] = some n := by
  revert n
  decide

/-- A character that needs no escape is read as itself. -/
theorem readPieces_unescaped {c : Char} (hquote : c ≠ '"') (hslash : c ≠ '\\')
    (hc : ¬ c.toNat < 0x20) (rest : List Char) :
    readPieces (c :: rest) =
      (readPieces rest).map fun (pieces, rest) => (.char c :: pieces, rest) := by
  rw [readPieces]
  · rw [if_neg hc]
    cases readPieces rest <;> rfl
  all_goals simp_all

/-- A short escape is read as the character that it stands for. -/
theorem readPieces_shortEscape {e c : Char} (h : shortEscape? e = some c) (rest : List Char) :
    readPieces ('\\' :: e :: rest) =
      (readPieces rest).map fun (pieces, rest) => (.char c :: pieces, rest) := by
  have hu : e ≠ 'u' := by
    rintro rfl
    simp [shortEscape?] at h
  rw [readPieces]
  · rw [h]
    cases readPieces rest <;> rfl
  all_goals simp_all

/-- The long escape of a control character is read as its code. -/
theorem readPieces_control {n : Nat} (h : n < 0x20) (rest : List Char) :
    readPieces ('\\' :: 'u' :: '0' :: '0' :: Nat.digitChar (n / 16) :: Nat.digitChar (n % 16) ::
        rest) =
      (readPieces rest).map fun (pieces, rest) => (.code n :: pieces, rest) := by
  rw [readPieces, hexValue_control h]
  cases readPieces rest <;> rfl

/-- The code of a control character stands on its own: it is no half of a pair. -/
theorem joinPieces_control {c : Char} (h : c.toNat < 0x20) (pieces : List Piece) :
    joinPieces none (.code c.toNat :: pieces) = (joinPieces none pieces).map (c :: ·) := by
  have hhigh : isHighHalf c.toNat = false := by simp [isHighHalf]; omega
  have hlow : isLowHalf c.toNat = false := by simp [isLowHalf]; omega
  simp [joinPieces, hhigh, hlow]

/-- An escaped character is read as one piece, which is joined to that character. -/
theorem readPieces_escapedChar (c : Char) :
    ∃ piece,
      (∀ rest, readPieces (escapedChar c ++ rest) =
        (readPieces rest).map fun (pieces, rest) => (piece :: pieces, rest)) ∧
      ∀ pieces, joinPieces none (piece :: pieces) = (joinPieces none pieces).map (c :: ·) := by
  unfold escapedChar
  split
  case h_8 hquote hslash _ _ _ _ _ =>
    split
    · next h => exact ⟨.code c.toNat, readPieces_control h, joinPieces_control h⟩
    · next h => exact ⟨.char c, readPieces_unescaped hquote hslash h, fun _ => rfl⟩
  all_goals exact ⟨.char _, readPieces_shortEscape rfl, fun _ => rfl⟩

/-- Escaped text is read back up to the quote that ends it. -/
theorem readPieces_flatMap_escapedChar (text rest : List Char) :
    ∃ pieces, readPieces (text.flatMap escapedChar ++ '"' :: rest) = some (pieces, rest) ∧
      joinPieces none pieces = some text := by
  induction text with
  | nil => exact ⟨[], rfl, rfl⟩
  | cons c text ih =>
      obtain ⟨pieces, hread, hjoin⟩ := ih
      obtain ⟨piece, hpiece, hpieces⟩ := readPieces_escapedChar c
      refine ⟨piece :: pieces, ?_, ?_⟩
      · rw [List.flatMap_cons, List.append_assoc, hpiece, hread]
        rfl
      · rw [hpieces, hjoin]
        rfl

theorem literalChars_some (text : String) :
    literalChars (some text) = '"' :: (text.toList.flatMap escapedChar ++ ['"']) := rfl

/-- The opening quote is taken off before the literal is read. -/
theorem readLiteral_literalChars (literal : Literal) (rest : List Char) :
    ∃ text, literalChars literal ++ rest = '"' :: text ∧
      readLiteral text = some (literal, rest) := by
  cases literal with
  | none => exact ⟨"\\ud800\"".toList ++ rest, rfl, rfl⟩
  | some text =>
      obtain ⟨pieces, hread, hjoin⟩ := readPieces_flatMap_escapedChar text.toList rest
      refine ⟨text.toList.flatMap escapedChar ++ '"' :: rest, ?_, ?_⟩
      · simp only [literalChars_some, List.cons_append, List.append_assoc, List.nil_append]
      · simp [readLiteral, hread, hjoin]

/-! ## Values -/

/-- Values without numbers that are kept as written. -/
inductive Plain : Json → Prop
  | null : Plain null
  | bool (value : Bool) : Plain (bool value)
  | natural (value : Nat) : Plain (natural value)
  | string (text : Literal) : Plain (string text)
  | array {items : List Json} (h : ∀ item ∈ items, Plain item) : Plain (array items)
  | object {members : List (Literal × Json)} (h : ∀ member ∈ members, Plain member.2) :
    Plain (object members)

/-- An object is as plain as its members. -/
theorem plain_ofMembers {members : List (String × Json)}
    (h : ∀ member ∈ members, Plain member.2) : (ofMembers members).Plain := by
  refine .object fun member hmember => ?_
  obtain ⟨source, hsource, rfl⟩ := List.mem_map.mp hmember
  exact h source hsource

/-- The value is read from the front of every text that goes on after it, with
as much fuel as it has characters. -/
def IsReadBack (value : Json) : Prop :=
  ∀ fuel rest, value.chars.length ≤ fuel → EndsNumber rest →
    readValue fuel (value.chars ++ rest) = some (value, rest)

theorem skipBlanks_cons {c : Char} (h : isBlank c = false) (rest : List Char) :
    skipBlanks (c :: rest) = c :: rest := by
  simp [skipBlanks, h]

/-- What a value starts with is no blank and closes nothing. -/
def StartsValue (text : List Char) : Prop :=
  ∃ c rest, text = c :: rest ∧ isBlank c = false ∧ c ≠ ']' ∧ c ≠ '\x7d'

theorem StartsValue.append {text : List Char} (h : StartsValue text) (rest : List Char) :
    StartsValue (text ++ rest) := by
  obtain ⟨c, text, rfl, hc⟩ := h
  exact ⟨c, text ++ rest, rfl, hc⟩

/-- No blank is skipped in front of a value. -/
theorem StartsValue.skipBlanks {text : List Char} (h : StartsValue text) :
    skipBlanks text = text := by
  obtain ⟨c, text, rfl, hblank, -⟩ := h
  exact skipBlanks_cons hblank text

theorem isBlank_of_isDigit {c : Char} (h : c.isDigit = true) : isBlank c = false := by
  simp only [isBlank, Bool.or_eq_false_iff, beq_eq_false_iff_ne, ne_eq]
  refine ⟨⟨⟨?_, ?_⟩, ?_⟩, ?_⟩ <;> (rintro rfl; exact absurd h (by decide))

/-- A literal starts with its quote. -/
theorem startsValue_literalChars (literal : Literal) : StartsValue (literalChars literal) := by
  cases literal with
  | none => exact ⟨'"', _, rfl, by decide, by decide, by decide⟩
  | some text => exact ⟨'"', _, rfl, by decide, by decide, by decide⟩

/-- A number starts with a digit. -/
theorem startsValue_toDigits (n : Nat) : StartsValue (Nat.toDigits 10 n) := by
  obtain ⟨c, digits, hdigits, hc⟩ := Digits.toDigits_eq_cons n
  refine ⟨c, digits, hdigits, isBlank_of_isDigit hc, ?_, ?_⟩ <;>
    (rintro rfl; exact absurd hc (by decide))

/-- Whatever is written starts like a value. -/
theorem Plain.startsValue {value : Json} (h : value.Plain) : StartsValue value.chars := by
  cases h with
  | null => exact ⟨'n', _, rfl, by decide, by decide, by decide⟩
  | bool value => cases value <;> exact ⟨_, _, rfl, by decide, by decide, by decide⟩
  | natural n => exact startsValue_toDigits n
  | string text => exact startsValue_literalChars text
  | array h => exact ⟨'[', _, rfl, by decide, by decide, by decide⟩
  | object h => exact ⟨'\x7b', _, rfl, by decide, by decide, by decide⟩

/-! ## Reading values back -/

/-- What starts with a digit is read as a number. -/
theorem readValue_of_isDigit {c : Char} (h : c.isDigit = true) (fuel : Nat) (text : List Char) :
    readValue (fuel + 1) (c :: text) = readNumber (c :: text) := by
  rw [readValue]
  -- No other form of a value starts with a digit.
  all_goals
    intro rest heq
    obtain ⟨rfl, -⟩ := List.cons.inj heq
    exact absurd h (by decide)

/-- A word that is read with any fuel at all. -/
theorem isReadBack_of_word {value : Json} (hne : value.chars ≠ [])
    (h : ∀ fuel rest, readValue (fuel + 1) (value.chars ++ rest) = some (value, rest)) :
    value.IsReadBack := by
  intro fuel rest hfuel _
  have hpos := List.length_pos_iff.mpr hne
  obtain ⟨fuel, rfl⟩ := Nat.exists_eq_add_one_of_ne_zero (show fuel ≠ 0 by omega)
  exact h fuel rest

/-- A number is read back. -/
theorem isReadBack_natural (n : Nat) : (natural n).IsReadBack := by
  intro fuel rest hfuel hrest
  obtain ⟨c, digits, hdigits, hc⟩ := Digits.toDigits_eq_cons n
  have hnumber := readNumber_toDigits n hrest
  simp only [chars, hdigits, List.length_cons, List.cons_append] at hfuel hnumber ⊢
  obtain ⟨fuel, rfl⟩ := Nat.exists_eq_add_one_of_ne_zero (show fuel ≠ 0 by omega)
  rw [readValue_of_isDigit hc, hnumber]

/-- A string is read back. -/
theorem isReadBack_string (literal : Literal) : (string literal).IsReadBack := by
  intro fuel rest hfuel _
  obtain ⟨text, htext, hread⟩ := readLiteral_literalChars literal rest
  obtain ⟨c, _, hchars, -⟩ := startsValue_literalChars literal
  rw [chars] at hfuel ⊢
  rw [hchars, List.length_cons] at hfuel
  obtain ⟨fuel, rfl⟩ := Nat.exists_eq_add_one_of_ne_zero (show fuel ≠ 0 by omega)
  rw [htext, readValue, hread]
  rfl

theorem itemsChars_cons_cons (item next : Json) (items : List Json) :
    itemsChars (item :: next :: items) = item.chars ++ ',' :: itemsChars (next :: items) := rfl

theorem startsValue_itemsChars {item : Json} (h : item.Plain) (items : List Json) :
    StartsValue (itemsChars (item :: items)) := by
  cases items with
  | nil => exact h.startsValue
  | cons next items => exact h.startsValue.append _

/-- Items are read back up to the closing bracket, each with what fuel is left. -/
theorem readItems_itemsChars {items : List Json} (hne : items ≠ [])
    (hplain : ∀ item ∈ items, Plain item) (hread : ∀ item ∈ items, IsReadBack item) :
    ∀ fuel rest, (itemsChars items).length + 1 ≤ fuel →
      readItems fuel (itemsChars items ++ ']' :: rest) = some (items, rest) := by
  induction items with
  | nil => exact absurd rfl hne
  | cons item items ih =>
      intro fuel rest hfuel
      rw [List.forall_mem_cons] at hplain hread
      obtain ⟨fuel, rfl⟩ := Nat.exists_eq_add_one_of_ne_zero (show fuel ≠ 0 by omega)
      cases items with
      | nil =>
          have hitem : readValue fuel (item.chars ++ ']' :: rest) = some (item, ']' :: rest) :=
            hread.1 fuel (']' :: rest) (Nat.le_of_succ_le_succ hfuel)
              (endsNumber_cons (by decide) rest)
          rw [itemsChars, readItems, hitem]
          rfl
      | cons next items =>
          rw [itemsChars_cons_cons, List.length_append, List.length_cons] at hfuel
          -- Each item takes one unit of fuel, its comma, from what the rest of them needs.
          have hitem := hread.1 fuel (',' :: (itemsChars (next :: items) ++ ']' :: rest))
            (by omega) (endsNumber_cons (by decide) _)
          have hskip := ((startsValue_itemsChars (List.forall_mem_cons.mp hplain.2).1 items).append
            (']' :: rest)).skipBlanks
          have hitems := ih (List.cons_ne_nil _ _) hplain.2 hread.2 fuel rest (by omega)
          rw [itemsChars_cons_cons, List.append_assoc, List.cons_append, readItems, hitem]
          simp only [Option.bind_eq_bind, Option.bind_some,
            skipBlanks_cons (show isBlank ',' = false by decide), hskip, hitems]

/-- An array is read back if its items are. -/
theorem isReadBack_array {items : List Json} (hplain : ∀ item ∈ items, Plain item)
    (hread : ∀ item ∈ items, IsReadBack item) : (array items).IsReadBack := by
  intro fuel rest hfuel _
  have hchars : (array items).chars ++ rest = '[' :: (itemsChars items ++ ']' :: rest) := by
    simp only [chars, List.cons_append, List.append_assoc, List.nil_append]
  have hlength : (array items).chars.length = (itemsChars items).length + 2 := by
    simp [chars]
  obtain ⟨fuel, rfl⟩ := Nat.exists_eq_add_one_of_ne_zero (show fuel ≠ 0 by omega)
  rw [hchars, readValue]
  cases items with
  | nil => rfl
  | cons item items =>
      have hitems := readItems_itemsChars (List.cons_ne_nil item items) hplain hread fuel rest
        (by omega)
      have hstart := (startsValue_itemsChars (List.forall_mem_cons.mp hplain).1 items).append
        (']' :: rest)
      rw [hstart.skipBlanks]
      obtain ⟨c, text, htext, -, hc, -⟩ := hstart
      rw [htext] at hitems ⊢
      split
      · next heq => exact absurd (List.cons.inj heq).1 hc
      · rw [hitems]
        rfl

theorem membersChars_cons_cons (member next : Literal × Json) (members : List (Literal × Json)) :
    membersChars (member :: next :: members) =
      literalChars member.1 ++ ':' :: (member.2.chars ++ ',' :: membersChars (next :: members)) :=
  rfl

theorem startsValue_membersChars (member : Literal × Json) (members : List (Literal × Json)) :
    StartsValue (membersChars (member :: members)) := by
  cases members with
  | nil => exact (startsValue_literalChars member.1).append _
  | cons next members => exact (startsValue_literalChars member.1).append _

/-- The last member is read up to the brace behind it. -/
theorem readMembers_last (key : Literal) {value : Json} (hplain : value.Plain) {fuel : Nat}
    {rest : List Char}
    (hvalue : readValue fuel (value.chars ++ '\x7d' :: rest) = some (value, '\x7d' :: rest)) :
    readMembers (fuel + 1) (literalChars key ++ ':' :: (value.chars ++ '\x7d' :: rest)) =
      some ([(key, value)], rest) := by
  obtain ⟨text, htext, hread⟩ := readLiteral_literalChars key _
  have hstart := (hplain.startsValue.append ('\x7d' :: rest)).skipBlanks
  rw [htext, readMembers]
  simp only [hread, Option.bind_eq_bind, Option.bind_some,
    skipBlanks_cons (show isBlank ':' = false by decide), hstart, hvalue,
    skipBlanks_cons (show isBlank '\x7d' = false by decide)]

/-- Behind a comma the other members are read. -/
theorem readMembers_more (key : Literal) {value : Json} (hplain : value.Plain) {fuel : Nat}
    {rest behind : List Char} {members : List (Literal × Json)}
    (hvalue : readValue fuel (value.chars ++ ',' :: rest) = some (value, ',' :: rest))
    (hmembers : readMembers fuel (skipBlanks rest) = some (members, behind)) :
    readMembers (fuel + 1) (literalChars key ++ ':' :: (value.chars ++ ',' :: rest)) =
      some ((key, value) :: members, behind) := by
  obtain ⟨text, htext, hread⟩ := readLiteral_literalChars key _
  have hstart := (hplain.startsValue.append (',' :: rest)).skipBlanks
  rw [htext, readMembers]
  simp only [hread, Option.bind_eq_bind, Option.bind_some,
    skipBlanks_cons (show isBlank ':' = false by decide), hstart, hvalue,
    skipBlanks_cons (show isBlank ',' = false by decide), hmembers]

/-- Members are read back up to the closing brace. -/
theorem readMembers_membersChars {members : List (Literal × Json)} (hne : members ≠ [])
    (hplain : ∀ member ∈ members, Plain member.2)
    (hread : ∀ member ∈ members, IsReadBack member.2) :
    ∀ fuel rest, (membersChars members).length + 1 ≤ fuel →
      readMembers fuel (membersChars members ++ '\x7d' :: rest) = some (members, rest) := by
  induction members with
  | nil => exact absurd rfl hne
  | cons member members ih =>
      intro fuel rest hfuel
      obtain ⟨key, value⟩ := member
      rw [List.forall_mem_cons] at hplain hread
      dsimp only at hplain hread
      obtain ⟨fuel, rfl⟩ := Nat.exists_eq_add_one_of_ne_zero (show fuel ≠ 0 by omega)
      cases members with
      | nil =>
          have hchars : membersChars [(key, value)] = literalChars key ++ ':' :: value.chars := rfl
          rw [hchars, List.length_append, List.length_cons] at hfuel
          have hvalue := hread.1 fuel ('\x7d' :: rest) (by omega) (endsNumber_cons (by decide) rest)
          rw [hchars, List.append_assoc, List.cons_append, readMembers_last key hplain.1 hvalue]
      | cons next members =>
          rw [membersChars_cons_cons] at hfuel ⊢
          simp only [List.length_append, List.length_cons] at hfuel
          have hvalue := hread.1 fuel (',' :: (membersChars (next :: members) ++ '\x7d' :: rest))
            (by omega) (endsNumber_cons (by decide) _)
          have hskip := ((startsValue_membersChars next members).append
            ('\x7d' :: rest)).skipBlanks
          have hmembers := ih (List.cons_ne_nil _ _) hplain.2 hread.2 fuel rest (by omega)
          rw [← hskip] at hmembers
          simp only [List.append_assoc, List.cons_append]
          exact readMembers_more key hplain.1 hvalue hmembers

/-- An object is read back if what stands in it is. -/
theorem isReadBack_object {members : List (Literal × Json)}
    (hplain : ∀ member ∈ members, Plain member.2)
    (hread : ∀ member ∈ members, IsReadBack member.2) : (object members).IsReadBack := by
  intro fuel rest hfuel _
  have hchars : (object members).chars ++ rest =
      '\x7b' :: (membersChars members ++ '\x7d' :: rest) := by
    simp only [chars, List.cons_append, List.append_assoc, List.nil_append]
  have hlength : (object members).chars.length = (membersChars members).length + 2 := by
    simp [chars]
  obtain ⟨fuel, rfl⟩ := Nat.exists_eq_add_one_of_ne_zero (show fuel ≠ 0 by omega)
  rw [hchars, readValue]
  cases members with
  | nil => rfl
  | cons member members =>
      have hmembers := readMembers_membersChars (List.cons_ne_nil member members) hplain hread
        fuel rest (by omega)
      have hstart := (startsValue_membersChars member members).append ('\x7d' :: rest)
      rw [hstart.skipBlanks]
      obtain ⟨c, text, htext, -, -, hc⟩ := hstart
      rw [htext] at hmembers ⊢
      split
      · next heq => exact absurd (List.cons.inj heq).1 hc
      · rw [hmembers]
        rfl

/-- Every value without numbers kept as written is read back. -/
theorem Plain.isReadBack {value : Json} (h : value.Plain) : value.IsReadBack := by
  induction h with
  | null => exact isReadBack_of_word (by decide) fun _ _ => rfl
  | bool value => cases value <;> exact isReadBack_of_word (by decide) fun _ _ => rfl
  | natural n => exact isReadBack_natural n
  | string text => exact isReadBack_string text
  | array hplain ih => exact isReadBack_array hplain ih
  | object hplain ih => exact isReadBack_object hplain ih

/-- Every plain value is read back from its text. -/
theorem parse?_text {value : Json} (h : value.Plain) : parse? value.text = some value := by
  have hread : readValue (2 * value.chars.length + 2) (value.chars ++ []) = some (value, []) :=
    h.isReadBack _ [] (by omega) endsNumber_nil
  rw [List.append_nil] at hread
  simp only [parse?, text, String.toList_ofList, read?, h.startsValue.skipBlanks, hread,
    Option.bind_eq_bind, Option.bind_some]
  rfl

end RefPolicy.Json
