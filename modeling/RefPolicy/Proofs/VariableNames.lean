import RefPolicy.Settings.Source

/-!
# RefPolicy.Proofs.VariableNames

What the name of a variable speaks of.  `REFGUARD__`, the key of a section,
two underscores and a key of that section, all in capitals, speak of that
place and of no other: lower-casing undoes the capitals, the dot that replaces
two underscores stands between the two keys, and a path splits there again.

* `Variable.key?_ofWords` — the name, read as a key;
* `Tree.placeOf_ofWords` — the key, read as a place.
-/

namespace RefPolicy

/-! ## Words -/

/-- Small letters and the underscore. -/
def Text.wordChars : List Char := [
  '_', 'a', 'b', 'c', 'd', 'e', 'f', 'g', 'h', 'i', 'j', 'k', 'l', 'm',
  'n', 'o', 'p', 'q', 'r', 's', 't', 'u', 'v', 'w', 'x', 'y', 'z']

/-- No underscore stands at the end or before another. -/
def Text.spaced : List Char → Bool
  | [] => true
  | ['_'] => false
  | '_' :: '_' :: _ => false
  | _ :: rest => spaced rest

/-- A key as the sections of settings have them. -/
structure IsWord (word : String) : Prop where
  ne_nil : word.toList ≠ []
  chars : ∀ c ∈ word.toList, c ∈ Text.wordChars
  spaced : Text.spaced word.toList = true

/-- The same, as a computation tells it. -/
theorem IsWord.of_all {word : String} (hne : word.toList ≠ [])
    (hchars : (word.toList.all fun c => Text.wordChars.contains c) = true)
    (hspaced : Text.spaced word.toList = true) : IsWord word where
  ne_nil := hne
  chars c hc := List.contains_iff_mem.mp (List.all_eq_true.mp hchars c hc)
  spaced := hspaced

namespace Text

/-- A character of a word is a character of names and comes back from its capital. -/
theorem wordChar_facts {c : Char} (h : c ∈ wordChars) :
    Tree.isNameChar c = true ∧ c.toUpper ≠ 'Σ' ∧ lowerChar c.toUpper = [c] := by
  have hall : (wordChars.all fun c =>
      Tree.isNameChar c && (c.toUpper != 'Σ' && lowerChar c.toUpper == [c])) = true := by
    decide +kernel
  have hc := List.all_eq_true.mp hall c h
  simpa using hc

/-- A word in capitals is the word again in lower case. -/
theorem lowerAfter_map_toUpper {text : List Char} (h : ∀ c ∈ text, c ∈ wordChars)
    (before : List Char) : lowerAfter before (text.map Char.toUpper) = text := by
  induction text generalizing before with
  | nil => rfl
  | cons c text ih =>
      obtain ⟨hc, htext⟩ := List.forall_mem_cons.mp h
      obtain ⟨-, hsigma, hlower⟩ := wordChar_facts hc
      rw [List.map_cons, lowerAfter, if_neg hsigma, hlower, ih htext]
      rfl

/-- Two underscores after a word are a dot. -/
theorem dotted_append_of_spaced {word : List Char} (h : spaced word = true) (rest : List Char) :
    Variable.dotted (word ++ '_' :: '_' :: rest) = word ++ '.' :: Variable.dotted rest := by
  fun_induction spaced word with
  | case1 => rfl
  | case2 => contradiction
  | case3 => contradiction
  | case4 c word hlast hdouble ih =>
      rw [List.cons_append, Variable.dotted, ih h]
      · rfl
      -- An underscore here is not the last of the word, nor is there another after it.
      · rintro rest' rfl hrest
        cases word with
        | nil => exact hlast rfl rfl
        | cons next word => exact hdouble word rfl (by rw [(List.cons.inj hrest).1])

/-- Within a word no two underscores meet. -/
theorem dotted_of_spaced {word : List Char} (h : spaced word = true) :
    Variable.dotted word = word := by
  fun_induction spaced word with
  | case1 => rfl
  | case2 => contradiction
  | case3 => contradiction
  | case4 c word hlast hdouble ih =>
      rw [Variable.dotted, ih h]
      rintro rest rfl rfl
      exact hdouble rest rfl rfl

end Text

/-! ## Names and places -/

/-- The variable of two words gives them with a dot between. -/
theorem Variable.key?_ofWords {table key : String} (htable : IsWord table) (hkey : IsWord key)
    (value : String) :
    Variable.key? ⟨"REFGUARD__" ++ table.toUpper ++ "__" ++ key.toUpper, value⟩ =
      some (table ++ "." ++ key) := by
  have hmarkerAll : (marker.all fun c => Text.wordChars.contains c) = true := by decide +kernel
  have hmarker : ∀ c ∈ marker, c ∈ Text.wordChars := fun c hc =>
    List.contains_iff_mem.mp (List.all_eq_true.mp hmarkerAll c hc)
  have hcapitals : "REFGUARD__".toList = marker.map Char.toUpper := by decide +kernel
  let text := marker ++ (table.toList ++ '_' :: '_' :: key.toList)
  have hlabel : ("REFGUARD__" ++ table.toUpper ++ "__" ++ key.toUpper).toList =
      text.map Char.toUpper := by
    simp [text, hcapitals, String.toUpper]
  have hword : ∀ c ∈ text, c ∈ Text.wordChars := by
    intro c hc
    rcases List.mem_append.mp hc with hc | hc
    · exact hmarker c hc
    rcases List.mem_append.mp hc with hc | hc
    · exact htable.chars c hc
    · rcases List.mem_cons.mp hc with rfl | hc
      · decide
      · rcases List.mem_cons.mp hc with rfl | hc
        · decide
        · exact hkey.chars c hc
  have hbegins : marker.isPrefixOf text = true :=
    List.isPrefixOf_iff_prefix.mpr (List.prefix_append _ _)
  have hdotted : dotted (text.drop marker.length) = table.toList ++ '.' :: key.toList := by
    rw [List.drop_left, Text.dotted_append_of_spaced htable.spaced,
      Text.dotted_of_spaced hkey.spaced]
  rw [key?, hlabel, Text.lowerCase, Text.lowerAfter_map_toUpper hword, if_pos hbegins, hdotted]
  simp [← String.toList_inj]

namespace Tree

/-- A name is read up to what cannot be in it. -/
theorem readName_of_chars {name rest : List Char} (hne : name ≠ [])
    (hname : ∀ c ∈ name, isNameChar c = true) (hrest : ∀ c ∈ rest.head?, isNameChar c = false) :
    readName (name ++ rest) = some (String.ofList name, rest) := by
  have htake : (name ++ rest).takeWhile isNameChar = name := by
    rw [List.takeWhile_append_of_pos hname]
    cases rest with
    | nil => simp
    | cons c rest => simp [hrest c rfl]
  have hempty : name.isEmpty = false := by simpa using hne
  rw [readName, htake]
  simp [hempty]

/-- Two words with a dot between lead to an entry of a table. -/
theorem placeOf_ofWords {table key : String} (htable : IsWord table) (hkey : IsWord key) :
    placeOf (table ++ "." ++ key) = [.key table, .key key] := by
  have hchars {word : String} (h : IsWord word) : ∀ c ∈ word.toList, isNameChar c = true :=
    fun c hc => (Text.wordChar_facts (h.chars c hc)).1
  have hlist : (table ++ "." ++ key).toList = table.toList ++ '.' :: key.toList := by simp
  have hdot : ∀ c ∈ ('.' :: key.toList).head?, isNameChar c = false := by
    rintro c ⟨⟩
    decide
  have htableName := readName_of_chars htable.ne_nil (hchars htable) hdot
  have hnil : ∀ c ∈ ([] : List Char).head?, isNameChar c = false := by simp
  have hkeyName : readName key.toList = some (String.ofList key.toList, []) := by
    simpa using readName_of_chars hkey.ne_nil (hchars hkey) hnil
  rw [placeOf, readPath?, hlist, htableName]
  simp [readSteps, hkeyName]

end Tree

end RefPolicy
