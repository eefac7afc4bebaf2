/-!
# RefPolicy.Text.Blank

White space as the Unicode property `White_Space` has it, and trimming it
from the ends of a text.

* `isBlank_of_visible` — no visible character of ASCII is blank;
* `trim_ne_nil_of_mem` — a text with anything but blanks in it is not trimmed away;
* `EndsNonblank.trimEnd_append_line_feed` — trimming a line that does not end in
  a blank takes off its line feed and nothing else;
* `WholeLines.trimEnd_append`, `trimEnd_inj` — trimming a text of such lines.
-/

namespace RefPolicy.Text

/-- The characters with the property `White_Space`. -/
def isBlank (c : Char) : Bool :=
  let n := c.toNat
  (9 ≤ n && n ≤ 13) || n == 0x20 || n == 0x85 || n == 0xA0 || n == 0x1680 ||
    (0x2000 ≤ n && n ≤ 0x200A) || n == 0x2028 || n == 0x2029 || n == 0x202F || n == 0x205F ||
    n == 0x3000

/-- Drop blanks at the front. -/
def trimStart (text : List Char) : List Char := text.dropWhile isBlank

/-- Drop blanks at the back. -/
def trimEnd (text : List Char) : List Char := (trimStart text.reverse).reverse

/-- Drop blanks at both ends. -/
def trim (text : List Char) : List Char := trimEnd (trimStart text)

/-- The visible characters of ASCII are not blank. -/
theorem isBlank_of_visible {c : Char} (hlow : 0x20 < c.toNat) (hhigh : c.toNat < 0x7F) :
    isBlank c = false := by
  simp [isBlank]
  omega

theorem isBlank_of_isDigit {c : Char} (h : c.isDigit = true) : isBlank c = false := by
  obtain ⟨hlow, hhigh⟩ := Char.isDigit_iff_toNat.mp h
  exact isBlank_of_visible (Nat.lt_of_lt_of_le (by decide) hlow)
    (Nat.lt_of_le_of_lt hhigh (by decide))

/-- Nothing is trimmed where the text begins with something else. -/
theorem trimStart_of_isBlank_eq_false {c : Char} (h : isBlank c = false) (text : List Char) :
    trimStart (c :: text) = c :: text := by
  simp [trimStart, h]

/-- Trimming the front drops blanks only. -/
theorem mem_trimStart {c : Char} (h : isBlank c = false) {text : List Char} (hmem : c ∈ text) :
    c ∈ trimStart text := by
  induction text with
  | nil => cases hmem
  | cons d text ih =>
      cases hd : isBlank d with
      | false =>
          rw [trimStart_of_isBlank_eq_false hd]
          exact hmem
      | true =>
          have hne : c ≠ d := fun heq => by simp [heq, hd] at h
          rw [trimStart, List.dropWhile_cons_of_pos hd]
          exact ih ((List.mem_cons.mp hmem).resolve_left hne)

/-- A text with anything but blanks in it is not trimmed away. -/
theorem trim_ne_nil_of_mem {c : Char} (h : isBlank c = false) {text : List Char}
    (hmem : c ∈ text) : trim text ≠ [] := by
  have hstart : c ∈ (trimStart text).reverse := List.mem_reverse.mpr (mem_trimStart h hmem)
  exact List.ne_nil_of_mem (List.mem_reverse.mpr (mem_trimStart h hstart))

/-! ## Texts that end in a line feed -/

/-- The last character is not blank, so nothing is trimmed off the end of the text. -/
def EndsNonblank (text : List Char) : Prop := ∃ front c, isBlank c = false ∧ text = front ++ [c]

namespace EndsNonblank

variable {text : List Char}

theorem ne_nil (h : EndsNonblank text) : text ≠ [] := by
  obtain ⟨front, c, -, rfl⟩ := h
  simp

/-- Only the end of a text counts. -/
theorem append (front : List Char) (h : EndsNonblank text) : EndsNonblank (front ++ text) := by
  obtain ⟨before, c, hc, rfl⟩ := h
  exact ⟨front ++ before, c, hc, by rw [List.append_assoc]⟩

/-- So it is where nothing in the text is blank. -/
theorem of_forall (hne : text ≠ []) (h : ∀ c ∈ text, isBlank c = false) : EndsNonblank text :=
  ⟨text.dropLast, text.getLast hne, h _ (List.getLast_mem hne),
    (List.dropLast_concat_getLast hne).symm⟩

/-- Of pieces that are put together, only the last counts. -/
theorem intercalate {separator : List Char} {pieces : List (List Char)} (hne : pieces ≠ [])
    (h : ∀ piece ∈ pieces, EndsNonblank piece) : EndsNonblank (separator.intercalate pieces) := by
  induction pieces with
  | nil => contradiction
  | cons piece pieces ih =>
      cases pieces with
      | nil => simpa using h piece List.mem_cons_self
      | cons next pieces =>
          rw [List.intercalate_cons_cons]
          exact append _ (ih (List.cons_ne_nil _ _) fun piece hpiece =>
            h piece (List.mem_cons_of_mem _ hpiece))

/-- Trimming a line that does not end in a blank takes off its line feed and nothing else. -/
theorem trimEnd_append_line_feed (h : EndsNonblank text) : trimEnd (text ++ ['\n']) = text := by
  obtain ⟨front, c, hc, rfl⟩ := h
  simp [trimEnd, trimStart, hc, show isBlank '\n' = true by decide]

end EndsNonblank

/-- Lines with their line feeds, of which the last line does not end in a blank. -/
inductive WholeLines : List Char → Prop where
  | nil : WholeLines []
  | ended {text : List Char} (h : EndsNonblank text) : WholeLines (text ++ ['\n'])

/-- Whole lines lose nothing but the last line feed when they are trimmed. -/
theorem WholeLines.trimEnd_append {text : List Char} (h : WholeLines text) (hne : text ≠ []) :
    trimEnd text ++ ['\n'] = text := by
  cases h with
  | nil => contradiction
  | ended h => rw [h.trimEnd_append_line_feed]

/-- Texts of whole lines that are the same when they are trimmed are the same. -/
theorem trimEnd_inj {text other : List Char} (h : WholeLines text) (h' : WholeLines other) :
    trimEnd text = trimEnd other ↔ text = other := by
  cases h with
  | nil =>
      cases h' with
      | nil => rfl
      | ended h' =>
          rw [h'.trimEnd_append_line_feed]
          simp [trimEnd, trimStart, h'.ne_nil.symm]
  | ended h =>
      cases h' with
      | nil =>
          rw [h.trimEnd_append_line_feed]
          simp [trimEnd, trimStart, h.ne_nil]
      | ended h' =>
          rw [h.trimEnd_append_line_feed, h'.trimEnd_append_line_feed, List.append_left_inj]

end RefPolicy.Text
