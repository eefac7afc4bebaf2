import RefPolicy.Text.CaseTable

/-!
# RefPolicy.Text.LowerCase

Full lower-casing of a text.  A character is replaced by its lower-case
partner; `İ` has none of its own and becomes two characters; a capital sigma
becomes `ς` at the end of a word and `σ` elsewhere, so lower-casing looks at
the characters around it and does not commute with cutting a text.
-/

namespace RefPolicy.Text

/-- Does a code point lie in one of the ranges? -/
def inRanges (ranges : List (Nat × Nat)) (n : Nat) : Bool :=
  ranges.any fun range => range.1 ≤ n && n ≤ range.2

def isCased (c : Char) : Bool := inRanges casedRanges c.toNat

def isCaseIgnorable (c : Char) : Bool := inRanges caseIgnorableRanges c.toNat

/-- The partner of a code point in a run, if the run holds it. -/
def CaseRun.partner? (run : CaseRun) (n : Nat) : Option Nat :=
  if run.first ≤ n && n ≤ run.last && (n - run.first) % run.step == 0 then
    some ((n : Int) + run.offset).toNat
  else none

/-- A character in lower case, wherever it stands. -/
def lowerChar (c : Char) : List Char :=
  if c = 'İ' then ['i', '\u0307']
  else
    match caseRuns.findSome? fun run => run.partner? c.toNat with
    | some n => [Char.ofNat n]
    | none => [c]

/-- Going on from here and passing over ignorable characters, is there a letter? -/
def meetsLetter (context : List Char) : Bool :=
  match context.dropWhile isCaseIgnorable with
  | c :: _ => isCased c
  | [] => false

/-- Lower-case `text`, which comes after the reverse of `before`. -/
def lowerAfter (before : List Char) : List Char → List Char
  | [] => []
  | c :: after =>
    (if c = 'Σ' then [if meetsLetter before && !meetsLetter after then 'ς' else 'σ']
      else lowerChar c) ++
      lowerAfter (c :: before) after

/-- A text in lower case. -/
def lowerCase (text : List Char) : List Char := lowerAfter [] text

/-- `lowerCase` on strings. -/
def lowerCaseString (text : String) : String := String.ofList (lowerCase text.toList)

/-- Does `needle` occur in the text, without gaps? -/
def contains (needle : List Char) : List Char → Bool
  | [] => needle.isEmpty
  | c :: text => needle.isPrefixOf (c :: text) || contains needle text

theorem contains_iff {needle text : List Char} :
    contains needle text = true ↔ ∃ before after, text = before ++ needle ++ after := by
  induction text with
  | nil =>
    simp only [contains, List.isEmpty_iff]
    constructor
    · rintro rfl; exact ⟨[], [], rfl⟩
    · rintro ⟨before, after, h⟩
      simp_all
  | cons c text ih =>
    simp only [contains, Bool.or_eq_true, List.isPrefixOf_iff_prefix, ih]
    constructor
    · rintro (⟨after, h⟩ | ⟨before, after, rfl⟩)
      · exact ⟨[], after, by simpa using h.symm⟩
      · exact ⟨c :: before, after, by simp⟩
    · rintro ⟨before, after, h⟩
      cases before with
      | nil => exact .inl ⟨after, by simpa using h.symm⟩
      | cons d before =>
        simp only [List.cons_append, List.cons.injEq] at h
        exact .inr ⟨before, after, h.2⟩

end RefPolicy.Text
