/-!
# RefPolicy.Pattern

Ref name patterns.  A pattern without `*` matches itself and nothing else.
In any other pattern each `*` stands for a run of characters of any length
without a line feed, every other character stands for itself, and the whole
name has to be spanned.  The empty pattern matches nothing, and neither does
a pattern with stars that is too large to be matched.  Which patterns fit is up
to the matcher that is built in: it is a parameter, `fits`, and `PatternLimit`
hands it to whoever asks whether a protection covers a ref.

`spans` is the meaning of a pattern: it tries every run for every star.
`spanRow` is how matching is done: it answers the question for all suffixes
of the name at once, one pattern character after the other, so the work is
the product of the two lengths.

* `spans_cons_wildcard`, `spans_cons_of_ne` — what one pattern character spans;
* `spanRow_eq` — the row lists the answers of `spans`;
* `covers_wildcard` — a wildcard pattern matches what it spans.
-/

namespace RefPolicy

/-- A ref name pattern, known by its text. -/
structure Pattern where
  source : String
  deriving DecidableEq

namespace Pattern

/-- The character that stands for a run. -/
def wildcard : Char := '*'

/-! ## Meaning -/

/-- Does `accepts` hold of the text after dropping some run without a line feed? -/
def afterRun (accepts : List Char → Bool) : List Char → Bool
  | [] => accepts []
  | c :: text => accepts (c :: text) || (c != '\n' && afterRun accepts text)

/-- Does `c` open the text, and `accepts` hold of what follows? -/
def afterChar (c : Char) (accepts : List Char → Bool) : List Char → Bool
  | [] => false
  | d :: text => d == c && accepts text

/-- Does the pattern span the whole text? -/
def spans : List Char → List Char → Bool
  | [] => List.isEmpty
  | c :: rest => if c = wildcard then afterRun (spans rest) else afterChar c (spans rest)

/-- A run of any length may be dropped, up to a line feed. -/
theorem afterRun_iff {accepts : List Char → Bool} {text : List Char} :
    afterRun accepts text = true ↔
      ∃ run rest, text = run ++ rest ∧ '\n' ∉ run ∧ accepts rest = true := by
  induction text with
  | nil =>
      constructor
      · exact fun h => ⟨[], [], rfl, List.not_mem_nil, h⟩
      · intro h
        obtain ⟨run, rest, htext, -, h⟩ := h
        obtain ⟨rfl, rfl⟩ := List.append_eq_nil_iff.mp htext.symm
        exact h
  | cons c text ih =>
      simp only [afterRun, Bool.or_eq_true, Bool.and_eq_true, bne_iff_ne, ne_eq, ih]
      constructor
      · intro h
        rcases h with h | ⟨hc, run, rest, rfl, hrun, h⟩
        · exact ⟨[], c :: text, rfl, List.not_mem_nil, h⟩
        · exact ⟨c :: run, rest, rfl, by simp [Ne.symm hc, hrun], h⟩
      · intro h
        obtain ⟨run, rest, htext, hrun, h⟩ := h
        cases run with
        | nil => exact .inl (htext ▸ h)
        | cons d run =>
            obtain ⟨rfl, rfl⟩ := List.cons.inj htext
            simp only [List.mem_cons, not_or] at hrun
            exact .inr ⟨Ne.symm hrun.1, run, rest, rfl, hrun.2, h⟩

/-- The character is the first of the text. -/
theorem afterChar_iff {c : Char} {accepts : List Char → Bool} {text : List Char} :
    afterChar c accepts text = true ↔ ∃ rest, text = c :: rest ∧ accepts rest = true := by
  cases text with
  | nil => simp [afterChar]
  | cons d text =>
      simp only [afterChar, Bool.and_eq_true, beq_iff_eq, List.cons.injEq]
      constructor
      · intro h
        obtain ⟨rfl, h⟩ := h
        exact ⟨text, ⟨rfl, rfl⟩, h⟩
      · intro h
        obtain ⟨rest, ⟨rfl, rfl⟩, h⟩ := h
        exact ⟨rfl, h⟩

theorem spans_nil {text : List Char} : spans [] text = true ↔ text = [] := by
  simp [spans]

/-- A star spans a run without a line feed. -/
theorem spans_cons_wildcard {pattern text : List Char} :
    spans (wildcard :: pattern) text = true ↔
      ∃ run rest, text = run ++ rest ∧ '\n' ∉ run ∧ spans pattern rest = true := by
  rw [spans, if_pos rfl, afterRun_iff]

/-- Every other character spans itself. -/
theorem spans_cons_of_ne {c : Char} (h : c ≠ wildcard) {pattern text : List Char} :
    spans (c :: pattern) text = true ↔ ∃ rest, text = c :: rest ∧ spans pattern rest = true := by
  rw [spans, if_neg h, afterChar_iff]

/-! ## All suffixes at once -/

/-- The suffixes of a list, longest first; the empty one is always the last. -/
def suffixes : List Char → List (List Char)
  | [] => [[]]
  | c :: text => (c :: text) :: suffixes text

/-- The row of `afterRun accepts`, from the row of `accepts`. -/
def runRow : List Char → List Bool → List Bool
  | c :: text, here :: later =>
    let row := runRow text later
    (here || (c != '\n' && row.headD false)) :: row
  | _, row => row

/-- The row of `afterChar c accepts`, from the row of `accepts`. -/
def charRow (c : Char) : List Char → List Bool → List Bool
  | d :: text, _ :: later => (d == c && later.headD false) :: charRow c text later
  | _, _ => [false]

/-- For every suffix of the text, longest first: does the pattern span it? -/
def spanRow : List Char → List Char → List Bool
  | [], text => (suffixes text).map List.isEmpty
  | c :: rest, text =>
    if c = wildcard then runRow text (spanRow rest text) else charRow c text (spanRow rest text)

/-- The longest suffix is the text. -/
theorem headD_map_suffixes (accepts : List Char → Bool) (text : List Char) :
    ((suffixes text).map accepts).headD false = accepts text := by
  cases text <;> rfl

/-- The row of a star, from the row of what follows it. -/
theorem runRow_map (accepts : List Char → Bool) (text : List Char) :
    runRow text ((suffixes text).map accepts) = (suffixes text).map (afterRun accepts) := by
  induction text with
  | nil => rfl
  | cons c text ih =>
    simp only [suffixes, List.map_cons, runRow, ih, headD_map_suffixes, afterRun]

/-- The row of any other character. -/
theorem charRow_map (c : Char) (accepts : List Char → Bool) (text : List Char) :
    charRow c text ((suffixes text).map accepts) = (suffixes text).map (afterChar c accepts) := by
  induction text with
  | nil => rfl
  | cons d text ih =>
    simp only [suffixes, List.map_cons, charRow, ih, headD_map_suffixes, afterChar]

/-- The row lists what the pattern spans. -/
theorem spanRow_eq (pattern text : List Char) :
    spanRow pattern text = (suffixes text).map (spans pattern) := by
  induction pattern with
  | nil => rfl
  | cons c rest ih =>
    unfold spanRow spans
    split
    · rw [ih, runRow_map]
    · rw [ih, charRow_map]

/-! ## Patterns -/

/-- How a pattern matches. -/
inductive Form where
  | never
  | exact
  | wildcard
  deriving DecidableEq

/-- The form of a pattern is decided by its text, and by what fits. -/
def form (pattern : Pattern) (fits : String → Bool) : Form :=
  if pattern.source.isEmpty then .never
  else if !pattern.source.toList.contains wildcard then .exact
  else if fits pattern.source then .wildcard
  else .never

/-- Does the pattern use stars and match anything? -/
def isWildcard (pattern : Pattern) (fits : String → Bool) : Bool :=
  pattern.form fits == .wildcard

/-- Can the pattern match nothing at all? -/
def isNever (pattern : Pattern) (fits : String → Bool) : Bool :=
  pattern.form fits == .never

/-- Does the pattern match a ref name? -/
def covers (pattern : Pattern) (refName : String) (fits : String → Bool) : Bool :=
  match pattern.form fits with
  | .never => false
  | .exact => pattern.source == refName
  | .wildcard => (spanRow pattern.source.toList refName.toList).headD false

/-- The names a pattern matches, in the order given. -/
def matching (pattern : Pattern) (refNames : List String) (fits : String → Bool) : List String :=
  refNames.filter fun refName => pattern.covers refName fits

/-- A wildcard pattern covers what it spans. -/
theorem covers_wildcard {pattern : Pattern} {fits : String → Bool}
    (h : pattern.form fits = .wildcard) (refName : String) :
    pattern.covers refName fits = spans pattern.source.toList refName.toList := by
  simp only [covers, h, spanRow_eq, headD_map_suffixes]

end Pattern

/-! ## Limits -/

/-- Which texts with stars are small enough to be patterns.  It is the same for
all patterns of a program. -/
class PatternLimit where
  fits : String → Bool

/-- The most stars that a pattern may hold by the standard limit. -/
def PatternLimit.standardStars : Nat := 10000

/-- The limit where no other is given. -/
instance (priority := low) PatternLimit.standard : PatternLimit where
  fits source := decide (source.toList.count Pattern.wildcard ≤ standardStars)

end RefPolicy
