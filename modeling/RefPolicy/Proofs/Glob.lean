import RefPolicy.Pattern

/-!
# RefPolicy.Proofs.Glob

What a ref name pattern matches, said without a matcher.  A pattern text is
*spelled* by its pieces, texts without a star, with one star before each but
the first:

```
spell l₀ [l₁, …, lₙ] = l₀ * l₁ * … * lₙ
```

and a name is matched when some gaps, none with a line feed, fill the places
of the stars.  Nothing in a piece has a meaning of its own, line feeds
included, and both ends of the name are spanned.

* `spans_append_iff` — a pattern spans piecewise;
* `spans_spell_iff` — a spelled pattern spans its pieces with gaps between;
* `exists_spell` — every text is spelled by pieces;
* `covers_iff_filled` — which names a pattern covers, for every notion of
  what fits.
-/

namespace RefPolicy

namespace Pattern

/-- The pattern text with the given pieces: a star before each but the first. -/
def spell (first : List Char) (rest : List (List Char)) : List Char :=
  first ++ rest.flatMap (wildcard :: ·)

/-- The text is made of the pieces in order, with a gap in place of each star. -/
def Filled (first : List Char) (rest : List (List Char)) (text : List Char) : Prop :=
  ∃ gaps : List (List Char),
    gaps.length = rest.length ∧ (∀ gap ∈ gaps, '\n' ∉ gap) ∧
      text = first ++ (List.zipWith (· ++ ·) gaps rest).flatten

/-! ## Spanning piecewise -/

/-- A pattern spans a text piecewise, wherever it is cut. -/
theorem spans_append_iff {front back text : List Char} :
    spans (front ++ back) text = true ↔
      ∃ head tail, text = head ++ tail ∧ spans front head = true ∧ spans back tail = true := by
  induction front generalizing text with
  | nil =>
      constructor
      · exact fun h => ⟨[], text, rfl, spans_nil.mpr rfl, h⟩
      · intro h
        obtain ⟨head, tail, rfl, hhead, htail⟩ := h
        rw [spans_nil.mp hhead]
        exact htail
  | cons c front ih =>
      by_cases hc : c = wildcard
      · subst hc
        simp only [List.cons_append, spans_cons_wildcard, ih]
        constructor
        · intro h
          obtain ⟨run, _, rfl, hrun, head, tail, rfl, hhead, htail⟩ := h
          refine ⟨run ++ head, tail, ?_, ⟨run, head, rfl, hrun, hhead⟩, htail⟩
          rw [List.append_assoc]
        · intro h
          obtain ⟨_, tail, rfl, ⟨run, head, rfl, hrun, hhead⟩, htail⟩ := h
          refine ⟨run, head ++ tail, ?_, hrun, head, tail, rfl, hhead, htail⟩
          rw [List.append_assoc]
      · simp only [List.cons_append, spans_cons_of_ne hc, ih]
        constructor
        · intro h
          obtain ⟨_, rfl, head, tail, rfl, hhead, htail⟩ := h
          exact ⟨c :: head, tail, rfl, ⟨head, rfl, hhead⟩, htail⟩
        · intro h
          obtain ⟨_, tail, rfl, ⟨head, rfl, hhead⟩, htail⟩ := h
          exact ⟨head ++ tail, rfl, head, tail, rfl, hhead, htail⟩

/-- A piece spans itself and nothing else. -/
theorem spans_literal {piece : List Char} (h : wildcard ∉ piece) {text : List Char} :
    spans piece text = true ↔ text = piece := by
  induction piece generalizing text with
  | nil => exact spans_nil
  | cons c piece ih =>
      simp only [List.mem_cons, not_or] at h
      rw [spans_cons_of_ne (Ne.symm h.1)]
      simp only [ih h.2, exists_eq_right]

/-! ## Pieces and gaps -/

/-- Without a star there is no gap to fill. -/
theorem filled_nil {first text : List Char} : Filled first [] text ↔ text = first := by
  constructor
  · intro h
    obtain ⟨gaps, -, -, rfl⟩ := h
    simp
  · intro h
    subst h
    exact ⟨[], rfl, by simp, by simp⟩

/-- The first gap is followed by what the other pieces are filled to. -/
theorem filled_cons {first piece text : List Char} {rest : List (List Char)} :
    Filled first (piece :: rest) text ↔
      ∃ gap tail, text = first ++ gap ++ tail ∧ '\n' ∉ gap ∧ Filled piece rest tail := by
  constructor
  · intro h
    obtain ⟨gaps, hlength, hgaps, rfl⟩ := h
    cases gaps with
    | nil => simp at hlength
    | cons gap gaps =>
        rw [List.forall_mem_cons] at hgaps
        refine ⟨gap, piece ++ (List.zipWith (· ++ ·) gaps rest).flatten, ?_, hgaps.1, gaps,
          by simpa using hlength, hgaps.2, rfl⟩
        simp [List.append_assoc]
  · intro h
    obtain ⟨gap, _, rfl, hgap, gaps, hlength, hgaps, rfl⟩ := h
    refine ⟨gap :: gaps, by simp [hlength], List.forall_mem_cons.mpr ⟨hgap, hgaps⟩, ?_⟩
    simp [List.append_assoc]

/-- A spelled pattern spans its pieces with gaps between. -/
theorem spans_spell_iff {first : List Char} {rest : List (List Char)} (hfirst : wildcard ∉ first)
    (hrest : ∀ piece ∈ rest, wildcard ∉ piece) {text : List Char} :
    spans (spell first rest) text = true ↔ Filled first rest text := by
  induction rest generalizing first text with
  | nil => simpa [spell, filled_nil] using spans_literal hfirst
  | cons piece rest ih =>
      rw [List.forall_mem_cons] at hrest
      have hspell : spell first (piece :: rest) = first ++ wildcard :: spell piece rest := by
        simp [spell]
      rw [hspell, spans_append_iff, filled_cons]
      simp only [spans_literal hfirst, spans_cons_wildcard, ih hrest.1 hrest.2]
      constructor
      · intro h
        obtain ⟨_, _, rfl, rfl, gap, tail, rfl, hgap, htail⟩ := h
        exact ⟨gap, tail, by rw [List.append_assoc], hgap, htail⟩
      · intro h
        obtain ⟨gap, tail, rfl, hgap, htail⟩ := h
        exact ⟨first, gap ++ tail, by rw [List.append_assoc], rfl, gap, tail, rfl, hgap, htail⟩

/-- Every text is spelled by pieces. -/
theorem exists_spell (text : List Char) :
    ∃ first rest, wildcard ∉ first ∧ (∀ piece ∈ rest, wildcard ∉ piece) ∧
      text = spell first rest := by
  induction text with
  | nil => exact ⟨[], [], List.not_mem_nil, by simp, rfl⟩
  | cons c text ih =>
      obtain ⟨first, rest, hfirst, hrest, rfl⟩ := ih
      by_cases hc : c = wildcard
      · refine ⟨[], first :: rest, List.not_mem_nil, List.forall_mem_cons.mpr ⟨hfirst, hrest⟩, ?_⟩
        simp [spell, hc]
      · refine ⟨c :: first, rest, ?_, hrest, rfl⟩
        simp [hfirst, Ne.symm hc]

/-! ## What a pattern covers -/

section covers

variable {fits : String → Bool} {pattern : Pattern} {refName : String}

/-- The empty pattern covers nothing. -/
theorem covers_of_empty (h : pattern.source = "") : pattern.covers refName fits = false := by
  simp [covers, form, h]

/-- A pattern without a star covers its own text. -/
theorem covers_of_no_star (hne : pattern.source ≠ "") (h : wildcard ∉ pattern.source.toList) :
    pattern.covers refName fits = true ↔ pattern.source = refName := by
  have hform : pattern.form fits = .exact := by simp [form, hne, h]
  simp [covers, hform]

/-- A pattern with a star covers what it spans, if it fits. -/
theorem covers_of_star (h : wildcard ∈ pattern.source.toList) :
    pattern.covers refName fits = true ↔
      fits pattern.source = true ∧ spans pattern.source.toList refName.toList = true := by
  have hne : pattern.source ≠ "" := by
    intro hempty
    simp [hempty] at h
  cases hfits : fits pattern.source with
  | false =>
      have hform : pattern.form fits = .never := by simp [form, hne, h, hfits]
      simp [covers, hform]
  | true =>
      have hform : pattern.form fits = .wildcard := by simp [form, hne, h, hfits]
      simp [covers_wildcard hform]

end covers

/-- The empty pattern covers nothing, a pattern without a star its own text,
and a pattern with stars, if it fits, exactly the names in which its pieces
are filled with gaps; every pattern text has such pieces. -/
theorem covers_iff_filled (fits : String → Bool) (pattern : Pattern) (refName : String) :
    (pattern.source = "" → pattern.covers refName fits = false) ∧
    (pattern.source ≠ "" → wildcard ∉ pattern.source.toList →
      (pattern.covers refName fits = true ↔ pattern.source = refName)) ∧
    (∀ first rest, rest ≠ [] → wildcard ∉ first → (∀ piece ∈ rest, wildcard ∉ piece) →
      pattern.source.toList = spell first rest →
      (pattern.covers refName fits = true ↔
        fits pattern.source = true ∧ Filled first rest refName.toList)) ∧
    ∃ first rest, wildcard ∉ first ∧ (∀ piece ∈ rest, wildcard ∉ piece) ∧
      pattern.source.toList = spell first rest := by
  refine ⟨covers_of_empty, covers_of_no_star, ?_, exists_spell _⟩
  intro first rest hne hfirst hrest hspell
  have hstar : wildcard ∈ pattern.source.toList := by
    obtain ⟨piece, rest, rfl⟩ := List.exists_cons_of_ne_nil hne
    simp [hspell, spell]
  rw [covers_of_star hstar, hspell, spans_spell_iff hfirst hrest]

/-- A star spans slashes, and parentheses stand for themselves. -/
example :
    (⟨"release-(lts)/*"⟩ : Pattern).covers "release-(lts)/2/hotfix" (fun _ => true) = true := by
  decide

/-- No star spans a line feed. -/
example : (⟨"*"⟩ : Pattern).covers "a\nb" (fun _ => true) = false := by decide

end Pattern

end RefPolicy
