import RefPolicy.Policy

/-!
# RefPolicy.Proofs.NameSearch

Searching for protections by label.  The query and the labels are put into
lower case apart from each other, and lower-casing looks at the context: a
capital sigma becomes `ς` where a word ends and `σ` elsewhere.  What stands in
a label letter by letter is therefore found when no sigma of the query *turns*,
that is, when each ends a word in the label just when it does so in the query
alone.  Every other character is lower-cased wherever it stands.

* `Text.lowerAfter_append`, `Text.lowerWithin_eq_iff` — lower case in context;
* `Text.endsWord_append_ne_iff` — when the context makes a difference;
* `Protections.search_finds_unturned` — what a search finds.
-/

namespace RefPolicy

namespace Text

/-! ## Lower case in context -/

/-- Does a word end between the reverse of `before` and `after`? -/
def endsWord (before after : List Char) : Bool := meetsLetter before && !meetsLetter after

/-- A text in lower case, as it stands between the reverse of `before` and `after`. -/
def lowerWithin (before after : List Char) : List Char → List Char
  | [] => []
  | c :: text =>
    (if c = 'Σ' then [if endsWord before (text ++ after) then 'ς' else 'σ'] else lowerChar c) ++
      lowerWithin (c :: before) after text

/-- What follows a text is lower-cased after it, and it is lower-cased before what follows. -/
theorem lowerAfter_append (before text after : List Char) :
    lowerAfter before (text ++ after) =
      lowerWithin before after text ++ lowerAfter (text.reverse ++ before) after := by
  induction text generalizing before with
  | nil => rfl
  | cons c text ih =>
      rw [List.cons_append, lowerAfter, ih, lowerWithin, endsWord, List.reverse_cons,
        List.append_assoc, List.append_assoc]
      rfl

/-- A text on its own has nothing around it. -/
theorem lowerCase_eq_lowerWithin (text : List Char) : lowerCase text = lowerWithin [] [] text := by
  have happend := lowerAfter_append [] text []
  rw [List.append_nil, lowerAfter, List.append_nil] at happend
  exact happend

/-- A part of a text is lower-cased in its context. -/
theorem lowerCase_append_append (before text after : List Char) :
    ∃ front back, lowerCase (before ++ text ++ after) =
      front ++ lowerWithin before.reverse after text ++ back := by
  rw [lowerCase, List.append_assoc, lowerAfter_append, lowerAfter_append, List.append_nil,
    ← List.append_assoc]
  exact ⟨_, _, rfl⟩

/-- The places of a character in a text: the front, if it stands there, and the
places in the rest. -/
theorem forall_split_cons {c d : Char} {text : List Char} {P : List Char → List Char → Prop} :
    (∀ front back, c :: text = front ++ d :: back → P front back) ↔
      (c = d → P [] text) ∧
        ∀ front back, text = front ++ d :: back → P (c :: front) back := by
  constructor
  · intro h
    exact ⟨fun hc => h [] text (by rw [hc]; rfl),
      fun front back htext => h (c :: front) back (by rw [htext]; rfl)⟩
  · rintro ⟨hfirst, hrest⟩ front back htext
    cases front with
    | nil =>
        obtain ⟨rfl, rfl⟩ := List.cons.inj htext
        exact hfirst rfl
    | cons first front =>
        obtain ⟨rfl, rfl⟩ := List.cons.inj htext
        exact hrest front back rfl

/-- Two contexts lower-case a text alike when they agree on where its capital
sigmas end words. -/
theorem lowerWithin_eq_iff {before after before' after' text : List Char} :
    lowerWithin before after text = lowerWithin before' after' text ↔
      ∀ front back, text = front ++ 'Σ' :: back →
        endsWord (front.reverse ++ before) (back ++ after) =
          endsWord (front.reverse ++ before') (back ++ after') := by
  induction text generalizing before before' with
  | nil => simp [lowerWithin]
  | cons c text ih =>
      rw [forall_split_cons, lowerWithin, lowerWithin]
      simp only [List.reverse_cons, List.append_assoc, List.singleton_append, List.reverse_nil,
        List.nil_append]
      rw [← ih]
      by_cases hc : c = 'Σ'
      · have hsigma : ∀ a b : Bool,
            (if a then 'ς' else 'σ') = (if b then 'ς' else 'σ') ↔ a = b := by decide
        simp [hc, hsigma]
      · simp [hc]

/-! ## Where the context makes a difference -/

/-- More context counts only if all before it is passed over. -/
theorem meetsLetter_append (context more : List Char) :
    meetsLetter (context ++ more) =
      if context.all isCaseIgnorable then meetsLetter more else meetsLetter context := by
  induction context with
  | nil => rfl
  | cons c context ih =>
      by_cases hc : isCaseIgnorable c = true
      · simpa [meetsLetter, hc] using ih
      · simp [meetsLetter, hc]

theorem meetsLetter_of_all {context : List Char} (h : context.all isCaseIgnorable = true) :
    meetsLetter context = false := by
  have happend := meetsLetter_append context []
  rw [List.append_nil, if_pos h] at happend
  exact happend

/-- More context makes or unmakes the end of a word in two ways: a letter that
was missing comes before, or a letter comes after. -/
theorem endsWord_append_ne_iff {front back before after : List Char} :
    endsWord (front.reverse ++ before) (back ++ after) ≠ endsWord front.reverse back ↔
      front.all isCaseIgnorable = true ∧ endsWord before (back ++ after) = true ∨
        endsWord front.reverse back = true ∧ back.all isCaseIgnorable = true ∧
          meetsLetter after = true := by
  have hbefore := meetsLetter_append front.reverse before
  have hafter := meetsLetter_append back after
  rw [List.all_reverse] at hbefore
  by_cases hfront : front.all isCaseIgnorable = true
  · have hnone : meetsLetter front.reverse = false :=
      meetsLetter_of_all (by rwa [List.all_reverse])
    rw [if_pos hfront] at hbefore
    simp [endsWord, hbefore, hnone, hfront]
  · rw [if_neg hfront] at hbefore
    by_cases hback : back.all isCaseIgnorable = true
    · rw [if_pos hback] at hafter
      simp [endsWord, hbefore, hafter, meetsLetter_of_all hback, hfront, hback]
    · rw [if_neg hback] at hafter
      simp [endsWord, hbefore, hafter, hfront, hback]

/-- Some capital sigma of the text ends a word where the text stands alone and
not between `before` and `after`, or the other way round: nothing but ignorable
characters stands between it and the end of the text where the letter comes in. -/
def TurnsSigma (before text after : List Char) : Prop :=
  ∃ front back, text = front ++ 'Σ' :: back ∧
    (front.all isCaseIgnorable = true ∧
        endsWord before.reverse (back ++ after) = true ∨
      endsWord front.reverse back = true ∧ back.all isCaseIgnorable = true ∧
        meetsLetter after = true)

/-- A part has no sigma that turns exactly if its context does not show. -/
theorem not_turnsSigma_iff {before text after : List Char} :
    ¬ TurnsSigma before text after ↔
      lowerWithin before.reverse after text = lowerCase text := by
  rw [lowerCase_eq_lowerWithin, lowerWithin_eq_iff]
  simp only [TurnsSigma, ← endsWord_append_ne_iff, List.append_nil,
    not_exists, not_and, ne_eq, Classical.not_not]

/-- Without a sigma nothing turns. -/
theorem not_turnsSigma_of_not_mem {before text after : List Char} (h : 'Σ' ∉ text) :
    ¬ TurnsSigma before text after := by
  rintro ⟨front, back, rfl, -⟩
  exact h (by simp)

end Text

/-! ## What a search finds -/

namespace Protections

/-- A blank query finds nothing.  Any other selects, in declared order, the
protections whose label in lower case holds the query in lower case.  Among
them are all that hold the query letter by letter at a place where no capital
sigma of it turns, as none can in a query without one; where one turns, that
place does not read as the query does. -/
theorem search_finds_unturned (protections : Protections) (query : String) :
    let needle := Text.trim query.toList
    (needle = [] → protections.search query = []) ∧
    (needle ≠ [] → ∃ found : Protection → Bool,
      protections.search query = protections.filter found ∧
      ∀ protection : Protection,
        (found protection = true ↔ ∃ front back,
          Text.lowerCase protection.label.toList = front ++ Text.lowerCase needle ++ back) ∧
        ∀ before after, protection.label.toList = before ++ needle ++ after →
          (¬ Text.TurnsSigma before needle after → found protection = true) ∧
          ('Σ' ∉ needle → found protection = true) ∧
          (Text.TurnsSigma before needle after ↔
            Text.lowerWithin before.reverse after needle ≠ Text.lowerCase needle)) := by
  intro needle
  refine ⟨fun hblank => ?_, fun hne => ?_⟩
  · have hempty : (Text.trim query.toList).isEmpty = true := List.isEmpty_iff.mpr hblank
    simp only [search, hempty, if_true]
  have hempty : (Text.trim query.toList).isEmpty = false := by simpa using hne
  refine ⟨fun protection =>
    Text.contains (Text.lowerCase needle) (Text.lowerCase protection.label.toList), ?_, ?_⟩
  · simp only [search, hempty]
    rfl
  intro protection
  refine ⟨Text.contains_iff, fun before after hlabel => ?_⟩
  have hfound (hkeeps : ¬ Text.TurnsSigma before needle after) :
      Text.contains (Text.lowerCase needle) (Text.lowerCase protection.label.toList) = true := by
    obtain ⟨front, back, hlower⟩ := Text.lowerCase_append_append before needle after
    rw [Text.not_turnsSigma_iff.mp hkeeps, ← hlabel] at hlower
    exact Text.contains_iff.mpr ⟨front, back, hlower⟩
  refine ⟨hfound, fun hmem => hfound (Text.not_turnsSigma_of_not_mem hmem), ?_⟩
  rw [ne_eq, ← Text.not_turnsSigma_iff, Classical.not_not]

/-- The sigma ends the query and stands within the word of the label. -/
theorem search_misses_verbatim :
    let protection : Protection := { pattern := ⟨"ΑΣΑ"⟩, kind := .branch }
    Text.trim "ΑΣ".toList ≠ [] ∧ protection.label.toList = [] ++ Text.trim "ΑΣ".toList ++ ['Α'] ∧
      Protections.search [protection] "ΑΣ" = [] := by
  decide +kernel

end Protections

end RefPolicy
