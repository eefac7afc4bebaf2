import RefPolicy.Proofs.JoinedText
import RefPolicy.Report

/-!
# RefPolicy.Proofs.ReportLines

Reports as text tell apart what they report, as long as names hold no line
feed.  Whatever else a name holds, its line ends at the first line feed, and the
line is told from its end, where the kind or the answer stands.  Grants are
written in letters, digits, `_` and `:`, so a comma ends a grant, and the colon
in each of them tells a list of grants from the words that stand for an empty
list.

* `Grant.toList_text_injective`, `Report.grantsText_inj` — grants and lists of
  grants;
* `Report.protectionBlock_append_inj` — the four lines of a protection, with
  anything behind them;
* `Report.lines_tell_apart` — whole reports.
-/

namespace RefPolicy

/-- Two protections of which a list in text says the same: label, kind, and the
grants of each action in order. -/
structure Protection.ListedAlike (protection other : Protection) : Prop where
  label_eq : protection.label = other.label
  kind_eq : protection.kind = other.kind
  grantsFor_eq : ∀ action, protection.grantsFor action = other.grantsFor action

/-! ## Grants -/

/-- Numbers are told apart by their digits. -/
theorem Id.text_inj {id other : Id} : id.text = other.text ↔ id = other := by
  constructor
  · intro h
    have hdigits : Nat.toDigits 10 id.toNat = Nat.toDigits 10 other.toNat := by
      simpa [Id.text, ← String.toList_inj] using h
    have hvalue := Digits.value_toDigits id.toNat
    rw [hdigits, Digits.value_toDigits, Option.some.injEq] at hvalue
    exact UInt64.toNat_inj.mp hvalue.symm
  · exact congrArg Id.text

namespace Grant

/-- Grants are written in characters from `0` to `z`; no comma, blank or line
feed is among these. -/
def isTextChar (c : Char) : Bool := decide ('0'.toNat ≤ c.toNat) && decide (c.toNat ≤ 'z'.toNat)

/-- None of these is blank. -/
theorem isBlank_of_isTextChar {c : Char} (h : isTextChar c = true) : Text.isBlank c = false := by
  simp only [isTextChar, Bool.and_eq_true, decide_eq_true_eq] at h
  exact Text.isBlank_of_visible (Nat.lt_of_lt_of_le (by decide) h.1)
    (Nat.lt_of_le_of_lt h.2 (by decide))

theorem isTextChar_of_isDigit {c : Char} (h : c.isDigit = true) : isTextChar c = true := by
  obtain ⟨hlow, hhigh⟩ := Char.isDigit_iff_toNat.mp h
  have hletter : c.toNat ≤ 'z'.toNat := Nat.le_trans hhigh (by decide)
  simp only [isTextChar, hlow, hletter, decide_true, Bool.and_self]

/-- Grants are written in such characters. -/
theorem all_isTextChar_text (grant : Grant) : grant.text.toList.all isTextChar = true := by
  have hid (id : Id) : id.text.toList.all isTextChar = true := by
    rw [Id.text, Nat.toList_repr]
    exact List.all_eq_true.mpr fun c h => isTextChar_of_isDigit (Digits.isDigit_of_mem_toDigits h)
  cases grant with
  | role threshold => cases threshold <;> decide
  | user id | group id | deployKey id =>
      rw [text, String.toList_append, List.all_append, hid id]
      decide

theorem isTextChar_of_mem_text {grant : Grant} {c : Char} (h : c ∈ grant.text.toList) :
    isTextChar c = true := List.all_eq_true.mp grant.all_isTextChar_text c h

/-- Nothing else stands in the text of a grant. -/
theorem not_mem_text {grant : Grant} {c : Char} (h : isTextChar c = false) :
    c ∉ grant.text.toList := fun hmem => by
  rw [isTextChar_of_mem_text hmem] at h
  contradiction

/-- Every grant has a colon after its sort. -/
theorem colon_mem_text (grant : Grant) : ':' ∈ grant.text.toList := by
  cases grant <;> simp [text]

/-- Nothing is trimmed off a grant. -/
theorem endsNonblank_text (grant : Grant) : Text.EndsNonblank grant.text.toList :=
  .of_forall (List.ne_nil_of_mem grant.colon_mem_text) fun _ h =>
    isBlank_of_isTextChar (isTextChar_of_mem_text h)

/-- Grants are told apart by their texts. -/
theorem toList_text_injective : Function.Injective fun grant : Grant => grant.text.toList := by
  intro grant other h
  revert h
  cases grant <;> cases other <;> simp [text, String.toList_inj, Role.name_inj, Id.text_inj]

end Grant

/-! ## Lists of grants -/

namespace Report

section

variable {protection other : Protection} {action : Action}

/-- The absence of grants has words of its own. -/
theorem grantsText_of_eq_nil (h : protection.grantsFor action = []) :
    grantsText protection action = if action = .unprotect then "anyone" else "no one" := by
  rw [grantsText, h]

/-- Grants stand one after the other, with commas between. -/
theorem toList_grantsText (h : protection.grantsFor action ≠ []) :
    (grantsText protection action).toList =
      [',', ' '].intercalate ((protection.grantsFor action).map fun grant =>
        grant.text.toList) := by
  unfold grantsText
  split
  · contradiction
  · simp [String.toList_intercalate, Function.comp_def]

/-- Every grant has a colon; the words for an empty list have none. -/
theorem colon_not_mem_grantsText_iff :
    ':' ∉ (grantsText protection action).toList ↔ protection.grantsFor action = [] := by
  constructor
  · intro hcolon
    by_contra hne
    obtain ⟨grant, grants, hgrants⟩ := List.exists_cons_of_ne_nil hne
    have hmem := grant.colon_mem_text
    rw [toList_grantsText hne, hgrants] at hcolon
    cases grants <;> simp [hmem] at hcolon
  · intro hnil
    rw [grantsText_of_eq_nil hnil]
    cases action <;> decide

/-- Lists of grants are told apart by their texts. -/
theorem grantsText_inj :
    grantsText protection action = grantsText other action ↔
      protection.grantsFor action = other.grantsFor action := by
  constructor
  · intro h
    have hempty : protection.grantsFor action = [] ↔ other.grantsFor action = [] := by
      rw [← colon_not_mem_grantsText_iff, ← colon_not_mem_grantsText_iff, h]
    by_cases hnil : protection.grantsFor action = []
    · rw [hnil, hempty.mp hnil]
    · have hjoined := congrArg String.toList h
      rw [toList_grantsText hnil, toList_grantsText (mt hempty.mpr hnil)] at hjoined
      exact (Text.intercalate_map_inj Grant.toList_text_injective
        (fun grant => grant.endsNonblank_text.ne_nil)
        (fun _ _ => Grant.not_mem_text (by decide))
        (fun _ _ => Grant.not_mem_text (by decide))).mp hjoined
  · intro h
    rw [grantsText, grantsText, h]

/-- No line ends among the grants. -/
theorem line_feed_not_mem_grantsText : '\n' ∉ (grantsText protection action).toList := by
  by_cases hne : protection.grantsFor action = []
  · rw [grantsText_of_eq_nil hne]
    cases action <;> decide
  · intro hmem
    rw [toList_grantsText hne] at hmem
    rcases Text.mem_intercalate hmem with hseparator | ⟨piece, hpiece, hmem⟩
    · revert hseparator
      decide
    · obtain ⟨grant, -, rfl⟩ := List.mem_map.mp hpiece
      exact Grant.not_mem_text (by decide) hmem

/-- Nothing is trimmed off a line of grants. -/
theorem endsNonblank_grantsText (protection : Protection) (action : Action) :
    Text.EndsNonblank (grantsText protection action).toList := by
  by_cases hne : protection.grantsFor action = []
  · rw [grantsText_of_eq_nil hne]
    cases action with
    | push | merge => exact ⟨"no on".toList, 'e', by decide, by decide⟩
    | unprotect => exact ⟨"anyon".toList, 'e', by decide, by decide⟩
  · rw [toList_grantsText hne]
    refine .intercalate (by simpa using hne) fun piece hpiece => ?_
    obtain ⟨grant, -, rfl⟩ := List.mem_map.mp hpiece
    exact grant.endsNonblank_text

/-! ## Protections -/

/-- The line with the label of a protection, without its line feed. -/
def labelLine (protection : Protection) : List Char :=
  (protection.label ++ " (" ++ name protection.kind ++ ")").toList

/-- The line of an action, without its line feed. -/
def grantsLine (protection : Protection) (action : Action) : List Char :=
  ("  " ++ name action ++ ": " ++ grantsText protection action).toList

/-- The four lines of a protection. -/
theorem protectionBlock_eq (protection : Protection) :
    protectionBlock protection =
      labelLine protection ++ '\n' :: (grantsLine protection .push ++
        '\n' :: (grantsLine protection .merge ++
          '\n' :: (grantsLine protection .unprotect ++ ['\n']))) := by
  simp [protectionBlock, labelLine, grantsLine]

/-- A label and a kind are told from the line that gives them, whatever is in the label. -/
theorem labelLine_inj :
    labelLine protection = labelLine other ↔
      protection.label = other.label ∧ protection.kind = other.kind := by
  -- read from its end, the line gives the kind before anything of the label
  rw [← List.reverse_inj]
  cases hkind : protection.kind <;> cases hother : other.kind <;>
    simp [labelLine, hkind, hother, name, String.toList_inj]

/-- The grants for an action are told from their line. -/
theorem grantsLine_inj :
    grantsLine protection action = grantsLine other action ↔
      protection.grantsFor action = other.grantsFor action := by
  rw [grantsLine, grantsLine, String.toList_inj, String.append_right_inj, grantsText_inj]

theorem line_feed_not_mem_labelLine (h : '\n' ∉ protection.label.toList) :
    '\n' ∉ labelLine protection := by
  cases hkind : protection.kind <;> simp [labelLine, hkind, name, h]

theorem line_feed_not_mem_grantsLine : '\n' ∉ grantsLine protection action := by
  cases action <;> simp [grantsLine, name, line_feed_not_mem_grantsText]

/-- The lines of a protection are told from whatever follows them. -/
theorem protectionBlock_append_inj {rest rest' : List Char}
    (h : '\n' ∉ protection.label.toList) (h' : '\n' ∉ other.label.toList) :
    protectionBlock protection ++ rest = protectionBlock other ++ rest' ↔
      protection.ListedAlike other ∧ rest = rest' := by
  simp only [protectionBlock_eq, List.append_assoc, List.cons_append, List.nil_append,
    Text.append_cons_inj (line_feed_not_mem_labelLine h) (line_feed_not_mem_labelLine h'),
    Text.append_cons_inj line_feed_not_mem_grantsLine line_feed_not_mem_grantsLine, labelLine_inj,
    grantsLine_inj]
  constructor
  · rintro ⟨⟨hlabel, hkind⟩, hpush, hmerge, hunprotect, hrest⟩
    refine ⟨⟨hlabel, hkind, fun action => ?_⟩, hrest⟩
    cases action with
    | push => exact hpush
    | merge => exact hmerge
    | unprotect => exact hunprotect
  · rintro ⟨halike, hrest⟩
    exact ⟨⟨halike.label_eq, halike.kind_eq⟩, halike.grantsFor_eq _, halike.grantsFor_eq _,
      halike.grantsFor_eq _, hrest⟩

theorem protectionBlock_ne_nil (protection : Protection) : protectionBlock protection ≠ [] := by
  simp [protectionBlock_eq]

/-- The last of its lines does not end in a blank. -/
theorem exists_protectionBlock_eq (protection : Protection) :
    ∃ text, Text.EndsNonblank text ∧ protectionBlock protection = text ++ ['\n'] := by
  have hlast : Text.EndsNonblank (grantsLine protection .unprotect) := by
    rw [grantsLine, String.toList_append]
    exact .append _ (endsNonblank_grantsText protection .unprotect)
  have hblock := hlast.append (labelLine protection ++ '\n' :: (grantsLine protection .push ++
    '\n' :: (grantsLine protection .merge ++ ['\n'])))
  exact ⟨_, hblock, by simp [protectionBlock_eq]⟩

/-- So a list of protections is made of whole lines. -/
theorem wholeLines_flatMap_protectionBlock (listed : Protections) :
    Text.WholeLines (listed.flatMap protectionBlock) := by
  rcases List.eq_nil_or_concat' listed with rfl | ⟨front, last, rfl⟩
  · exact .nil
  · obtain ⟨text, htext, hlast⟩ := exists_protectionBlock_eq last
    rw [List.flatMap_append, List.flatMap_singleton, hlast, ← List.append_assoc]
    exact .ended (htext.append _)

/-- Trimming takes the last line feed off a list of protections, and nothing else. -/
theorem toList_protections_append_line_feed {limit : PatternLimit} {listed : Protections}
    (h : listed ≠ []) :
    (protections .text listed).toList ++ ['\n'] = listed.flatMap protectionBlock := by
  obtain ⟨first, rest, rfl⟩ := List.exists_cons_of_ne_nil h
  rw [protections, String.toList_ofList]
  refine (wholeLines_flatMap_protectionBlock _).trimEnd_append ?_
  rw [List.flatMap_cons]
  exact List.append_ne_nil_of_left_ne_nil (protectionBlock_ne_nil first) _

/-- Lists of protections are told apart by their texts, as far as a text says anything of them. -/
theorem protections_eq_iff {limit : PatternLimit} {listed others : Protections}
    (h : ∀ protection ∈ listed, '\n' ∉ protection.label.toList)
    (h' : ∀ other ∈ others, '\n' ∉ other.label.toList) :
    protections .text listed = protections .text others ↔
      List.Forall₂ Protection.ListedAlike listed others := by
  rw [protections, protections, String.ofList_inj,
    Text.trimEnd_inj (wholeLines_flatMap_protectionBlock listed)
      (wholeLines_flatMap_protectionBlock others)]
  exact Text.flatMap_eq_iff_forall₂ protectionBlock_ne_nil
    fun protection hprotection other hother rest rest' =>
      protectionBlock_append_inj (h protection hprotection) (h' other hother)

end

/-! ## Results -/

/-- Results are told apart by their lines. -/
theorem toList_protectionLine_injective :
    Function.Injective fun result : String × Bool => (protectionLine result).toList := by
  intro result other h
  -- from the end, as the name may go on like an answer
  rw [← List.reverse_inj] at h
  obtain ⟨refName, isProtected⟩ := result
  obtain ⟨otherName, otherProtected⟩ := other
  revert h
  cases isProtected <;> cases otherProtected <;> simp [protectionLine, String.toList_inj]

theorem line_feed_not_mem_protectionLine {result : String × Bool} (h : '\n' ∉ result.1.toList) :
    '\n' ∉ (protectionLine result).toList := by
  obtain ⟨refName, isProtected⟩ := result
  cases isProtected <;> simp [protectionLine, h]

/-- Lists of results are told apart by their texts. -/
theorem protection_eq_iff {results others : List (String × Bool)}
    (h : ∀ result ∈ results, '\n' ∉ result.1.toList)
    (h' : ∀ other ∈ others, '\n' ∉ other.1.toList) :
    protection .text results = protection .text others ↔ results = others := by
  have hjoined (results : List (String × Bool)) :
      (protection .text results).toList =
        ['\n'].intercalate (results.map fun result => (protectionLine result).toList) := by
    simp [protection, String.toList_intercalate, Function.comp_def]
  rw [← String.toList_inj, hjoined, hjoined]
  exact Text.intercalate_map_inj toList_protectionLine_injective
    (fun result => by simp [protectionLine])
    (fun result hresult => line_feed_not_mem_protectionLine (h result hresult))
    fun other hother => line_feed_not_mem_protectionLine (h' other hother)

/-! ## Reports -/

/-- With names that hold no line feed, lists of protections have the same text
just when, position by position, they say the same of their protections, and
results have the same text just when they are the same.  A list that is not
empty is written in whole, without its last line feed. -/
theorem lines_tell_apart [PatternLimit] :
    (∀ listed others : Protections,
      (∀ protection ∈ listed, '\n' ∉ protection.label.toList) →
      (∀ other ∈ others, '\n' ∉ other.label.toList) →
        (protections .text listed = protections .text others ↔
          List.Forall₂ Protection.ListedAlike listed others)) ∧
    (∀ listed : Protections, listed ≠ [] →
      (protections .text listed).toList ++ ['\n'] = listed.flatMap protectionBlock) ∧
    ∀ results others : List (String × Bool),
      (∀ result ∈ results, '\n' ∉ result.1.toList) →
      (∀ other ∈ others, '\n' ∉ other.1.toList) →
        (protection .text results = protection .text others ↔ results = others) :=
  ⟨fun _ _ => protections_eq_iff, fun _ => toList_protections_append_line_feed,
    fun _ _ => protection_eq_iff⟩

/-- A label that looks like the end of another listing: rules for different
actions may change places unseen, the users of one action may not.  A name that
goes on like an answer is told from the answer. -/
theorem lookalike_names_told_apart :
    let listing (rules : List Rule) : Protections :=
      [{ pattern := ⟨"main (tag) \r"⟩, kind := .branch, rules },
        { pattern := ⟨"  unprotect: user:1, user:2 "⟩, kind := .tag }]
    let given := listing [⟨.unprotect, .user 1⟩, ⟨.push, .group 3⟩, ⟨.unprotect, .user 2⟩]
    let moved := listing [⟨.push, .group 3⟩, ⟨.unprotect, .user 1⟩, ⟨.unprotect, .user 2⟩]
    let turned := listing [⟨.push, .group 3⟩, ⟨.unprotect, .user 2⟩, ⟨.unprotect, .user 1⟩]
    (∀ listed ∈ [given, moved, turned], ∀ protection ∈ listed, '\n' ∉ protection.label.toList) ∧
      protections .text given = protections .text moved ∧
      protections .text given ≠ protections .text turned ∧
      (protections .text given).toList ++ ['\n'] = given.flatMap protectionBlock ∧
      protection .text [("main: un", true)] ≠ protection .text [("main", false)] := by
  intro listing given moved turned
  have hnames : ∀ listed ∈ [given, moved, turned], ∀ protection ∈ listed,
      '\n' ∉ protection.label.toList := by decide
  obtain ⟨hgiven, hmoved, hturned⟩ := by simpa only [List.forall_mem_cons] using hnames
  have hsame : List.Forall₂ Protection.ListedAlike given moved := by
    refine .cons ⟨rfl, rfl, fun action => ?_⟩ (.cons ⟨rfl, rfl, fun _ => rfl⟩ .nil)
    cases action <;> rfl
  have hdiffer : ¬ List.Forall₂ Protection.ListedAlike given turned := by
    intro halike
    have hgrants := (List.forall₂_cons.mp halike).1.grantsFor_eq .unprotect
    revert hgrants
    decide
  refine ⟨hnames, ?_, ?_, ?_, ?_⟩
  · exact (lines_tell_apart.1 given moved hgiven hmoved).mpr hsame
  · exact fun h => hdiffer ((lines_tell_apart.1 given turned hgiven hturned.1).mp h)
  · exact lines_tell_apart.2.1 given (by decide)
  · intro h
    have hresults := (lines_tell_apart.2.2 _ _ (by decide) (by decide)).mp h
    revert hresults
    decide

/-- A line feed in a name is not told from the end of its line. -/
example :
    protection .text [("a: protected\nb", true)] =
      protection .text [("a", true), ("b", true)] := by
  decide

end Report

end RefPolicy
