import RefPolicy.Proofs.Glob
import RefPolicy.Proofs.Reach

/-!
# RefPolicy.Proofs.Widening

A star in place of a stretch of a pattern.  What the stretch spanned, stars of
its own included, the star spans as well, as long as the stretch holds no line
feed: then no text it spans holds one (`Pattern.not_mem_of_spans`).  An exact
pattern becomes one with a star in this way, which changes how it is matched
but not what it spans.

A protection whose pattern is widened is within what it was before, so every
answer that was positive stays so (`RefPolicy.Proofs.Reach`).  The one proviso
is that the new pattern is not too large to match anything.

* `Pattern.spans_widened`, `Pattern.covers_widened` — one pattern;
* `Policy.widening_keeps_answers` — decisions and queries.
-/

namespace RefPolicy

namespace Pattern

/-! ## What is spanned -/

/-- Line feeds in a text come from line feeds in the pattern. -/
theorem not_mem_of_spans {pattern text : List Char} (hpattern : '\n' ∉ pattern)
    (h : spans pattern text = true) : '\n' ∉ text := by
  induction pattern generalizing text with
  | nil =>
      rw [spans_nil.mp h]
      exact List.not_mem_nil
  | cons c pattern ih =>
      simp only [List.mem_cons, not_or] at hpattern
      by_cases hc : c = wildcard
      · subst hc
        obtain ⟨run, rest, rfl, hrun, hrest⟩ := spans_cons_wildcard.mp h
        simp [hrun, ih hpattern.2 hrest]
      · obtain ⟨rest, rfl, hrest⟩ := (spans_cons_of_ne hc).mp h
        simp [hpattern.1, ih hpattern.2 hrest]

/-- What is spanned with a stretch is spanned with a star in its place. -/
theorem spans_widened {front middle back text : List Char} (hmiddle : '\n' ∉ middle)
    (h : spans (front ++ middle ++ back) text = true) :
    spans (front ++ wildcard :: back) text = true := by
  rw [List.append_assoc, spans_append_iff] at h
  obtain ⟨head, _, rfl, hhead, hrest⟩ := h
  obtain ⟨run, tail, rfl, hrun, htail⟩ := spans_append_iff.mp hrest
  have hstar : spans (wildcard :: back) (run ++ tail) = true :=
    spans_cons_wildcard.mpr ⟨run, tail, rfl, not_mem_of_spans hmiddle hrun, htail⟩
  exact spans_append_iff.mpr ⟨head, run ++ tail, rfl, hhead, hstar⟩

/-! ## What is covered -/

variable {fits : String → Bool} {pattern : Pattern} {refName : String}

/-- However it is matched, a pattern covers only what it spans. -/
theorem spans_of_covers (h : pattern.covers refName fits = true) :
    spans pattern.source.toList refName.toList = true := by
  by_cases hstar : wildcard ∈ pattern.source.toList
  · exact ((covers_of_star hstar).mp h).2
  · have hne : pattern.source ≠ "" := by
      intro hempty
      rw [covers_of_empty hempty] at h
      contradiction
    rw [spans_literal hstar, (covers_of_no_star hne hstar).mp h]

/-- A pattern with a star that is not one that never matches is within the limit. -/
theorem fits_of_isNever_eq_false (hstar : wildcard ∈ pattern.source.toList)
    (h : pattern.isNever fits = false) : fits pattern.source = true := by
  have hne : pattern.source ≠ "" := by
    intro hempty
    simp [hempty] at hstar
  cases hfits : fits pattern.source with
  | true => rfl
  | false => simp [isNever, form, hne, hstar, hfits] at h

/-- A pattern with a star in place of a stretch covers what it covered before. -/
theorem covers_widened {front middle back : String} (hmiddle : '\n' ∉ middle.toList)
    (hnever : (⟨front ++ "*" ++ back⟩ : Pattern).isNever fits = false)
    (h : (⟨front ++ middle ++ back⟩ : Pattern).covers refName fits = true) :
    (⟨front ++ "*" ++ back⟩ : Pattern).covers refName fits = true := by
  have hsource : (front ++ "*" ++ back).toList = front.toList ++ wildcard :: back.toList := by
    simp [wildcard]
  have hstar : wildcard ∈ (front ++ "*" ++ back).toList := by simp [hsource]
  have hspans : spans (front.toList ++ middle.toList ++ back.toList) refName.toList = true := by
    simpa using spans_of_covers h
  refine (covers_of_star hstar).mpr ⟨fits_of_isNever_eq_false hstar hnever, ?_⟩
  rw [hsource]
  exact spans_widened hmiddle hspans

end Pattern

/-! ## Decisions and queries -/

/-- The protection under a wider pattern. -/
theorem Protection.within_widened {limit : PatternLimit} {narrow : Protection}
    {front middle back : String}
    (hlabel : narrow.label = front ++ middle ++ back) (hmiddle : '\n' ∉ middle.toList)
    (hnever : (⟨front ++ "*" ++ back⟩ : Pattern).isNever limit.fits = false) :
    narrow.Within { narrow with pattern := ⟨front ++ "*" ++ back⟩ } := by
  refine ⟨fun refName hcovers => ?_, rfl, rfl, rfl⟩
  have hpattern : narrow.pattern = ⟨front ++ middle ++ back⟩ := congrArg Pattern.mk hlabel
  rw [covers, hpattern] at hcovers
  exact Pattern.covers_widened hmiddle hnever hcovers

namespace Policy

/-- A star may take the place of any stretch of a pattern without a line feed.
Unless the new pattern is one that never matches, it covers all that was
covered; and every permission, under any bundled extensions, every protected ref
and every demand for approval stays.  All of this holds under every limit. -/
theorem widening_keeps_answers [limit : PatternLimit] (project : Project) (features : Features)
    (before after : Protections) (narrow : Protection) (front middle back : String)
    (hlabel : narrow.label = front ++ middle ++ back) (hmiddle : '\n' ∉ middle.toList) :
    let wide : Protection := { narrow with pattern := ⟨front ++ "*" ++ back⟩ }
    let policy : Policy := ⟨project, before ++ narrow :: after, features⟩
    let widened : Policy := ⟨project, before ++ wide :: after, features⟩
    (∀ fits refName, wide.pattern.isNever fits = false →
      narrow.pattern.covers refName fits = true → wide.pattern.covers refName fits = true) ∧
    (wide.pattern.isNever limit.fits = false →
      (∀ refName, narrow.covers refName = true → wide.covers refName = true) ∧
      (∀ (bundled : List Bundled) (request : Request),
        policy.permits (bundled.map Bundled.toExtension) request = true →
          widened.permits (bundled.map Bundled.toExtension) request = true) ∧
      (∀ refName kind,
        policy.protections.isProtected refName kind project = true →
          widened.protections.isProtected refName kind project = true) ∧
      (∀ refNames kind,
        policy.protections.anyProtected refNames kind = true →
          widened.protections.anyProtected refNames kind = true) ∧
      ∀ (bundled : List Bundled) branch,
        policy.requiresApproval (bundled.map Bundled.toExtension) branch = true →
          widened.requiresApproval (bundled.map Bundled.toExtension) branch = true) := by
  intro wide policy widened
  have hpattern : narrow.pattern = ⟨front ++ middle ++ back⟩ := congrArg Pattern.mk hlabel
  refine ⟨fun fits refName hnever hcovers => ?_, fun hnever => ?_⟩
  · rw [hpattern] at hcovers
    exact Pattern.covers_widened hmiddle hnever hcovers
  · have hwithin : narrow.Within wide := Protection.within_widened hlabel hmiddle hnever
    have hall : Protections.Within policy.protections widened.protections :=
      Protections.within_replace hwithin before after
    exact ⟨hwithin.covers,
      fun _ _ => permits_of_within hall,
      fun _ _ => Protections.isProtected_of_within hall,
      fun _ _ => Protections.anyProtected_of_within hall,
      fun _ _ => requiresApproval_of_within hall⟩

/-- The stretch has a star of its own.  A rule of the widened protection still
lets its user remove it, though an open protection that also covers the branch
has the extension ask for a role. -/
theorem widened_release_keeps_removal :
    let narrow : Protection :=
      { pattern := ⟨"release/*-lts/1.0"⟩, kind := .branch, rules := [⟨.unprotect, .user 7⟩] }
    let wide : Protection := { narrow with pattern := ⟨"release/" ++ "*" ++ ".0"⟩ }
    let every : Protection := { pattern := ⟨"*"⟩, kind := .branch }
    let bundled : List Bundled := [.codeOwnerApproval, .restrictedUnprotect .maintainer]
    let request : Request :=
      ⟨{ id := 7, role := .guest }, .unprotect, "release/9-lts/1.0", .branch⟩
    narrow.label = "release/" ++ "*-lts/1" ++ ".0" ∧ '\n' ∉ "*-lts/1".toList ∧
      wide.pattern.isNever PatternLimit.fits = false ∧
      narrow.covers "release/2.0" = false ∧ wide.covers "release/2.0" = true ∧
      permits ⟨{}, [every, wide], {}⟩ (bundled.map Bundled.toExtension) request = true := by
  intro narrow wide every bundled request
  have hlabel : narrow.label = "release/" ++ "*-lts/1" ++ ".0" := by decide
  have hmiddle : '\n' ∉ "*-lts/1".toList := by decide
  have hnever : wide.pattern.isNever PatternLimit.fits = false := by decide
  have hkept := (widening_keeps_answers {} {} [every] [] narrow "release/" "*-lts/1" ".0" hlabel
    hmiddle).2 hnever
  exact ⟨hlabel, hmiddle, hnever, by decide, by decide, hkept.2.1 bundled request (by decide)⟩

end Policy

end RefPolicy
