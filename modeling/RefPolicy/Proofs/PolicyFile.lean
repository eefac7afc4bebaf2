import RefPolicy.Settings.Load

/-!
# RefPolicy.Proofs.PolicyFile

Which file is read.  Loading asks for a path that is given, or for the
candidates in turn, and *chooses* the first place that leads somewhere.  A
file there is read; of a directory, or of anything else that is no file, nothing
can be read, and the file called like it with `.toml` after its name takes its
place.

* `policyText_eq` — loading in terms of the place that is chosen;
* `policyText_eq_ok_some_iff`, `policyText_eq_ok_none_iff` — the text that is
  found, and when there is none to find;
* `policyText_congr` — what other files hold plays no part;
* `Toml.parse?_of_lines` — a document by its lines.
-/

namespace RefPolicy

/-- The places that loading asks for. -/
def Place.named (given : Option String) : List Place :=
  given.elim Place.candidates fun path => [.path path]

/-- The first place that leads somewhere, of those asked for. -/
def Place.Chosen (lookUp : Place → Option Entry) (given : Option String) (place : Place) : Prop :=
  ∃ before after, Place.named given = before ++ place :: after ∧
    (∀ other ∈ before, lookUp other = none) ∧ lookUp place ≠ none

/-- The text of the file at a place, or, where something stands that is no file,
of the file called like it with `.toml` after its name. -/
inductive Place.Holds (lookUp : Place → Option Entry) (place : Place) : String → Prop
  | file {text : String} (h : lookUp place = some (.file text)) : Holds lookUp place text
  | besideNoFile {text : String} (h : lookUp place = some .noFile)
      (hfile : place.secondTry.bind lookUp = some (.file text)) : Holds lookUp place text

variable {lookUp : Place → Option Entry} {given : Option String} {place : Place} {text : String}

/-- What is chosen exists. -/
theorem Place.Chosen.ne_none (h : Place.Chosen lookUp given place) : lookUp place ≠ none := by
  obtain ⟨_, _, _, _, hplace⟩ := h
  exact hplace

/-- The choice falls on the first of the places named that exists. -/
theorem Place.chosen_iff :
    Place.Chosen lookUp given place ↔
      ((Place.named given).find? fun place => (lookUp place).isSome) = some place := by
  rw [List.find?_eq_some_iff_append, Chosen]
  constructor
  · rintro ⟨before, after, hnamed, hbefore, hplace⟩
    refine ⟨Option.isSome_iff_ne_none.mpr hplace, before, after, hnamed, fun other hother => ?_⟩
    simp [hbefore other hother]
  · rintro ⟨hplace, before, after, hnamed, hbefore⟩
    refine ⟨before, after, hnamed, fun other hother => ?_, Option.isSome_iff_ne_none.mp hplace⟩
    simpa using hbefore other hother

/-- With a path or without one, the places named are gone through in order. -/
theorem policyText_eq (lookUp : Place → Option Entry) (given : Option String) :
    policyText lookUp given =
      match (Place.named given).find? fun place => (lookUp place).isSome with
      | some place => (fileAt lookUp place).map some
      | none => given.elim (.ok none) fun path => .error (.notFound path) := by
  cases given with
  | none => rfl
  | some path =>
      by_cases hsome : (lookUp (.path path)).isSome = true <;>
        simp [policyText, Place.named, hsome]

/-- The text at a place is that of its file, or of the file that stands in for it. -/
theorem fileAt_eq_ok_iff (hplace : lookUp place ≠ none) :
    fileAt lookUp place = .ok text ↔ Place.Holds lookUp place text := by
  constructor
  · intro h
    unfold fileAt at h
    split at h
    · next hfile =>
      cases h
      exact .file hfile
    · next hsecond hnotFile =>
      cases h
      cases hentry : lookUp place with
      | none => exact absurd hentry hplace
      | some entry =>
          cases entry with
          | file other => exact absurd hentry (hnotFile other)
          | noFile => exact .besideNoFile hentry hsecond
    · contradiction
  · intro h
    cases h with
    | file hfile => simp [fileAt, hfile]
    | besideNoFile hnoFile hfile => simp [fileAt, hnoFile, hfile]

/-- A text is the one that the chosen place holds. -/
theorem policyText_eq_ok_some_iff :
    policyText lookUp given = .ok (some text) ↔
      ∃ place, Place.Chosen lookUp given place ∧ Place.Holds lookUp place text := by
  rw [policyText_eq]
  cases hfind : (Place.named given).find? fun place => (lookUp place).isSome with
  | none =>
      cases given <;> simp [Place.chosen_iff, hfind]
  | some place =>
      have hplace := (Place.chosen_iff.mpr hfind).ne_none
      have hmap : (fileAt lookUp place).map some = .ok (some text) ↔
          fileAt lookUp place = .ok text := by
        cases fileAt lookUp place <;> simp [Except.map]
      simp [Place.chosen_iff, hfind, hmap, fileAt_eq_ok_iff hplace]

/-- There is no text if no path is given and no candidate exists. -/
theorem policyText_eq_ok_none_iff :
    policyText lookUp given = .ok none ↔
      given = none ∧ ∀ place ∈ Place.candidates, lookUp place = none := by
  rw [policyText_eq]
  cases hfind : (Place.named given).find? fun place => (lookUp place).isSome with
  | none =>
      cases given with
      | none => simpa [Place.named] using hfind
      | some path => simp
  | some place =>
      have hplace := (Place.chosen_iff.mpr hfind).ne_none
      have hmem := List.mem_of_find?_eq_some hfind
      have hmap : (fileAt lookUp place).map some ≠ .ok none := by
        cases fileAt lookUp place <;> simp [Except.map]
      simp only [hmap, false_iff, not_and]
      rintro rfl hnone
      exact hplace (hnone place hmem)

/-- A path that is given has to exist. -/
theorem policyText_of_absent {path : String} (h : lookUp (.path path) = none) :
    policyText lookUp (some path) = .error (.notFound path) := by
  simp [policyText, h]

/-- What is chosen and is no file, with no file called like it, is no document. -/
theorem policyText_of_not_holds (hchosen : Place.Chosen lookUp given place)
    (hnone : ∀ text, ¬ Place.Holds lookUp place text) :
    policyText lookUp given = .error (.malformed "the configuration is not a file") := by
  have hfileAt : fileAt lookUp place = .error (.malformed "the configuration is not a file") := by
    cases hresult : fileAt lookUp place with
    | ok text => exact absurd ((fileAt_eq_ok_iff hchosen.ne_none).mp hresult) (hnone text)
    | error error =>
        unfold fileAt at hresult
        split at hresult
        · contradiction
        · contradiction
        · exact hresult.symm
  rw [policyText_eq, Place.chosen_iff.mp hchosen]
  dsimp only
  rw [hfileAt]
  rfl

/-- Only whether the places asked for lead somewhere counts, and what stands at
the one that is chosen. -/
theorem policyText_congr {other : Place → Option Entry}
    (hsome : ∀ place ∈ Place.named given, (other place).isSome = (lookUp place).isSome)
    (hchosen : ∀ place, Place.Chosen lookUp given place →
      other place = lookUp place ∧
        (lookUp place = some .noFile →
          place.secondTry.bind other = place.secondTry.bind lookUp)) :
    policyText other given = policyText lookUp given := by
  have hfind : ((Place.named given).find? fun place => (other place).isSome) =
      (Place.named given).find? fun place => (lookUp place).isSome := by
    rw [← List.head?_filter, ← List.head?_filter, List.filter_congr hsome]
  rw [policyText_eq, policyText_eq, hfind]
  cases hfound : (Place.named given).find? fun place => (lookUp place).isSome with
  | none => rfl
  | some place =>
      have hplaceChosen := Place.chosen_iff.mpr hfound
      obtain ⟨hplace, hsecond⟩ := hchosen place hplaceChosen
      have hfileAt : fileAt other place = fileAt lookUp place := by
        rw [fileAt, fileAt, hplace]
        cases hentry : lookUp place with
        | none => exact absurd hentry hplaceChosen.ne_none
        | some entry =>
            cases entry with
            | file text => rfl
            | noFile => rw [hsecond hentry]
      dsimp only
      rw [hfileAt]

/-- What is loaded comes from the file that is found, and from the environment. -/
theorem Settings.load_eq_ofSources {machine : Machine} {environment : List Variable}
    (hchosen : Place.Chosen lookUp given place) (hholds : Place.Holds lookUp place text) :
    load machine lookUp environment given = ofSources machine (some text) environment := by
  rw [load, policyText_eq_ok_some_iff.mpr ⟨place, hchosen, hholds⟩]
  rfl

/-! ## Documents -/

/-- No text is a document without entries. -/
theorem Toml.parse?_empty : parse? "" = some [] := by
  unfold parse? read?
  rfl

/-- A document that does not start with a byte order mark is its lines. -/
theorem Toml.parse?_of_lines {lines : List Line} {entries : Entries}
    (hmark : text.toList.head? ≠ some '\ufeff')
    (hlines : readLines (text.toList.length + 1) (text.toList.length + 1) text.toList =
      some lines)
    (hentries : addLines [] [] lines = some entries) :
    parse? text = some (Node.entryValues entries) := by
  unfold parse? read?
  split
  · next rest heq =>
    rw [heq] at hmark
    exact absurd List.head?_cons hmark
  · simp only [hlines, hentries, bind, Option.bind]

end RefPolicy
