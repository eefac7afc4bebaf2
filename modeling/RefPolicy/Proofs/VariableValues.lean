import RefPolicy.Proofs.Layering

/-!
# RefPolicy.Proofs.VariableValues

What becomes of a text that a variable gives.  Variables are read before it is
known what they are for: a value that spells a switch or a number is one, and
where a text is asked for it is written out again.  So the text that arrives is
the one way in which such a value is written, which need not be the way it was
given; any other text arrives as it is.

* `Variable.text?_tree` — the text that arrives;
* `Variable.arrival_eq_iff` — when it is the one that was given;
* `Layout.exists_read_putNested`, `Layout.read_of_read_putNested` — sections with
  one field written over;
* `Settings.exists_load_under` — a variable for any setting that takes a text;
* `Settings.load_text_variable` — loading under such a variable.
-/

namespace RefPolicy

open RefPolicy.Tree

/-! ## Numbers in lower case -/

namespace Text

/-- Characters before the letters of ASCII have no lower case of their own. -/
theorem lowerChar_of_lt {c : Char} (h : c.toNat < 0x41) : lowerChar c = [c] := by
  have hfirst : (caseRuns.all fun run => decide (0x41 ≤ run.first)) = true := by decide +kernel
  have hdotted : c ≠ 'İ' := by
    rintro rfl
    contradiction
  have hnone : (caseRuns.findSome? fun run => run.partner? c.toNat) = none := by
    rw [List.findSome?_eq_none_iff]
    intro run hrun
    have hle : 0x41 ≤ run.first := by simpa using List.all_eq_true.mp hfirst run hrun
    have hlt : ¬ run.first ≤ c.toNat := by omega
    simp [CaseRun.partner?, hlt]
  rw [lowerChar, if_neg hdotted, hnone]

theorem lowerCase_cons_of_lt {c : Char} (h : c.toNat < 0x41) (rest : List Char) :
    lowerCase (c :: rest) = c :: lowerAfter [c] rest := by
  have hsigma : c ≠ 'Σ' := by
    rintro rfl
    contradiction
  rw [lowerCase, lowerAfter, if_neg hsigma, lowerChar_of_lt h]
  rfl

end Text

theorem Digits.exists_integerText_eq_cons (n : Int) :
    ∃ c rest, (integerText n).toList = c :: rest ∧ c.toNat < 0x41 := by
  unfold integerText
  split
  · exact ⟨'-', _, by rw [String.toList_append]; rfl, by decide⟩
  · obtain ⟨c, digits, hdigits, hdigit⟩ := toDigits_eq_cons n.natAbs
    refine ⟨c, digits, by rw [Nat.toList_repr, hdigits], ?_⟩
    have hhigh : c.toNat ≤ 57 := (Char.isDigit_iff_toNat.mp hdigit).2
    omega

/-! ## The text that arrives -/

namespace Variable

/-- Is the value read as a switch? -/
def IsSwitch (value : String) : Prop :=
  Text.lowerCaseString value = "true" ∨ Text.lowerCaseString value = "false"

/-- The text that a value gives: a switch or a number written out, and anything else itself. -/
def arrival (value : String) : String :=
  let word := Text.lowerCaseString value
  if word = "true" then "true"
  else if word = "false" then "false"
  else
    match Digits.signed64? value.toList, Binary64.read? value.toList with
    | some n, _ => Digits.integerText n
    | none, some x => x.text
    | none, none => value

/-- The values that are written the way they are written out: the words for
switches in small letters, whole numbers of 64 bits in decimal, other numbers
as their own text — and all that is neither a switch nor a number. -/
inductive Canonical : String → Prop
  | switch (on : Bool) : Canonical (if on then "true" else "false")
  | whole {n : Int} (fits : Digits.toSigned64? n = some n) : Canonical (Digits.integerText n)
  | real {value : String} {x : Binary64} (noSwitch : ¬ IsSwitch value)
      (notWhole : Digits.signed64? value.toList = none)
      (read : Binary64.read? value.toList = some x) (written : x.text = value) : Canonical value
  | plain {value : String} (noSwitch : ¬ IsSwitch value)
      (notWhole : Digits.signed64? value.toList = none)
      (notReal : Binary64.read? value.toList = none) : Canonical value

/-- A variable arrives as the text of what it is taken to be. -/
theorem text?_tree (entry : Variable) : entry.tree.text? = some (arrival entry.value) := by
  unfold tree arrival
  dsimp only
  split
  · rfl
  split
  · rfl
  split <;> simp [text?, *]

/-- A number is no word for a switch: it does not begin like one. -/
theorem not_isSwitch_integerText (n : Int) : ¬ IsSwitch (Digits.integerText n) := by
  obtain ⟨c, rest, htext, hc⟩ := Digits.exists_integerText_eq_cons n
  have hlower : (Text.lowerCaseString (Digits.integerText n)).toList.head? = some c := by
    simp [Text.lowerCaseString, htext, Text.lowerCase_cons_of_lt hc]
  rintro (hword | hword)
  · rw [hword] at hlower
    cases hlower
    contradiction
  · rw [hword] at hlower
    cases hlower
    contradiction

/-- A value arrives unchanged exactly if it is written the way it is written out. -/
theorem arrival_eq_iff (value : String) : arrival value = value ↔ Canonical value := by
  constructor
  -- The cases are those of reading: a word for a switch, a whole number, any number, a text.
  · intro h
    unfold arrival at h
    dsimp only at h
    split at h
    · exact h ▸ .switch true
    split at h
    · exact h ▸ .switch false
    next htrue hfalse =>
      have hswitch : ¬ IsSwitch value := not_or.mpr ⟨htrue, hfalse⟩
      split at h
      · next n hwhole =>
        have hfits : Digits.toSigned64? n = some n := Digits.toSigned64?_of_signed64? hwhole
        exact h ▸ .whole hfits
      · next x hwhole hreal => exact .real hswitch hwhole hreal h
      · next hwhole hreal => exact .plain hswitch hwhole hreal
  · intro h
    cases h with
    | switch on => cases on <;> decide +kernel
    | @whole n hfits =>
        have hswitch := not_or.mp (not_isSwitch_integerText n)
        unfold arrival
        simp only [hswitch.1, hswitch.2, if_false, Digits.signed64?_integerText hfits]
    | real hswitch hwhole hreal hwritten =>
        obtain ⟨htrue, hfalse⟩ := not_or.mp hswitch
        unfold arrival
        simp only [htrue, hfalse, if_false, hwhole, hreal, hwritten]
    | plain hswitch hwhole hreal =>
        obtain ⟨htrue, hfalse⟩ := not_or.mp hswitch
        unfold arrival
        simp only [htrue, hfalse, if_false, hwhole, hreal]

end Variable

/-! ## What arrives is not blank -/

theorem Digits.exists_mem_toDigits (n : Nat) :
    ∃ c ∈ Nat.toDigits 10 n, Text.isBlank c = false := by
  obtain ⟨c, digits, hdigits, hdigit⟩ := toDigits_eq_cons n
  exact ⟨c, hdigits ▸ List.mem_cons_self, Text.isBlank_of_isDigit hdigit⟩

theorem Digits.exists_mem_integerText (n : Int) :
    ∃ c ∈ (integerText n).toList, Text.isBlank c = false := by
  obtain ⟨c, hmem, hblank⟩ := exists_mem_toDigits n.natAbs
  rw [← Nat.toList_repr] at hmem
  refine ⟨c, ?_, hblank⟩
  unfold integerText
  split
  · rw [String.toList_append]
    exact List.mem_append_right _ hmem
  · exact hmem

theorem Binary64.exists_mem_positional (digits : Nat) (power : Int) :
    ∃ c ∈ positional digits power, Text.isBlank c = false := by
  unfold positional
  split
  · exact Digits.exists_mem_toDigits _
  · exact ⟨'.', List.mem_append_right _ List.mem_cons_self, by decide⟩

/-- Of a number at least a digit, a point, a sign or a letter is written. -/
theorem Binary64.exists_mem_chars (x : Binary64) :
    ∃ c ∈ x.chars, Text.isBlank c = false := by
  cases x with
  | finite negative mantissa exponent =>
      have hmagnitude : ∃ c ∈ (if mantissa = 0 then ['0'] else
          positional (shortest mantissa exponent).1 (shortest mantissa exponent).2),
          Text.isBlank c = false := by
        split
        · exact ⟨'0', List.mem_cons_self, by decide⟩
        · exact exists_mem_positional _ _
      cases negative with
      | true => exact ⟨'-', List.mem_cons_self, by decide⟩
      | false => exact hmagnitude
  | infinite negative =>
      cases negative <;> exact ⟨'i', by simp [chars], by decide⟩
  | nan => exact ⟨'N', List.mem_cons_self, by decide⟩

/-- A value that is not blank does not arrive blank. -/
theorem Variable.trim_arrival_ne_nil {value : String} (h : Text.trim value.toList ≠ []) :
    Text.trim (arrival value).toList ≠ [] := by
  unfold arrival
  dsimp only
  split
  · decide +kernel
  split
  · decide +kernel
  split
  · next n _ =>
    obtain ⟨c, hmem, hblank⟩ := Digits.exists_mem_integerText n
    exact Text.trim_ne_nil_of_mem hblank hmem
  · next x _ _ =>
    obtain ⟨c, hmem, hblank⟩ := x.exists_mem_chars
    exact Text.trim_ne_nil_of_mem hblank (by rwa [Binary64.text, String.toList_ofList])
  · exact h

/-! ## One field written over a section -/

namespace Tree.Layout

variable {σ : Type} {layout : Layout σ} {field : Field σ} (hfield : field ∈ layout.fields)
  {tables : Order} {tree value : Tree} {whole : σ} {read : field.Value}

/-- A section without entries has its defaults. -/
theorem read_table_nil : layout.read tables (table []) = .ok layout.default := by
  rw [Layout.read, Order.arrange_nil]
  rfl

include hfield

/-- A section with one field written over is read as it was, but for that field. -/
theorem read_put (htable : ∃ entries, tree = table entries)
    (h : layout.read tables tree = .ok whole) (hread : field.read value = .ok read) :
    layout.read tables (tree.put field.key value) = .ok (field.set read whole) := by
  obtain ⟨entries, rfl⟩ := htable
  rw [read_table_eq_ok_iff] at h
  rw [put, read_table_eq_ok_iff]
  intro other hother
  rw [← put, get?_put]
  by_cases hsame : other = field
  · subst hsame
    rw [if_pos rfl, Reads, other.get_set]
    exact toOption_eq_some_iff.mpr hread
  · have hkey : other.key ≠ field.key := mt (eq_of_key_eq hother hfield) hsame
    rw [if_neg hkey, get_set_of_ne hfield hother (Ne.symm hsame)]
    exact h other hother

/-- What was written over a field is what is read of it. -/
theorem read_of_read_put (h : layout.read tables (tree.put field.key value) = .ok whole) :
    field.read value = .ok (field.get whole) := by
  rw [put, read_table_eq_ok_iff] at h
  have hthis := h field hfield
  rw [← put, get?_put, if_pos rfl] at hthis
  exact toOption_eq_some_iff.mp hthis

/-- Whatever a section was written as, if it could be read it still can with a
field written over: a list gives way to a table with nothing else in it. -/
theorem exists_read_put {part : Option Tree}
    (h : ∀ tree ∈ part, ∃ whole, layout.read tables tree = .ok whole)
    (hread : field.read value = .ok read) :
    ∃ changed, layout.read tables ((part.getD absent).put field.key value) = .ok changed := by
  have hfresh : layout.read tables ((table []).put field.key value) =
      .ok (field.set read layout.default) := read_put hfield ⟨[], rfl⟩ read_table_nil hread
  cases part with
  | none => exact ⟨_, hfresh⟩
  | some tree =>
      obtain ⟨whole, htree⟩ := h tree rfl
      cases tree with
      | table entries => exact ⟨_, read_put hfield ⟨entries, rfl⟩ htree hread⟩
      -- Writing to a key of a list discards its items, as if nothing had been there.
      | list items => exact ⟨_, hfresh⟩
      | _ => cases htree

end Tree.Layout

/-! ## One field written over a section of sections -/

namespace Tree

/-- Write a value under a key of a section. -/
def putNested (tree : Tree) (tableKey key : String) (value : Tree) : Tree :=
  tree.put tableKey (((tree.get? tableKey).getD absent).put key value)

namespace Layout

variable {σ τ : Type} {outer : Layout σ} {inner : Layout τ} {tables : Order} {key : String}
  {get : σ → τ} {set : τ → σ → σ} {hget : ∀ part whole, get (set part whole) = part}
  (hsection : Field.of key (inner.read tables) get set hget ∈ outer.fields)
  {field : Field τ} (hfield : field ∈ inner.fields) {tree value : Tree} {whole : σ}

include hsection hfield

/-- With a field of a section written over, what could be read still can, and
only that section changes. -/
theorem exists_read_putNested {read : field.Value} (htable : ∃ entries, tree = table entries)
    (h : outer.read tables tree = .ok whole) (hread : field.read value = .ok read) :
    ∃ part, outer.read tables (tree.putNested key field.key value) = .ok (set part whole) := by
  have hsections : ∀ part ∈ tree.get? key, ∃ old, inner.read tables part = .ok old := by
    intro part hpart
    obtain ⟨entries, rfl⟩ := htable
    have hold := read_table_eq_ok_iff.mp h _ hsection
    rw [Field.of, hpart] at hold
    exact ⟨_, toOption_eq_some_iff.mp hold⟩
  obtain ⟨part, hchanged⟩ := exists_read_put hfield hsections hread
  exact ⟨part, read_put hsection htable h hchanged⟩

/-- What was written over a field of a section is what is read of it. -/
theorem read_of_read_putNested
    (h : outer.read tables (tree.putNested key field.key value) = .ok whole) :
    field.read value = .ok (field.get (get whole)) :=
  read_of_read_put hfield (read_of_read_put hsection h)

end Layout

/-- A document is a table. -/
theorem exists_table_ofDocument {machine : Machine} {text : Option String} {tree : Tree}
    (h : ofDocument machine text = .ok tree) : ∃ entries, tree = table entries := by
  unfold ofDocument at h
  split at h
  · cases h
    exact ⟨_, rfl⟩
  · split at h
    · exact exists_table_of_addSource (withSource_eq_ok_iff.mp h)
    · cases h

end Tree

/-! The two fields that take a text, and the sections that they stand in. -/

theorem Project.defaultBranch_mem_fields :
    Field.of "default_branch" (leaf text?) defaultBranch
      (fun defaultBranch project => { project with defaultBranch }) ∈ layout.fields := by
  simp [layout]

theorem Logging.level_mem_fields :
    Field.of "level" (leaf text?) level (fun level logging => { logging with level }) ∈
      layout.fields := by
  simp [layout]

theorem Settings.project_mem_fields (tables : Order) :
    Field.of "project" (Project.layout.read tables) project
      (fun project settings => { settings with project }) ∈ (layout tables).fields := by
  simp [layout]

theorem Settings.logging_mem_fields (tables : Order) :
    Field.of "logging" (Logging.layout.read tables) logging
      (fun logging settings => { settings with logging }) ∈ (layout tables).fields := by
  simp [layout]

/-! ## Loading under a variable -/

namespace Variable

/-- No variable speaks of settings. -/
def Silent (environment : List Variable) : Prop := ∀ entry ∈ environment, entry.key? = none

variable {before after : List Variable}

/-- An environment that says nothing of settings gives nothing. -/
theorem source_of_silent {environment : List Variable} (h : Silent environment) :
    source environment = [] := by
  rw [source, List.filterMap_eq_nil_iff]
  intro entry hentry
  rw [h entry (List.mem_reverse.mp hentry)]
  rfl

/-- A variable among silent ones is all that the environment says. -/
theorem source_among_silent (h : Silent (before ++ after)) (entry : Variable) :
    source (before ++ entry :: after) = source [entry] := by
  have hnil := source_of_silent h
  rw [source, List.reverse_append, List.filterMap_append, List.append_eq_nil_iff] at hnil
  rw [source, List.reverse_append, List.reverse_cons, List.filterMap_append, List.filterMap_append,
    hnil.1, hnil.2, List.append_nil, List.nil_append]
  rfl

/-- A variable of a setting writes its value there. -/
theorem addSource_source_setting (machine : Machine) (tree : Tree) (setting : Setting)
    (value : String) :
    tree.addSource machine (source [⟨setting.variableLabel, value⟩]) =
      some (tree.putNested setting.tableKey setting.key
        (Variable.tree ⟨setting.variableLabel, value⟩)) := by
  have hsource : source [⟨setting.variableLabel, value⟩] =
      [(setting.path, Variable.tree ⟨setting.variableLabel, value⟩)] := by
    simp [source, setting.key?_variableLabel]
  rw [hsource, addSource, Order.arrange_singleton, List.foldlM_cons, writeEntry_path, writeAt,
    writeAt, writeAt, overlay_tree]
  rfl

end Variable

namespace Settings

variable {machine : Machine} {lookUp : Place → Option Entry} {given : Option String}
  {settings : Settings}

/-- Settings are loaded from a text that is found and read, with the
environment written over it; the checks change nothing. -/
theorem load_eq_ok_iff {environment : List Variable} :
    load machine lookUp environment given = .ok settings ↔
      ∃ text tree result, policyText lookUp given = .ok text ∧
        Tree.ofDocument machine text = .ok tree ∧
        tree.addSource machine (Variable.source environment) = some result ∧
        ofTree machine.tables result = .ok settings ∧ settings.checked = .ok settings := by
  simp only [load, exceptBind_eq_ok_iff, ofSources, bind_eq_ok_iff, typed_eq_ok_iff,
    Tree.withSource_eq_ok_iff]
  constructor
  · rintro ⟨text, htext, tree, htree, result, hresult, read, hread, hchecked⟩
    obtain ⟨rfl, hchecked⟩ := checked_eq_ok_iff_self.mp hchecked
    exact ⟨text, tree, result, htext, htree, hresult, hread, hchecked⟩
  · rintro ⟨text, tree, result, htext, htree, hresult, hread, hchecked⟩
    exact ⟨text, htext, tree, htree, result, hresult, settings, hread, hchecked⟩

variable {before after : List Variable} (hsilent : Variable.Silent (before ++ after))
  {value : String}

include hsilent

/-- Under a variable of its own, a setting is written over what the file says. -/
theorem load_under_eq_ok_iff (setting : Setting) :
    load machine lookUp (before ++ ⟨setting.variableLabel, value⟩ :: after) given =
        .ok settings ↔
      ∃ text tree, policyText lookUp given = .ok text ∧
        Tree.ofDocument machine text = .ok tree ∧
        ofTree machine.tables (tree.putNested setting.tableKey setting.key
          (Variable.tree ⟨setting.variableLabel, value⟩)) = .ok settings ∧
        settings.checked = .ok settings := by
  simp only [load_eq_ok_iff, Variable.source_among_silent hsilent,
    Variable.addSource_source_setting, Option.some.injEq, exists_and_left, exists_eq_left']

/-- Without anything from the environment, the document alone is typed and checked. -/
theorem load_silent_eq_ok_iff :
    load machine lookUp (before ++ after) given = .ok settings ↔
      ∃ text tree, policyText lookUp given = .ok text ∧
        Tree.ofDocument machine text = .ok tree ∧ ofTree machine.tables tree = .ok settings ∧
        settings.checked = .ok settings := by
  simp only [load_eq_ok_iff, Variable.source_of_silent hsilent, Tree.addSource_nil,
    Option.some.injEq, exists_and_left, exists_eq_left']

section Texts

/-! A setting that takes a text, as a field of its section. -/

variable (setting : Setting) {σ : Type} {sectionLayout : Layout σ} {get : Settings → σ}
  {set : σ → Settings → Settings} {hget : ∀ part settings, get (set part settings) = part}
  {getText : σ → String} {setText : String → σ → σ}
  {hgetText : ∀ text part, getText (setText text part) = text}
  (hsection : ∀ tables, Field.of setting.tableKey (sectionLayout.read tables) get set hget ∈
    (layout tables).fields)
  (hfield : Field.of setting.key (leaf text?) getText setText hgetText ∈ sectionLayout.fields)

include hsection hfield

omit hsilent in
/-- A text that was written over is read as it arrives. -/
theorem text_of_ofTree_putNested {tables : Order} {tree : Tree}
    (h : ofTree tables (tree.putNested setting.tableKey setting.key
      (Variable.tree ⟨setting.variableLabel, value⟩)) = .ok settings) :
    getText (get settings) = Variable.arrival value := by
  have hread := Layout.read_of_read_putNested (hsection tables) hfield h
  have harrives := Variable.text?_tree ⟨setting.variableLabel, value⟩
  exact (Option.some.inj (harrives.symm.trans (leaf_eq_ok_iff.mp hread))).symm

/-- What is loaded under a variable is the text that arrives. -/
theorem text_of_load_under
    (h : load machine lookUp (before ++ ⟨setting.variableLabel, value⟩ :: after) given =
      .ok settings) :
    getText (get settings) = Variable.arrival value := by
  obtain ⟨text, tree, -, -, hread, -⟩ := (load_under_eq_ok_iff hsilent setting).mp h
  exact text_of_ofTree_putNested setting hsection hfield hread

/-- A variable changes the section of its setting and nothing else, if the
checks ask no more of the section than that its text is not blank. -/
theorem exists_load_under
    (hpasses : ∀ settings part, settings.checked = .ok settings →
      Text.trim (getText part).toList ≠ [] → (set part settings).checked = .ok (set part settings))
    (hvalue : Text.trim value.toList ≠ [])
    (h : load machine lookUp (before ++ after) given = .ok settings) :
    ∃ part, load machine lookUp (before ++ ⟨setting.variableLabel, value⟩ :: after) given =
      .ok (set part settings) := by
  obtain ⟨text, tree, htext, htree, hread, hchecked⟩ := (load_silent_eq_ok_iff hsilent).mp h
  have hwritten := Variable.text?_tree ⟨setting.variableLabel, value⟩
  obtain ⟨part, hchanged⟩ := Layout.exists_read_putNested (hsection machine.tables) hfield
    (Tree.exists_table_ofDocument htree) hread (leaf_eq_ok_iff.mpr hwritten)
  have hfull : Text.trim (getText part).toList ≠ [] := by
    rw [← hget part settings, text_of_ofTree_putNested setting hsection hfield hchanged]
    exact Variable.trim_arrival_ne_nil hvalue
  exact ⟨part, (load_under_eq_ok_iff hsilent setting).mpr
    ⟨text, tree, htext, htree, hchanged, hpasses settings part hchecked hfull⟩⟩

end Texts

omit hsilent

/-- A text given by a variable, over any policy file that loads.  The settings
load as they did but for the section of that text, and the text is the one that
arrives: what was given, unless that is a switch or a number written in another
way than it is written out. -/
theorem load_text_variable (machine : Machine) (lookUp : Place → Option Entry)
    (given : Option String) {before after : List Variable}
    (hsilent : Variable.Silent (before ++ after)) {value : String}
    (hvalue : Text.trim value.toList ≠ []) :
    let under (label : String) := load machine lookUp (before ++ ⟨label, value⟩ :: after) given
    (∀ settings, load machine lookUp (before ++ after) given = .ok settings →
      (∃ project, under "REFGUARD__PROJECT__DEFAULT_BRANCH" = .ok { settings with project }) ∧
      ∃ logging, under "REFGUARD__LOGGING__LEVEL" = .ok { settings with logging }) ∧
    (∀ settings, under "REFGUARD__PROJECT__DEFAULT_BRANCH" = .ok settings →
      settings.project.defaultBranch = Variable.arrival value ∧
        settings.policy.project.defaultBranch = Variable.arrival value) ∧
    (∀ settings, under "REFGUARD__LOGGING__LEVEL" = .ok settings →
      settings.logging.level = Variable.arrival value) ∧
    (Variable.arrival value = value ↔ Variable.Canonical value) := by
  intro under
  have hbranch : Setting.defaultBranch.variableLabel = "REFGUARD__PROJECT__DEFAULT_BRANCH" := by
    decide +kernel
  have hlevel : Setting.logLevel.variableLabel = "REFGUARD__LOGGING__LEVEL" := by decide +kernel
  rw [← hbranch, ← hlevel]
  refine ⟨fun settings hload => ⟨?_, ?_⟩, fun settings hload => ?_, fun settings hload => ?_,
    Variable.arrival_eq_iff value⟩
  · refine exists_load_under hsilent .defaultBranch project_mem_fields
      Project.defaultBranch_mem_fields ?_ hvalue hload
    intro settings project hchecked hbranch
    exact checked_eq_ok_iff.mpr ⟨hbranch, (checked_eq_ok_iff.mp hchecked).2⟩
  · refine exists_load_under hsilent .logLevel logging_mem_fields Logging.level_mem_fields ?_
      hvalue hload
    intro settings logging hchecked hlevel
    exact checked_eq_ok_iff.mpr ⟨(checked_eq_ok_iff.mp hchecked).1, hlevel⟩
  · have harrives := text_of_load_under hsilent .defaultBranch project_mem_fields
      Project.defaultBranch_mem_fields hload
    exact ⟨harrives, harrives⟩
  · exact text_of_load_under hsilent .logLevel logging_mem_fields Logging.level_mem_fields hload

/-- A branch with a slash and a dot in its name arrives as it is, and what the
file says of the project beside it stays. -/
theorem load_release_branch_over_file :
    let text := "[project]\nempty_repository=true\ndefault_branch='main'"
    let lookUp (place : Place) : Option Entry :=
      if place = .path "refguard.toml" then some (.file text) else none
    let before : List Variable := [⟨"HOME", "/root"⟩]
    let environment := before ++ ⟨"REFGUARD__PROJECT__DEFAULT_BRANCH", "release/1.0"⟩ :: []
    let loaded : Settings := { project := { emptyRepository := true } }
    Variable.Silent (before ++ []) ∧ Text.trim "release/1.0".toList ≠ [] ∧
      Variable.Canonical "release/1.0" ∧
      load .standard lookUp (before ++ []) none = .ok loaded ∧
      ∃ project, load .standard lookUp environment none = .ok { loaded with project } ∧
        project.defaultBranch = "release/1.0" := by
  have hlines : Toml.readLines
      ("[project]\nempty_repository=true\ndefault_branch='main'".toList.length + 1)
      ("[project]\nempty_repository=true\ndefault_branch='main'".toList.length + 1)
      "[project]\nempty_repository=true\ndefault_branch='main'".toList =
      some [.table ["project"], .assignment ["empty_repository"] (.boolean true),
        .assignment ["default_branch"] (.string "main")] := by rfl
  have hentries : Toml.addLines [] [] [.table ["project"],
      .assignment ["empty_repository"] (.boolean true),
      .assignment ["default_branch"] (.string "main")] =
      some [("project", .table .header [("empty_repository", .closed (.boolean true)),
        ("default_branch", .closed (.string "main"))])] := rfl
  intro text lookUp before environment loaded
  have hsilent : Variable.Silent (before ++ []) :=
    List.forall_mem_singleton.mpr (by decide +kernel)
  have hvalue : Text.trim "release/1.0".toList ≠ [] := by decide +kernel
  have hword : Text.lowerCaseString "release/1.0" = "release/1.0" := by decide +kernel
  have hcanonical : Variable.Canonical "release/1.0" :=
    .plain (by simp [Variable.IsSwitch, hword]) (by decide +kernel) (by decide +kernel)
  have hchosen : Place.Chosen lookUp none (.path "refguard.toml") :=
    ⟨[], Place.candidates.tail, rfl, by simp, by simp [lookUp]⟩
  have hholds : Place.Holds lookUp (.path "refguard.toml") text := .file (by simp [lookUp])
  have hload : load .standard lookUp (before ++ []) none = .ok loaded := by
    rw [load_eq_ofSources hchosen hholds, ofSources, Tree.ofDocument,
      Toml.parse?_of_lines (by decide) hlines hentries]
    rfl
  obtain ⟨hlater, harrives, -, hverbatim⟩ :=
    load_text_variable .standard lookUp none hsilent hvalue
  obtain ⟨⟨project, hproject⟩, -⟩ := hlater loaded hload
  have hbranch : project.defaultBranch = Variable.arrival "release/1.0" := (harrives _ hproject).1
  exact ⟨hsilent, hvalue, hcanonical, hload, project, hproject,
    hbranch.trans (hverbatim.mpr hcanonical)⟩

/-- A branch whose name is a number is renamed on its way: `007` arrives as `7`. -/
theorem load_numeric_branch :
    let nowhere (_ : Place) : Option Entry := none
    Text.trim "007".toList ≠ [] ∧ load .standard nowhere [] none = .ok {} ∧
      load .standard nowhere [⟨"REFGUARD__PROJECT__DEFAULT_BRANCH", "007"⟩] none =
        .ok { project := { defaultBranch := "7" } } := by
  have hlabel : Setting.defaultBranch.variableLabel = "REFGUARD__PROJECT__DEFAULT_BRANCH" := by
    decide +kernel
  have hword : Text.lowerCaseString "007" = "007" := by decide +kernel
  have hwhole : Digits.signed64? "007".toList = some 7 := by decide +kernel
  have htree : Variable.tree ⟨Setting.defaultBranch.variableLabel, "007"⟩ = .whole 7 := by
    rw [Variable.tree, hword, if_neg (by decide), if_neg (by decide), hwhole]
  intro nowhere
  refine ⟨by decide +kernel, rfl, ?_⟩
  rw [← hlabel, load_eq_ok_iff]
  refine ⟨none, .table [], _, rfl, rfl, Variable.addSource_source_setting _ _ _ _, ?_,
    checked_eq_ok_iff.mpr (by decide +kernel)⟩
  rw [htree]
  rfl

end Settings

end RefPolicy
