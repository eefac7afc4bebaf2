import RefPolicy.Proofs.Overlay
import RefPolicy.Proofs.PolicyFile
import RefPolicy.Proofs.Sections
import RefPolicy.Proofs.VariableNames

/-!
# RefPolicy.Proofs.Layering

Settings in layers: the environment over the policy file over the defaults.
The layers are laid setting by setting, so that a variable replaces one value
and leaves what the file says beside it; types and checks come after, and see
only what survives.

* `Settings.ofTree_eq_ok_iff` — a tree is read setting by setting;
* `Tree.nested?_addSource_source` — what variables leave of a tree;
* `Settings.typed_eq_ok_iff_layers` — both together;
* `load_eq_layers` — loading, from the choice of the file to the checks.
-/

namespace RefPolicy

open RefPolicy.Tree

/-! ## Settings of a single value -/

/-- A setting that is a single value. -/
inductive Setting where
  | logLevel
  | logFormat
  | deployKeyGrants
  | emptyRepository
  | defaultBranchProtected
  | defaultBranch
  | codeOwnerApproval
  | restrictedUnprotect
  | unprotectMinimum
  deriving DecidableEq

namespace Setting

/-- The key of the table it stands in. -/
def tableKey : Setting → String
  | logLevel | logFormat => "logging"
  | deployKeyGrants => "features"
  | emptyRepository | defaultBranchProtected | defaultBranch => "project"
  | codeOwnerApproval | restrictedUnprotect | unprotectMinimum => "extensions"

/-- Its own key in that table. -/
def key : Setting → String
  | logLevel => "level"
  | logFormat => "format"
  | deployKeyGrants => "deploy_key_grants"
  | emptyRepository => "empty_repository"
  | defaultBranchProtected => "default_branch_protected"
  | defaultBranch => "default_branch"
  | codeOwnerApproval => "code_owner_approval"
  | restrictedUnprotect => "restricted_unprotect"
  | unprotectMinimum => "unprotect_min_role"

/-- Its place in a tree, as a key that variables give. -/
def path (setting : Setting) : String := setting.tableKey ++ "." ++ setting.key

/-- The name of the variable that speaks of it. -/
def variableLabel (setting : Setting) : String :=
  "REFGUARD__" ++ setting.tableKey.toUpper ++ "__" ++ setting.key.toUpper

/-- The type of its value. -/
abbrev Value : Setting → Type
  | logLevel | defaultBranch => String
  | logFormat => LogFormat
  | unprotectMinimum => Role
  | deployKeyGrants | emptyRepository | defaultBranchProtected | codeOwnerApproval
  | restrictedUnprotect => Bool

/-- How its value is read off a tree. -/
def convert : (setting : Setting) → Tree → Option setting.Value
  | logLevel | defaultBranch => text?
  | logFormat | unprotectMinimum => name?
  | deployKeyGrants | emptyRepository | defaultBranchProtected | codeOwnerApproval
  | restrictedUnprotect => flag?

/-- Its value among all settings. -/
def get : (setting : Setting) → Settings → setting.Value
  | logLevel, settings => settings.logging.level
  | logFormat, settings => settings.logging.format
  | deployKeyGrants, settings => settings.features.deployKeyGrants
  | emptyRepository, settings => settings.project.emptyRepository
  | defaultBranchProtected, settings => settings.project.defaultBranchProtected
  | defaultBranch, settings => settings.project.defaultBranch
  | codeOwnerApproval, settings => settings.extensions.codeOwnerApproval
  | restrictedUnprotect, settings => settings.extensions.restrictedUnprotect
  | unprotectMinimum, settings => settings.extensions.unprotectMinimum

/-- The tables of settings are words, as variables can name them. -/
theorem isWord_tableKey (setting : Setting) : IsWord setting.tableKey := by
  apply IsWord.of_all <;> cases setting <;> decide +kernel

/-- So are the settings in them. -/
theorem isWord_key (setting : Setting) : IsWord setting.key := by
  apply IsWord.of_all <;> cases setting <;> decide +kernel

/-- A path leads to the table and then to the setting. -/
theorem placeOf_path (setting : Setting) :
    placeOf setting.path = [.key setting.tableKey, .key setting.key] :=
  placeOf_ofWords setting.isWord_tableKey setting.isWord_key

/-- The variable of a setting gives its path. -/
theorem key?_variableLabel (setting : Setting) (value : String) :
    Variable.key? ⟨setting.variableLabel, value⟩ = some setting.path :=
  Variable.key?_ofWords setting.isWord_tableKey setting.isWord_key value

/-- No two settings have the same key. -/
theorem key_injective {setting other : Setting} (h : setting.key = other.key) :
    setting = other := by
  cases setting <;> cases other <;> simp [key] at h ⊢

/-- Nor the same path. -/
theorem path_injective {setting other : Setting} (h : setting.path = other.path) :
    setting = other := by
  have hplace := congrArg placeOf h
  rw [placeOf_path, placeOf_path] at hplace
  exact key_injective (by simpa using (List.cons.inj (List.cons.inj hplace).2).1)

/-- No setting stands among the protected refs. -/
theorem tableKey_ne (setting : Setting) : "protected_refs" ≠ setting.tableKey := by
  cases setting <;> simp [tableKey]

/-- What holds of each of the nine holds of all. -/
theorem forall_iff {P : Setting → Prop} :
    (∀ setting, P setting) ↔
      (P logLevel ∧ P logFormat) ∧ P deployKeyGrants ∧
        (P emptyRepository ∧ P defaultBranchProtected ∧ P defaultBranch) ∧
          P codeOwnerApproval ∧ P restrictedUnprotect ∧ P unprotectMinimum := by
  constructor
  · intro h
    exact ⟨⟨h _, h _⟩, h _, ⟨h _, h _, h _⟩, h _, h _, h _⟩
  · rintro ⟨⟨_, _⟩, _, ⟨_, _, _⟩, _, _, _⟩ setting
    cases setting <;> assumption

end Setting

/-! ## Reading a tree setting by setting -/

/-- A table whose sections are tables. -/
structure Tree.Sectioned (tree : Tree) : Prop where
  isTable : ∃ entries, tree = .table entries
  sections : ∀ setting : Setting, ∀ part ∈ tree.get? setting.tableKey,
    ∃ entries, part = .table entries

/-- A list of protected refs.  Orders do not show in what is read
(`ProtectedRef.toOption_listOf_read`), so entries are read as they are written. -/
def ProtectedRef.listOfTree? (tree : Tree) : Option (List ProtectedRef) :=
  (listOf (layout.read .asWritten) tree).toOption

/-- Whether protected refs can be read does not depend on the order. -/
theorem ProtectedRef.toOption_listOf_read (tables : Order) :
    (fun tree => (listOf (layout.read tables) tree).toOption) = listOfTree? := by
  funext tree
  have hconvert : (fun item => (layout.read tables item).toOption) =
      fun item => (layout.read .asWritten item).toOption := layout.convert_eq tables .asWritten
  rw [listOfTree?, toOption_listOf, toOption_listOf, hconvert]

/-- A table is read section by section. -/
theorem Settings.ofTree_eq_ok_iff_sections {tables : Order} {tree : Tree}
    (h : ∃ entries, tree = .table entries) {settings : Settings} :
    Settings.ofTree tables tree = .ok settings ↔
      Reads (Logging.layout.convert tables) {} (tree.get? "logging") settings.logging ∧
      Reads (Features.layout.convert tables) {} (tree.get? "features") settings.features ∧
      Reads (Project.layout.convert tables) {} (tree.get? "project") settings.project ∧
      Reads (ExtensionSwitches.layout.convert tables) {} (tree.get? "extensions")
        settings.extensions ∧
      Reads ProtectedRef.listOfTree? [] (tree.get? "protected_refs") settings.protectedRefs := by
  obtain ⟨entries, rfl⟩ := h
  rw [Settings.ofTree, Layout.read_table_eq_ok_iff, ← ProtectedRef.toOption_listOf_read tables]
  simp only [layout, List.forall_mem_cons, List.not_mem_nil, false_implies, implies_true, and_true]
  exact Iff.rfl

/-- A tree is read setting by setting. -/
theorem Settings.ofTree_eq_ok_iff {tables : Order} {tree : Tree} (h : tree.Sectioned)
    {settings : Settings} :
    Settings.ofTree tables tree = .ok settings ↔
      (∀ setting : Setting,
        Reads setting.convert (setting.get {}) (tree.nested? setting.tableKey setting.key)
          (setting.get settings)) ∧
      Reads ProtectedRef.listOfTree? [] (tree.get? "protected_refs") settings.protectedRefs := by
  rw [ofTree_eq_ok_iff_sections h.isTable, Setting.forall_iff]
  refine (and_congr (Logging.layout.reads_convert_iff (h.sections .logLevel)) <|
    and_congr (Features.layout.reads_convert_iff (h.sections .deployKeyGrants)) <|
    and_congr (Project.layout.reads_convert_iff (h.sections .defaultBranch)) <|
    and_congr_left' <|
      ExtensionSwitches.layout.reads_convert_iff (h.sections .codeOwnerApproval)).trans ?_
  simp only [Logging.layout, Features.layout, Project.layout, ExtensionSwitches.layout,
    List.forall_mem_cons, List.not_mem_nil, false_implies, implies_true, and_true, reads_leaf_iff,
    and_assoc]
  exact Iff.rfl

/-! ## Variables -/

namespace Variable

/-- Every variable that speaks of settings speaks of a setting of a single value. -/
def OnlySettings (environment : List Variable) : Prop :=
  ∀ entry ∈ environment, entry.key? = none ∨ ∃ setting : Setting, entry.key? = some setting.path

/-- What an environment says about a setting; of several variables the last counts. -/
def valueOf? (environment : List Variable) (setting : Setting) : Option Tree :=
  (environment.reverse.find? fun entry => entry.key? == some setting.path).map Variable.tree

/-- A variable has no table for its value. -/
theorem tree_ne_table (entry : Variable) (entries : List (String × Tree)) :
    entry.tree ≠ .table entries := by
  intro h
  unfold tree at h
  dsimp only at h
  split at h
  · cases h
  split at h
  · cases h
  split at h <;> cases h

/-- What a variable gives is no table, so it replaces what was there. -/
theorem overlay_tree (entry : Variable) (earlier : Tree) :
    overlay earlier entry.tree = entry.tree := by
  cases htree : entry.tree with
  | table entries => exact absurd htree (entry.tree_ne_table entries)
  | _ => rfl

/-- Of several variables for a setting the last counts. -/
theorem valueOf?_cons (entry : Variable) (environment : List Variable) (setting : Setting) :
    valueOf? (entry :: environment) setting =
      (valueOf? environment setting).or
        (if entry.key? = some setting.path then some entry.tree else none) := by
  rw [valueOf?, List.reverse_cons, List.find?_append, valueOf?, Option.map_or]
  by_cases hkey : entry.key? = some setting.path <;> simp [hkey]

end Variable

/-- What is found in a source is what the environment says. -/
theorem Variable.lookup_source (environment : List Variable) (setting : Setting) :
    (source environment).lookup setting.path = valueOf? environment setting := by
  rw [source, valueOf?]
  induction environment.reverse with
  | nil => rfl
  | cons entry rest ih =>
      rw [List.filterMap_cons, List.find?_cons]
      cases hkey : entry.key? with
      | none => simpa using ih
      | some key =>
          rw [Option.map_some]
          dsimp only
          rw [lookup_cons, ih]
          by_cases hsame : setting.path = key
          · simp [hsame]
          · have hbeq : (key == setting.path) = false := by simpa using Ne.symm hsame
            simp [hsame, hbeq]

/-- Such an environment gives values for settings and nothing else. -/
theorem Variable.exists_of_mem_source {environment : List Variable}
    (henvironment : OnlySettings environment) {entry : String × Tree}
    (hentry : entry ∈ source environment) :
    ∃ (setting : Setting) (source : Variable), entry = (setting.path, source.tree) := by
  obtain ⟨given, hmem, hsome⟩ := List.mem_filterMap.mp hentry
  obtain ⟨key, hkey, rfl⟩ := Option.map_eq_some_iff.mp hsome
  rcases henvironment given (List.mem_reverse.mp hmem) with hnone | ⟨setting, hpath⟩
  · rw [hnone] at hkey
    contradiction
  · rw [hpath] at hkey
    exact ⟨setting, given, by rw [Option.some.inj hkey]⟩

namespace Tree

/-- A write to a setting always has room. -/
theorem writeEntry_path (room : Nat) (tree value : Tree) (setting : Setting) :
    writeEntry room tree (setting.path, value) =
      some (writeAt value [.key setting.tableKey, .key setting.key] tree) := by
  rw [writeEntry, setting.placeOf_path, if_pos (hasRoom_of_keys (by simp) tree)]

/-- A table whose sections are tables, and what it says of protected refs, are
what writes to single values leave alone. -/
theorem Sectioned.writeAt {tree : Tree} (h : tree.Sectioned) (value : Tree) (setting : Setting) :
    (Tree.writeAt value [.key setting.tableKey, .key setting.key] tree).Sectioned := by
  refine ⟨⟨_, rfl⟩, fun other part hpart => ?_⟩
  rw [get?_writeAt_key, Option.mem_def] at hpart
  split at hpart
  · exact ⟨_, (Option.some.inj hpart).symm⟩
  · exact h.sections other part hpart

/-- What values laid over a tree leave of it: each takes the place of what the
tree says about its setting, and all else stays. -/
structure Under (value? : Setting → Option Tree) (tree result : Tree) : Prop where
  nested : ∀ setting : Setting, result.nested? setting.tableKey setting.key =
    (value? setting).or (tree.nested? setting.tableKey setting.key)
  sectioned : tree.Sectioned → result.Sectioned
  protectedRefs : result.get? "protected_refs" = tree.get? "protected_refs"

/-- Values are written to their settings one after the other.  No two are for
one setting, so that no order of the writes shows. -/
theorem exists_under_of_foldlM (room : Nat) {entries : List (String × Tree)}
    (hkeys : (entries.map Prod.fst).Nodup)
    (hentries : ∀ entry ∈ entries,
      ∃ (setting : Setting) (source : Variable), entry = (setting.path, source.tree))
    (tree : Tree) :
    ∃ result, entries.foldlM (writeEntry room) tree = some result ∧
      Under (fun setting => entries.lookup setting.path) tree result := by
  induction entries generalizing tree with
  | nil => exact ⟨tree, rfl, fun _ => rfl, id, rfl⟩
  | cons entry rest ih =>
      rw [List.map_cons, List.nodup_cons] at hkeys
      rw [List.forall_mem_cons] at hentries
      obtain ⟨setting, source, rfl⟩ := hentries.1
      obtain ⟨result, hresult, hunder⟩ := ih hkeys.2 hentries.2
        (Tree.writeAt source.tree [.key setting.tableKey, .key setting.key] tree)
      refine ⟨result, ?_, fun other => ?_, fun h => hunder.sectioned (h.writeAt _ setting), ?_⟩
      · rw [List.foldlM_cons, writeEntry_path]
        exact hresult
      · rw [hunder.nested, nested?_writeAt source.overlay_tree, lookup_cons]
        by_cases hsame : other = setting
        -- What was written here stays, for no later entry is for the same setting.
        · subst hsame
          have hlater : rest.lookup other.path = none := lookup_eq_none_of_not_mem hkeys.1
          simp [hlater]
        · have hkey : other.key ≠ setting.key := mt Setting.key_injective hsame
          have hpath : other.path ≠ setting.path := mt Setting.path_injective hsame
          simp [hkey, hpath]
      · rw [hunder.protectedRefs, get?_writeAt_key, if_neg setting.tableKey_ne]

/-- Variables take the place of what a tree says about their settings, in
whatever order they are written. -/
theorem exists_under_of_addSource {environment : List Variable}
    (henvironment : Variable.OnlySettings environment) (machine : Machine) (tree : Tree) :
    ∃ result, tree.addSource machine (Variable.source environment) = some result ∧
      Under (Variable.valueOf? environment) tree result := by
  obtain ⟨result, hresult, hunder⟩ := exists_under_of_foldlM machine.room
    (machine.sources.nodup_arrange (Variable.source environment))
    (fun entry hentry => Variable.exists_of_mem_source henvironment
      (machine.sources.mem_of_mem_arrange _ hentry)) tree
  refine ⟨result, hresult, fun setting => ?_, hunder.sectioned, hunder.protectedRefs⟩
  rw [hunder.nested, Order.lookup_arrange, Variable.lookup_source]

end Tree

/-! ## The policy file -/

/-- The value under a key; only tables have any. -/
def Toml.Value.get? : Toml.Value → String → Option Toml.Value
  | .table entries, key => entries.lookup key
  | _, _ => none

/-- A document whose keys are plain and whose sections are tables. -/
structure Toml.Regular (file : List (String × Toml.Value)) : Prop where
  plain : ∀ entry ∈ file, PlainKey entry.1
  sections : ∀ setting : Setting, ∀ value ∈ file.lookup setting.tableKey,
    ∃ entries, value = .table entries

/-- What a document says about a setting. -/
def Toml.valueOf? (file : List (String × Toml.Value)) (setting : Setting) : Option Toml.Value :=
  (file.lookup setting.tableKey).bind fun part => part.get? setting.key

/-- The entries of the policy file, of which there are none if there is no file. -/
inductive Toml.PolicyEntries (lookUp : Place → Option Entry) (given : Option String) :
    List (String × Toml.Value) → Prop
  | read {place : Place} {text : String} {file : List (String × Toml.Value)}
      (chosen : Place.Chosen lookUp given place) (holds : Place.Holds lookUp place text)
      (parsed : Toml.parse? text = some file) : PolicyEntries lookUp given file
  | nothing (search : given = none) (absent : ∀ place ∈ Place.candidates, lookUp place = none) :
      PolicyEntries lookUp given []

namespace Tree

variable {file : List (String × Toml.Value)} {tree : Tree}

/-- A tree shows a document: it is a table, with what the document says under
every key. -/
structure Shows (file : List (String × Toml.Value)) (tree : Tree) : Prop where
  isTable : ∃ entries, tree = table entries
  get? : ∀ key, tree.get? key = (file.lookup key).map ofToml

/-- On every machine a document with plain keys builds a tree that shows it. -/
theorem exists_shows_of_plain (machine : Machine) {text : String}
    (h : Toml.parse? text = some file) (hplain : ∀ entry ∈ file, PlainKey entry.1) :
    ∃ tree, (table []).addSource machine (ofTomlEntries file) = some tree ∧ tree.Shows file := by
  refine ⟨_, addSource_ofTomlEntries machine hplain (Toml.distinct_of_parse? h), ⟨_, rfl⟩,
    fun key => ?_⟩
  rw [get?_table, Order.lookup_arrange, lookup_ofTomlEntries]

theorem get?_ofToml (value : Toml.Value) (key : String) :
    (ofToml value).get? key = (value.get? key).map ofToml := by
  cases value with
  | table entries => rw [ofToml, get?_table, lookup_ofTomlEntries, Toml.Value.get?]
  | _ => rfl

/-- A tree shows of each setting what the document says of it. -/
theorem Shows.nested? (h : tree.Shows file) (setting : Setting) :
    tree.nested? setting.tableKey setting.key = (Toml.valueOf? file setting).map ofToml := by
  rw [Tree.nested?, h.get?, Toml.valueOf?]
  cases file.lookup setting.tableKey with
  | none => rfl
  | some part => exact get?_ofToml part setting.key

/-- A regular document has its settings in tables. -/
theorem Shows.sectioned (h : tree.Shows file) (hregular : Toml.Regular file) : tree.Sectioned := by
  refine ⟨h.isTable, fun setting part hpart => ?_⟩
  rw [h.get?, Option.mem_def, Option.map_eq_some_iff] at hpart
  obtain ⟨value, hvalue, rfl⟩ := hpart
  obtain ⟨entries, rfl⟩ := hregular.sections setting value hvalue
  exact ⟨_, rfl⟩

end Tree

/-! ## Layers -/

/-- What is left of a setting when the environment is laid over the file. -/
def Setting.surviving (file : List (String × Toml.Value)) (environment : List Variable)
    (setting : Setting) : Option Tree :=
  (Variable.valueOf? environment setting).or ((Toml.valueOf? file setting).map Tree.ofToml)

/-- The settings that layers describe: each value is what survives, or else the
default, and the protected refs are those of the file. -/
structure Settings.Layers (settings : Settings) (file : List (String × Toml.Value))
    (environment : List Variable) : Prop where
  values : ∀ setting : Setting,
    Reads setting.convert (setting.get {}) (setting.surviving file environment)
      (setting.get settings)
  protectedRefs :
    Reads ProtectedRef.listOfTree? [] ((file.lookup "protected_refs").map Tree.ofToml)
      settings.protectedRefs

/-- Every value that survives converts to the type of its setting. -/
structure Toml.Convertible (file : List (String × Toml.Value)) (environment : List Variable) :
    Prop where
  values : ∀ setting : Setting, ∀ tree ∈ setting.surviving file environment,
    (setting.convert tree).isSome = true
  protectedRefs : ∀ value ∈ file.lookup "protected_refs",
    (ProtectedRef.listOfTree? (Tree.ofToml value)).isSome = true

namespace Settings

variable {machine : Machine} {file : List (String × Toml.Value)} {environment : List Variable}
  {settings : Settings}

/-- A tree has types if it can be read. -/
theorem typed_eq_ok_iff {tree : Tree} :
    typed machine tree = .ok settings ↔ Settings.ofTree machine.tables tree = .ok settings := by
  unfold typed
  cases Settings.ofTree machine.tables tree with
  | ok _ => simp
  | error defect => cases defect <;> simp

/-- The tree of a document with the environment over it is typed layer by layer. -/
theorem typed_eq_ok_iff_layers {tree result : Tree} (hshows : tree.Shows file)
    (hregular : Toml.Regular file) (hunder : Under (Variable.valueOf? environment) tree result) :
    typed machine result = .ok settings ↔ settings.Layers file environment := by
  rw [typed_eq_ok_iff, ofTree_eq_ok_iff (hunder.sectioned (hshows.sectioned hregular)),
    hunder.protectedRefs, hshows.get?]
  simp only [hunder.nested, hshows.nested?]
  exact ⟨fun h => ⟨h.1, h.2⟩, fun h => ⟨h.values, h.protectedRefs⟩⟩

/-- Settings with given values. -/
def ofValues (value : (setting : Setting) → setting.Value) (refs : List ProtectedRef) :
    Settings where
  logging := { level := value .logLevel, format := value .logFormat }
  features := { deployKeyGrants := value .deployKeyGrants }
  project :=
    { emptyRepository := value .emptyRepository,
      defaultBranchProtected := value .defaultBranchProtected,
      defaultBranch := value .defaultBranch }
  extensions :=
    { codeOwnerApproval := value .codeOwnerApproval,
      restrictedUnprotect := value .restrictedUnprotect,
      unprotectMinimum := value .unprotectMinimum }
  protectedRefs := refs

theorem get_ofValues (value : (setting : Setting) → setting.Value) (refs : List ProtectedRef)
    (setting : Setting) : setting.get (ofValues value refs) = value setting := by
  cases setting <;> rfl

/-- What converts can be read, and what is left out has its default. -/
theorem exists_reads {α : Type} {convert : Tree → Option α} {default : α} {field : Option Tree}
    (h : ∀ tree ∈ field, (convert tree).isSome = true) :
    ∃ value, Reads convert default field value := by
  cases field with
  | none => exact ⟨default, rfl⟩
  | some tree => exact Option.isSome_iff_exists.mp (h tree rfl)

/-- Where everything converts, the layers describe settings. -/
theorem exists_layers (h : Toml.Convertible file environment) :
    ∃ settings : Settings, settings.Layers file environment := by
  have hvalue (setting : Setting) : ∃ value,
      Reads setting.convert (setting.get {}) (setting.surviving file environment) value :=
    exists_reads (h.values setting)
  have hrefs : ∃ refs, Reads ProtectedRef.listOfTree? []
      ((file.lookup "protected_refs").map Tree.ofToml) refs := by
    refine exists_reads fun tree htree => ?_
    obtain ⟨value, hmem, rfl⟩ := Option.map_eq_some_iff.mp htree
    exact h.protectedRefs value hmem
  obtain ⟨refs, hrefs⟩ := hrefs
  let value (setting : Setting) : setting.Value := Classical.choose (hvalue setting)
  refine ⟨ofValues value refs, fun setting => ?_, hrefs⟩
  rw [get_ofValues]
  exact Classical.choose_spec (hvalue setting)

/-- What is loaded is what the layers describe, put to the checks. -/
theorem load_eq_checked (machine : Machine) {lookUp : Place → Option Entry}
    {given : Option String} (hfile : Toml.PolicyEntries lookUp given file)
    (hregular : Toml.Regular file) (henvironment : Variable.OnlySettings environment)
    (h : settings.Layers file environment) :
    load machine lookUp environment given = settings.checked := by
  have hdocument : ∃ text tree, policyText lookUp given = .ok text ∧
      Tree.ofDocument machine text = .ok tree ∧ tree.Shows file := by
    cases hfile with
    | @read place text _ hchosen hholds hparsed =>
        obtain ⟨tree, htree, hshows⟩ :=
          Tree.exists_shows_of_plain machine hparsed hregular.plain
        refine ⟨some text, tree, policyText_eq_ok_some_iff.mpr ⟨place, hchosen, hholds⟩, ?_,
          hshows⟩
        rw [Tree.ofDocument, hparsed]
        dsimp only
        rw [Tree.withSource, htree, Option.elim_some]
    | nothing hsearch habsent =>
        exact ⟨none, .table [], policyText_eq_ok_none_iff.mpr ⟨hsearch, habsent⟩, rfl, ⟨[], rfl⟩,
          fun _ => rfl⟩
  obtain ⟨text, tree, htext, htree, hshows⟩ := hdocument
  obtain ⟨result, hresult, hunder⟩ := Tree.exists_under_of_addSource henvironment machine tree
  have htyped : typed machine result = .ok settings :=
    (typed_eq_ok_iff_layers hshows hregular hunder).mpr h
  rw [load, htext]
  simp only [Except.bind, ofSources, htree, Tree.withSource, hresult, Option.elim_some, bind,
    htyped]

/-! ## Checks -/

/-- The checks let settings pass as they are, or name what is blank. -/
theorem checked_cases (settings : Settings) :
    settings.checked = .ok settings ∨
      settings.checked = .error (.missing "project.default_branch") ∨
      settings.checked = .error (.invalid "logging.level must not be empty") := by
  unfold checked
  split
  · exact .inr (.inl rfl)
  · split
    · exact .inr (.inr rfl)
    · exact .inl rfl

/-- The checks change nothing. -/
theorem checked_eq_ok_iff_self {other : Settings} :
    settings.checked = .ok other ↔ settings = other ∧ settings.checked = .ok settings := by
  obtain hchecked | hchecked | hchecked := checked_cases settings <;> simp [hchecked]

/-- The default branch is checked first. -/
theorem checked_eq_missing_iff :
    settings.checked = .error (.missing "project.default_branch") ↔
      Text.trim settings.project.defaultBranch.toList = [] := by
  rw [checked, ← List.isEmpty_iff]
  split
  · next h => simp [h]
  · next h => split <;> simp [h]

/-- The log level is checked where the default branch passes. -/
theorem checked_eq_invalid_iff :
    settings.checked = .error (.invalid "logging.level must not be empty") ↔
      Text.trim settings.project.defaultBranch.toList ≠ [] ∧
        Text.trim settings.logging.level.toList = [] := by
  rw [checked, ne_eq, ← List.isEmpty_iff, ← List.isEmpty_iff]
  split
  · next h => simp [h]
  · next h => split <;> simp_all

/-- Settings pass if neither is blank. -/
theorem checked_eq_ok_iff :
    settings.checked = .ok settings ↔
      Text.trim settings.project.defaultBranch.toList ≠ [] ∧
        Text.trim settings.logging.level.toList ≠ [] := by
  rw [checked, ne_eq, ne_eq, ← List.isEmpty_iff, ← List.isEmpty_iff]
  split
  · next h => simp [h]
  · next h => split <;> simp_all

/-- Loading in layers.  The file is the one at the path that is given or at the
first candidate that leads somewhere; where that is a directory, the file
called like it with `.toml` after its name.  Each setting is what the variable
of its name says, or else what the file says, or else its default, and the
protected refs are those of the file; the checks are made on these values, the
default branch first.  What other files hold is of no account. -/
theorem load_eq_layers (machine : Machine) (lookUp : Place → Option Entry)
    (environment : List Variable) (given : Option String)
    (henvironment : Variable.OnlySettings environment) :
    let loaded := load machine lookUp environment given
    (∀ (setting : Setting) (value : String),
      Variable.key? ⟨setting.variableLabel, value⟩ = some setting.path) ∧
    (∀ path, given = some path → lookUp (.path path) = none →
      loaded = .error (.notFound path)) ∧
    (∀ place, Place.Chosen lookUp given place → (∀ text, ¬ Place.Holds lookUp place text) →
      ∃ detail, loaded = .error (.malformed detail)) ∧
    (∀ file, Toml.PolicyEntries lookUp given file → Toml.Regular file →
      Toml.Convertible file environment →
      (∃ settings : Settings, settings.Layers file environment) ∧
      ∀ settings : Settings, settings.Layers file environment →
        let blankBranch := Text.trim settings.project.defaultBranch.toList = []
        let blankLevel := Text.trim settings.logging.level.toList = []
        (loaded = .error (.missing "project.default_branch") ↔ blankBranch) ∧
        (loaded = .error (.invalid "logging.level must not be empty") ↔
          ¬ blankBranch ∧ blankLevel) ∧
        (loaded = .ok settings ↔ ¬ blankBranch ∧ ¬ blankLevel)) ∧
    ∀ other : Place → Option Entry,
      (∀ place ∈ Place.named given, (other place).isSome = (lookUp place).isSome) →
      (∀ place, Place.Chosen lookUp given place →
        other place = lookUp place ∧
          (lookUp place = some .noFile →
            place.secondTry.bind other = place.secondTry.bind lookUp)) →
      load machine other environment given = loaded := by
  intro loaded
  refine ⟨Setting.key?_variableLabel, ?_, ?_, ?_, ?_⟩
  · rintro path rfl habsent
    simp only [loaded, load, policyText_of_absent habsent, Except.bind]
  · intro place hchosen hnone
    refine ⟨"the configuration is not a file", ?_⟩
    simp only [loaded, load, policyText_of_not_holds hchosen hnone, Except.bind]
  · intro file hfile hregular hconvertible
    refine ⟨exists_layers hconvertible, fun settings hlayers => ?_⟩
    have hloaded : loaded = settings.checked :=
      load_eq_checked machine hfile hregular henvironment hlayers
    rw [hloaded]
    exact ⟨checked_eq_missing_iff, checked_eq_invalid_iff, checked_eq_ok_iff⟩
  · intro other hsome hchosen
    simp only [loaded, load, policyText_congr hsome hchosen]

/-- A variable replaces a blank log level and leaves what the file says of log
lines beside it; a variable of something else leaves everything. -/
theorem load_variable_over_file :
    let text := "[logging]\nlevel=''\nformat='json'"
    let file : List (String × Toml.Value) :=
      [("logging", .table [("level", .string ""), ("format", .string "json")])]
    let lookUp (place : Place) : Option Entry :=
      if place = .path "refguard.toml" then some (.file text) else none
    let environment : List Variable :=
      [⟨"REFGUARD__LOGGING__LEVEL", "info"⟩, ⟨"HOME", "/root"⟩]
    Variable.OnlySettings environment ∧ Toml.PolicyEntries lookUp none file ∧
      Toml.Regular file ∧ Toml.Convertible file environment ∧
      load .standard lookUp environment none =
        .ok { logging := { level := "info", format := .json } } := by
  have hlines : Toml.readLines ("[logging]\nlevel=''\nformat='json'".toList.length + 1)
      ("[logging]\nlevel=''\nformat='json'".toList.length + 1)
      "[logging]\nlevel=''\nformat='json'".toList =
      some [.table ["logging"], .assignment ["level"] (.string ""),
        .assignment ["format"] (.string "json")] := by rfl
  have hentries : Toml.addLines [] [] [.table ["logging"], .assignment ["level"] (.string ""),
      .assignment ["format"] (.string "json")] =
      some [("logging", .table .header
        [("level", .closed (.string "")), ("format", .closed (.string "json"))])] := rfl
  intro text file lookUp environment
  have hparsed : Toml.parse? text = some file :=
    Toml.parse?_of_lines (by decide) hlines hentries
  have hlevel : Variable.key? ⟨"REFGUARD__LOGGING__LEVEL", "info"⟩ =
      some Setting.logLevel.path := by decide +kernel
  have hhome : Variable.key? ⟨"HOME", "/root"⟩ = none := by decide +kernel
  have henvironment : Variable.OnlySettings environment :=
    List.forall_mem_cons.mpr ⟨.inr ⟨_, hlevel⟩, List.forall_mem_singleton.mpr (.inl hhome)⟩
  have hchosen : Place.Chosen lookUp none (.path "refguard.toml") :=
    ⟨[], Place.candidates.tail, rfl, by simp, by simp [lookUp]⟩
  have hholds : Place.Holds lookUp (.path "refguard.toml") text := .file (by simp [lookUp])
  have hfile : Toml.PolicyEntries lookUp none file := .read hchosen hholds hparsed
  have hregular : Toml.Regular file := by
    refine ⟨List.forall_mem_singleton.mpr ⟨by decide, by decide⟩, fun setting value hvalue => ?_⟩
    cases setting <;> cases hvalue <;> exact ⟨_, rfl⟩
  have hinfo : Variable.tree ⟨"REFGUARD__LOGGING__LEVEL", "info"⟩ = .text "info" := rfl
  have hsurviving (setting : Setting) : setting.surviving file environment =
      if setting = .logLevel then some (.text "info")
      else if setting = .logFormat then some (.text "json")
      else none := by
    have hvalue : Variable.valueOf? environment setting =
        if setting = .logLevel then some (.text "info") else none := by
      rw [Variable.valueOf?_cons, Variable.valueOf?_cons, hlevel, hhome, hinfo]
      by_cases hsame : setting = .logLevel
      · rw [hsame]
        rfl
      · have hpaths : Setting.logLevel.path ≠ setting.path :=
          fun hpath => hsame (Setting.path_injective hpath).symm
        simp [Variable.valueOf?, hpaths, hsame]
    rw [Setting.surviving, hvalue]
    cases setting <;> rfl
  have hlayers : Layers { logging := { level := "info", format := .json } } file
      environment := by
    refine ⟨fun setting => ?_, rfl⟩
    rw [hsurviving]
    cases setting <;> rfl
  have hconvertible : Toml.Convertible file environment := by
    refine ⟨fun setting tree htree => ?_, fun value hvalue => by cases hvalue⟩
    rw [hsurviving] at htree
    cases setting <;> cases htree <;> rfl
  have hloaded := ((load_eq_layers .standard lookUp environment none henvironment).2.2.2.1 file
    hfile hregular hconvertible).2 _ hlayers
  exact ⟨henvironment, hfile, hregular, hconvertible,
    hloaded.2.2.mpr ⟨by decide +kernel, by decide +kernel⟩⟩

/-- A directory at the path that is given is not the only thing that counts:
what the file called like it holds decides. -/
theorem directory_gives_way :
    let lookUp (text : String) (place : Place) : Option Entry :=
      if place = .path "c" then some .noFile
      else if place = .path "c.toml" then some (.file text) else none
    (∀ text, (lookUp text (.path "c")).isSome = true) ∧
      (∀ place, place ≠ .path "c.toml" → lookUp "" place = lookUp "[" place) ∧
      load .standard (lookUp "") [] (some "c") = .ok {} ∧
      load .standard (lookUp "[") [] (some "c") =
        .error (.malformed "the text is not a TOML document") := by
  intro lookUp
  have hchosen (text : String) : Place.Chosen (lookUp text) (some "c") (.path "c") :=
    ⟨[], [], rfl, by simp, by simp [lookUp]⟩
  refine ⟨fun text => rfl, fun place hplace => ?_, ?_, ?_⟩
  · simp only [lookUp, if_neg hplace]
  · have hheld : Place.Holds (lookUp "") (.path "c") "" := .besideNoFile rfl rfl
    rw [load_eq_ofSources (hchosen "") hheld, ofSources, Tree.ofDocument, Toml.parse?_empty]
    rfl
  · have hparsed : Toml.parse? "[" = none := by
      unfold Toml.parse? Toml.read?
      rfl
    have hheld : Place.Holds (lookUp "[") (.path "c") "[" := .besideNoFile rfl rfl
    rw [load_eq_ofSources (hchosen "[") hheld, ofSources, Tree.ofDocument, hparsed]
    rfl

end Settings

end RefPolicy
