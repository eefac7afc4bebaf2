import Mathlib.Data.List.Nodup
import Mathlib.Data.List.Pairwise
import RefPolicy.Proofs.Orders
import RefPolicy.Tree.Section

/-!
# RefPolicy.Proofs.Sections

Reading a section, whatever the order of its entries.  Its layout keeps the
fields apart, so reading succeeds exactly if every field that is written can be
read, and leaves each field with what is written for it or else with its
default: the order does not show.  Where reading fails, the order does show,
for the first entry that cannot be read is the one that is met.

* `Layout.read_eq_ok_iff`, `Layout.convert_eq` — what is read, field by field;
* `Layout.reads_convert_iff` — a section that may be left out;
* `Layout.foldlM_takeUp_eq_error_iff`, `Layout.read_startingWith` — what is met
  where something cannot be read.
-/

namespace RefPolicy

/-- What is written converts to the value, and where nothing is written the
value is the default. -/
def Reads {α : Type} (convert : Tree → Option α) (default : α) : Option Tree → α → Prop
  | some tree, value => convert tree = some value
  | none, value => value = default

namespace Tree

/-! ## Results -/

section Results

variable {ε α β : Type} {result : Except ε α} {next : α → Except ε β} {error : ε}

/-- What is done in two steps succeeds if both of them do. -/
theorem bind_eq_ok_iff {value : β} :
    (result >>= next) = .ok value ↔ ∃ a, result = .ok a ∧ next a = .ok value := by
  cases result <;> simp [bind, Except.bind]

theorem exceptBind_eq_ok_iff {value : β} :
    result.bind next = .ok value ↔ ∃ a, result = .ok a ∧ next a = .ok value :=
  bind_eq_ok_iff

/-- What is done in two steps fails in the first of them or in the second. -/
theorem bind_eq_error_iff :
    (result >>= next) = .error error ↔
      result = .error error ∨ ∃ value, result = .ok value ∧ next value = .error error := by
  cases result <;> simp [bind, Except.bind]

theorem pure_eq_ok_iff {value other : α} :
    (pure value : Except ε α) = .ok other ↔ value = other := by
  simp [pure, Except.pure]

theorem pure_ne_error (value : α) : (pure value : Except ε α) ≠ .error error := by
  simp [pure, Except.pure]

/-- A result that is changed came of one that was not. -/
theorem map_eq_ok_iff {f : α → β} {value : β} :
    result.map f = .ok value ↔ ∃ a, result = .ok a ∧ f a = value := by
  cases result <;> simp [Except.map]

/-- Changing a result leaves errors alone. -/
theorem map_eq_error_iff {f : α → β} : result.map f = .error error ↔ result = .error error := by
  cases result <;> simp [Except.map]

/-- An option forgets why there is no result. -/
theorem toOption_eq_some_iff {value : α} : result.toOption = some value ↔ result = .ok value := by
  cases result <;> simp [Except.toOption]

end Results

section Stops

variable {α : Type}

/-- One of the items stops the reading, and all before it pass. -/
def StopsIn (passes stops : α → Prop) (items : List α) : Prop :=
  ∃ before item after, items = before ++ item :: after ∧
    (∀ other ∈ before, passes other) ∧ stops item

@[simp] theorem not_stopsIn_nil {passes stops : α → Prop} : ¬ StopsIn passes stops [] := by
  rintro ⟨before, item, after, heq, -⟩
  cases before <;> cases heq

/-- The first item stops the reading, or it passes and a later one does. -/
theorem stopsIn_cons {passes stops : α → Prop} {item : α} {items : List α} :
    StopsIn passes stops (item :: items) ↔
      stops item ∨ passes item ∧ StopsIn passes stops items := by
  constructor
  · rintro ⟨before, stop, after, heq, hbefore, hstop⟩
    cases before with
    | nil =>
        obtain ⟨rfl, -⟩ := List.cons.inj heq
        exact .inl hstop
    | cons first before =>
        obtain ⟨rfl, rfl⟩ := List.cons.inj heq
        rw [List.forall_mem_cons] at hbefore
        exact .inr ⟨hbefore.1, before, stop, after, rfl, hbefore.2, hstop⟩
  · rintro (hstop | ⟨hpass, before, stop, after, rfl, hbefore, hstop⟩)
    · exact ⟨[], item, items, rfl, by simp, hstop⟩
    · exact ⟨item :: before, stop, after, rfl, List.forall_mem_cons.mpr ⟨hpass, hbefore⟩, hstop⟩

/-- What stops the reading is one of the items. -/
theorem StopsIn.exists_mem {passes stops : α → Prop} {items : List α}
    (h : StopsIn passes stops items) : ∃ item ∈ items, stops item := by
  obtain ⟨before, item, after, rfl, -, hstop⟩ := h
  exact ⟨item, by simp, hstop⟩

/-- A list is read up to the first item that cannot be. -/
theorem mapM_eq_error_iff {β : Type} {read : α → Except Defect β} {items : List α}
    {defect : Defect} :
    items.mapM read = .error defect ↔
      StopsIn (fun item => ∃ value, read item = .ok value) (fun item => read item = .error defect)
        items := by
  induction items with
  | nil => simp [pure, Except.pure]
  | cons item items ih =>
      rw [List.mapM_cons, stopsIn_cons, ← ih]
      simp only [bind_eq_error_iff, pure_ne_error, and_false, exists_false, or_false,
        exists_and_right]

/-- Whether a list can be read depends on whether its items can. -/
theorem toOption_mapM {β : Type} (read : α → Except Defect β) (items : List α) :
    (items.mapM read).toOption = items.mapM fun item => (read item).toOption := by
  induction items with
  | nil => rfl
  | cons item items ih =>
      rw [List.mapM_cons, List.mapM_cons, ← ih]
      cases read item with
      | error _ => rfl
      | ok _ => cases items.mapM read <;> rfl

end Stops

/-! ## Conversions -/

/-- A leaf can be read if it converts. -/
theorem leaf_eq_ok_iff {α : Type} {convert : Tree → Option α} {tree : Tree} {value : α} :
    leaf convert tree = .ok value ↔ convert tree = some value := by
  unfold leaf
  cases convert tree <;> simp

/-- A leaf that does not convert is a mismatch. -/
theorem leaf_ne_bareGrant {α : Type} (convert : Tree → Option α) (tree : Tree) :
    leaf convert tree ≠ .error .bareGrant := by
  unfold leaf
  cases convert tree <;> simp

/-- Whether a list can be read, item by item. -/
theorem toOption_listOf {α : Type} (read : Tree → Except Defect α) (tree : Tree) :
    (listOf read tree).toOption =
      match tree with
      | list items => items.mapM fun item => (read item).toOption
      | _ => none := by
  cases tree with
  | list items => exact toOption_mapM read items
  | _ => rfl

/-- What reading a field gives, with nothing said about why it fails. -/
def Field.convert {σ : Type} (field : Field σ) (tree : Tree) : Option field.Value :=
  (field.read tree).toOption

/-- Reading a leaf is converting it. -/
theorem reads_leaf_iff {σ α : Type} {key : String} {convert : Tree → Option α} {get : σ → α}
    {set : α → σ → σ} {hget : ∀ value whole, get (set value whole) = value}
    {default value : (Field.of key (leaf convert) get set hget).Value} {part : Option Tree} :
    Reads (Field.of key (leaf convert) get set hget).convert default part value ↔
      @Reads α convert default part value := by
  cases part with
  | none => exact Iff.rfl
  | some tree => exact toOption_eq_some_iff.trans leaf_eq_ok_iff

/-! ## Fields -/

instance {σ : Type} : Std.Symm (@Field.Apart σ) := ⟨fun _ _ h => h.symm⟩

namespace Layout

variable {σ : Type} {layout : Layout σ}

section Fields

variable {field other : Field σ} (hfield : field ∈ layout.fields)

include hfield

/-- Fields are known by their keys. -/
theorem eq_of_key_eq (hother : other ∈ layout.fields) (hkey : field.key = other.key) :
    field = other :=
  List.inj_on_of_nodup_map layout.nodup_keys hfield hother hkey

/-- Setting a field leaves all others. -/
theorem get_set_of_ne (hother : other ∈ layout.fields) (hne : field ≠ other)
    (value : field.Value) (whole : σ) : other.get (field.set value whole) = other.get whole :=
  (layout.apart.forall hfield hother hne).1 value whole

/-- A field is found by its key. -/
theorem find?_eq_some :
    (layout.fields.find? fun other => other.key == field.key) = some field := by
  cases hfind : layout.fields.find? fun other => other.key == field.key with
  | none =>
      have hnone := List.find?_eq_none.mp hfind field hfield
      simp at hnone
  | some other =>
      have hkey : other.key = field.key := by simpa using List.find?_some hfind
      rw [eq_of_key_eq (List.mem_of_find?_eq_some hfind) hfield hkey]

end Fields

/-! ## Entries taken up -/

/-- An entry can be taken up: it is no field, or it can be read. -/
def Passes (layout : Layout σ) (entry : String × Tree) : Prop :=
  ∀ field ∈ layout.fields, field.key = entry.1 → ∃ value, field.read entry.2 = .ok value

/-- An entry is a field that cannot be read, for a reason. -/
def Fails (layout : Layout σ) (defect : Defect) (entry : String × Tree) : Prop :=
  ∃ field ∈ layout.fields, field.key = entry.1 ∧ field.read entry.2 = .error defect

section Entries

variable {entry : String × Tree} {whole : σ} {defect : Defect}

/-- An entry that is no field is passed over. -/
theorem takeUp_of_no_field (h : ∀ field ∈ layout.fields, field.key ≠ entry.1) :
    layout.takeUp whole entry = .ok whole := by
  have hnone : (layout.fields.find? fun field => field.key == entry.1) = none := by
    simpa [List.find?_eq_none] using h
  rw [takeUp, hnone]

/-- An entry that is a field sets it to what is read. -/
theorem takeUp_of_field {field : Field σ} (hfield : field ∈ layout.fields)
    (hkey : field.key = entry.1) :
    layout.takeUp whole entry =
      (field.read entry.2).map fun value => field.set value whole := by
  rw [takeUp, ← hkey, find?_eq_some hfield]

/-- Whether an entry can be taken up does not depend on what has been. -/
theorem exists_takeUp_eq_ok_iff :
    (∃ next, layout.takeUp whole entry = .ok next) ↔ layout.Passes entry := by
  by_cases hkey : ∃ field ∈ layout.fields, field.key = entry.1
  · obtain ⟨field, hfield, hkey⟩ := hkey
    rw [takeUp_of_field hfield hkey, Passes]
    simp only [map_eq_ok_iff]
    constructor
    · rintro ⟨_, value, hvalue, -⟩ other hother hsame
      rw [eq_of_key_eq hother hfield (hsame.trans hkey.symm)]
      exact ⟨value, hvalue⟩
    · intro h
      obtain ⟨value, hvalue⟩ := h field hfield hkey
      exact ⟨_, value, hvalue, rfl⟩
  · push Not at hkey
    rw [takeUp_of_no_field hkey]
    exact ⟨fun _ field hfield hsame => absurd hsame (hkey field hfield), fun _ => ⟨whole, rfl⟩⟩

/-- Nor does the reason why not. -/
theorem takeUp_eq_error_iff :
    layout.takeUp whole entry = .error defect ↔ layout.Fails defect entry := by
  by_cases hkey : ∃ field ∈ layout.fields, field.key = entry.1
  · obtain ⟨field, hfield, hkey⟩ := hkey
    rw [takeUp_of_field hfield hkey, Fails, map_eq_error_iff]
    constructor
    · exact fun h => ⟨field, hfield, hkey, h⟩
    · rintro ⟨other, hother, hsame, h⟩
      rwa [eq_of_key_eq hother hfield (hsame.trans hkey.symm)] at h
  · push Not at hkey
    rw [takeUp_of_no_field hkey]
    constructor
    · exact fun h => absurd h (by simp)
    · rintro ⟨field, hfield, hsame, -⟩
      exact absurd hsame (hkey field hfield)

/-- Entries are taken up until one fails: only which of them comes first counts. -/
theorem foldlM_takeUp_eq_error_iff (entries : List (String × Tree)) (start : σ) :
    entries.foldlM layout.takeUp start = .error defect ↔
      StopsIn layout.Passes (layout.Fails defect) entries := by
  induction entries generalizing start with
  | nil => simp [pure, Except.pure]
  | cons entry entries ih =>
      rw [List.foldlM_cons, bind_eq_error_iff, takeUp_eq_error_iff, stopsIn_cons]
      simp only [ih, exists_and_right, exists_takeUp_eq_ok_iff]

/-- The step of `foldlM_takeUp_eq_ok_iff`: an entry that has been read counts
for its own field, which no later entry speaks of, and for no other. -/
theorem reads_set_iff {field other : Field σ} {entries : List (String × Tree)} {value : σ}
    {read : field.Value} (hfield : field ∈ layout.fields) (hother : other ∈ layout.fields)
    (hkey : field.key = entry.1) (hlater : entry.1 ∉ entries.map Prod.fst)
    (hread : field.read entry.2 = .ok read) :
    Reads other.convert (other.get (field.set read whole)) (entries.lookup other.key)
        (other.get value) ↔
      Reads other.convert (other.get whole) ((entry :: entries).lookup other.key)
        (other.get value) := by
  by_cases hsame : field = other
  · subst hsame
    rw [hkey, lookup_eq_none_of_not_mem hlater, lookup_cons, if_pos rfl, Reads, Reads,
      field.get_set, Field.convert, hread]
    exact ⟨fun h => congrArg some h.symm, fun h => (Option.some.inj h).symm⟩
  · have hne : other.key ≠ entry.1 := fun hsameKey =>
      hsame (eq_of_key_eq hfield hother (hkey.trans hsameKey.symm))
    rw [lookup_cons, if_neg hne, get_set_of_ne hfield hother hsame]

/-- Entries that are all taken up leave each field with what is written for it. -/
theorem foldlM_takeUp_eq_ok_iff {entries : List (String × Tree)}
    (hkeys : (entries.map Prod.fst).Nodup) {start value : σ} :
    entries.foldlM layout.takeUp start = .ok value ↔
      ∀ field ∈ layout.fields,
        Reads field.convert (field.get start) (entries.lookup field.key) (field.get value) := by
  induction entries generalizing start with
  | nil =>
      rw [List.foldlM_nil, pure_eq_ok_iff]
      constructor
      · rintro rfl field -
        exact rfl
      · intro h
        exact layout.ext _ _ fun field hfield => (h field hfield).symm
  | cons entry entries ih =>
      rw [List.map_cons, List.nodup_cons] at hkeys
      rw [List.foldlM_cons, bind_eq_ok_iff]
      by_cases hkey : ∃ field ∈ layout.fields, field.key = entry.1
      · obtain ⟨field, hfield, hkey⟩ := hkey
        rw [takeUp_of_field hfield hkey]
        simp only [map_eq_ok_iff, ih hkeys.2]
        constructor
        · rintro ⟨_, ⟨read, hread, rfl⟩, h⟩ other hother
          exact (reads_set_iff hfield hother hkey hkeys.1 hread).mp (h other hother)
        · intro h
          have hread := h field hfield
          rw [lookup_cons, if_pos hkey, Reads, Field.convert, toOption_eq_some_iff] at hread
          exact ⟨_, ⟨_, hread, rfl⟩, fun other hother =>
            (reads_set_iff hfield hother hkey hkeys.1 hread).mpr (h other hother)⟩
      · push Not at hkey
        rw [takeUp_of_no_field hkey]
        simp only [Except.ok.injEq, exists_eq_left', ih hkeys.2]
        exact forall₂_congr fun field hfield => by rw [lookup_cons, if_neg (hkey field hfield)]

end Entries

end Layout

/-! ## Sections -/

/-- What stands under a key of a section: an entry of a table, or the item of a
list at the place of the field with that key. -/
def part? (keys : List String) : Tree → String → Option Tree
  | table entries, key => (table entries).get? key
  | list items, key => (keys.zip items).lookup key
  | _, _ => none

/-- Sections are written as tables or as lists. -/
inductive IsSection : Tree → Prop
  | table (entries : List (String × Tree)) : IsSection (table entries)
  | list (items : List Tree) : IsSection (list items)

/-- A list gives the first of its fields, in their order. -/
theorem map_fst_zip_sublist {α : Type} (keys : List String) (items : List α) :
    ((keys.zip items).map Prod.fst).Sublist keys := by
  induction keys generalizing items with
  | nil => simp
  | cons key keys ih =>
      cases items with
      | nil => simp
      | cons item items => simpa using ih items

namespace Layout

variable {σ : Type} {layout : Layout σ} {tables : Order} {tree : Tree} {value : σ}

/-- A section is read field by field, whatever the order of its entries. -/
theorem read_eq_ok_iff :
    layout.read tables tree = .ok value ↔
      tree.IsSection ∧ ∀ field ∈ layout.fields,
        Reads field.convert (field.get layout.default) (tree.part? layout.keys field.key)
          (field.get value) := by
  cases tree with
  | table entries =>
      rw [read, foldlM_takeUp_eq_ok_iff (tables.nodup_arrange entries)]
      simp only [Order.lookup_arrange, part?, get?_table, IsSection.table, true_and]
  | list items =>
      have hkeys := layout.nodup_keys.sublist (map_fst_zip_sublist layout.keys items)
      rw [read, foldlM_takeUp_eq_ok_iff hkeys]
      simp only [part?, IsSection.list, true_and]
  | _ =>
      constructor
      · intro h
        cases h
      · rintro ⟨⟨⟩, -⟩

/-- A section that is written as a table. -/
theorem read_table_eq_ok_iff {entries : List (String × Tree)} :
    layout.read tables (table entries) = .ok value ↔
      ∀ field ∈ layout.fields,
        Reads field.convert (field.get layout.default) ((table entries).get? field.key)
          (field.get value) := by
  rw [read_eq_ok_iff, and_iff_right (.table entries)]
  rfl

/-- What reading a section gives, with nothing said about why it fails. -/
def convert (layout : Layout σ) (tables : Order) (tree : Tree) : Option σ :=
  (layout.read tables tree).toOption

/-- A section converts if it can be read. -/
theorem convert_eq_some_iff :
    layout.convert tables tree = some value ↔ layout.read tables tree = .ok value :=
  toOption_eq_some_iff

/-- Where a section can be read, the order of its entries does not show. -/
theorem convert_eq (layout : Layout σ) (tables other : Order) :
    layout.convert tables = layout.convert other := by
  funext tree
  ext value
  rw [convert_eq_some_iff, convert_eq_some_iff, read_eq_ok_iff, read_eq_ok_iff]

/-- A section that may be left out, but is a table if it is there. -/
theorem reads_convert_iff {part : Option Tree}
    (hpart : ∀ tree ∈ part, ∃ entries, tree = table entries) :
    Reads (layout.convert tables) layout.default part value ↔
      ∀ field ∈ layout.fields,
        Reads field.convert (field.get layout.default)
          (part.bind fun tree => tree.get? field.key) (field.get value) := by
  cases part with
  | none =>
      simp only [Reads, Option.bind_none]
      constructor
      · rintro rfl field -
        rfl
      · exact fun h => layout.ext _ _ h
  | some tree =>
      obtain ⟨entries, rfl⟩ := hpart tree rfl
      rw [Reads, convert_eq_some_iff, read_table_eq_ok_iff]
      rfl

/-- Whatever is met where a table cannot be read, some field that is written in
it cannot be read for that reason. -/
theorem exists_of_read_table_eq_error {entries : List (String × Tree)} {defect : Defect}
    (h : layout.read tables (table entries) = .error defect) :
    ∃ field ∈ layout.fields, ∃ part, (table entries).get? field.key = some part ∧
      field.read part = .error defect := by
  rw [read, foldlM_takeUp_eq_error_iff] at h
  obtain ⟨⟨key, part⟩, hmem, field, hfield, rfl, hread⟩ := h.exists_mem
  refine ⟨field, hfield, part, ?_, hread⟩
  rw [get?_table, ← tables.lookup_arrange, lookup_eq_some_iff (tables.nodup_arrange entries)]
  exact hmem

/-- A section whose fields hold no grants never stops the reading. -/
theorem read_ne_bareGrant
    (h : ∀ field ∈ layout.fields, ∀ part, field.read part ≠ .error .bareGrant) :
    layout.read tables tree ≠ .error .bareGrant := by
  have hfold (entries : List (String × Tree)) :
      entries.foldlM layout.takeUp layout.default ≠ .error .bareGrant := by
    rw [ne_eq, foldlM_takeUp_eq_error_iff]
    intro hstops
    obtain ⟨entry, -, field, hfield, -, hread⟩ := hstops.exists_mem
    exact h field hfield entry.2 hread
  cases tree with
  | table entries => exact hfold _
  | list items => exact hfold _
  | _ =>
      intro h
      cases h

end Layout

end Tree

end RefPolicy
