import RefPolicy.Proofs.DistinctKeys
import RefPolicy.Proofs.Orders
import RefPolicy.Settings.Load

/-!
# RefPolicy.Proofs.Overlay

Trees under writes.  A document whose keys are plain builds the table that its
text shows, nothing merged or lost, because no table of it says a key twice;
a write at `table.key` changes that entry and leaves its siblings.

* `get?_put` — a table after one write;
* `addSource_ofTomlEntries` — the tree of a document, on every machine;
* `nested?_writeAt` — one entry of a table of the tree after a write.
-/

namespace RefPolicy.Tree

/-! ## Tables -/

/-- A write is found under its key, and all else where it was. -/
theorem lookup_putEntry (key other : String) (value : Tree) (entries : List (String × Tree)) :
    (putEntry key value entries).lookup other =
      if other = key then some value else entries.lookup other := by
  induction entries with
  | nil => simp [putEntry, lookup_cons]
  | cons entry rest ih =>
      rw [putEntry]
      by_cases hentry : entry.1 = key
      · by_cases hother : other = key <;> simp [lookup_cons, hentry, hother]
      · by_cases hother : other = entry.1
        · simp [lookup_cons, hentry, hother]
        · simp [lookup_cons, hentry, hother, ih]

theorem get?_absent (key : String) : absent.get? key = none := rfl

/-- What a table with one more write holds. -/
theorem get?_put (tree value : Tree) (key other : String) :
    (tree.put key value).get? other = if other = key then some value else tree.get? other := by
  have hget : tree.get? other = tree.entries.lookup other := get?_table tree.entries other
  rw [put, get?_table, lookup_putEntry, hget]

/-- A key that is new comes last. -/
theorem putEntry_of_not_mem {key : String} {value : Tree} {entries : List (String × Tree)}
    (h : key ∉ entries.map Prod.fst) : putEntry key value entries = entries ++ [(key, value)] := by
  induction entries with
  | nil => rfl
  | cons entry rest ih =>
      rw [List.map_cons, List.mem_cons, not_or] at h
      have hkey : (entry.1 == key) = false := by simpa using fun hsame => h.1 hsame.symm
      rw [putEntry, hkey, if_neg Bool.false_ne_true, ih h.2]
      rfl

/-! ## Documents -/

/-- Entries become configuration one by one. -/
theorem ofTomlEntries_eq_map (entries : List (String × Toml.Value)) :
    ofTomlEntries entries = entries.map fun entry => (entry.1, ofToml entry.2) := by
  induction entries with
  | nil => rfl
  | cons entry rest ih => rw [ofTomlEntries, ih, List.map_cons]

/-- They keep their keys. -/
theorem map_fst_ofTomlEntries (entries : List (String × Toml.Value)) :
    (ofTomlEntries entries).map Prod.fst = entries.map Prod.fst := by
  rw [ofTomlEntries_eq_map, List.map_map]
  rfl

/-- They are found where the document has them. -/
theorem lookup_ofTomlEntries (entries : List (String × Toml.Value)) (key : String) :
    (ofTomlEntries entries).lookup key = (entries.lookup key).map ofToml := by
  induction entries with
  | nil => rfl
  | cons entry rest ih =>
      rw [ofTomlEntries, lookup_cons, lookup_cons, ih]
      by_cases hkey : key = entry.1 <;> simp [hkey]

/-- Entries under new keys are added to a table as they are, if they are not
themselves changed by being laid over nothing. -/
theorem overlayEntries_of_nodup (before : List (String × Tree)) {entries : List (String × Tree)}
    (hkeys : ((before ++ entries).map Prod.fst).Nodup)
    (hvalues : ∀ entry ∈ entries, overlay absent entry.2 = entry.2) :
    overlayEntries (table before) entries = table (before ++ entries) := by
  induction entries generalizing before with
  | nil => rw [overlayEntries, List.append_nil]
  | cons entry rest ih =>
      obtain ⟨key, value⟩ := entry
      rw [List.forall_mem_cons] at hvalues
      have hsplit : before ++ (key, value) :: rest = (before ++ [(key, value)]) ++ rest := by simp
      have hnew : key ∉ before.map Prod.fst := by
        rw [List.map_append, List.nodup_append] at hkeys
        intro hmem
        exact hkeys.2.2 key hmem key (by simp) rfl
      rw [overlayEntries, get?_table, lookup_eq_none_of_not_mem hnew, Option.getD_none, hvalues.1,
        put, Tree.entries, putEntry_of_not_mem hnew, ih _ (hsplit ▸ hkeys) hvalues.2, hsplit]

/-- A value whose keys are distinct is the same when it is laid over nothing. -/
theorem overlay_absent_ofToml {value : Toml.Value} (h : value.Distinct) :
    overlay absent (ofToml value) = ofToml value := by
  induction h with
  | @leaf value hleaf =>
      cases value with
      | array | table => exact hleaf.elim
      | _ => rfl
  | array _ _ => rfl
  | @table entries hkeys _ ih =>
      rw [ofToml, overlay]
      refine overlayEntries_of_nodup [] ?_ ?_
      · simpa [map_fst_ofTomlEntries] using hkeys
      · intro entry hentry
        rw [ofTomlEntries_eq_map] at hentry
        obtain ⟨old, hold, rfl⟩ := List.mem_map.mp hentry
        exact ih old hold

/-- Keys that speak of no path within a tree. -/
def PlainKey (key : String) : Prop := '.' ∉ key.toList ∧ '[' ∉ key.toList

/-- After a name, steps begin with a dot or a bracket. -/
theorem readSteps_of_plain {fuel : Nat} {chars : List Char} (hne : chars ≠ [])
    (hdot : '.' ∉ chars) (hbracket : '[' ∉ chars) : readSteps fuel chars = none := by
  unfold readSteps
  split
  · contradiction
  · rfl
  · simp at hdot
  · simp at hbracket
  · rfl

/-- A plain key speaks of its own entry. -/
theorem placeOf_of_plainKey {key : String} (h : PlainKey key) : placeOf key = [.key key] := by
  have hsplit : key.toList.takeWhile isNameChar ++ key.toList.dropWhile isNameChar = key.toList :=
    List.takeWhile_append_dropWhile
  have hdrop : key.toList.drop (key.toList.takeWhile isNameChar).length =
      key.toList.dropWhile isNameChar := by
    calc key.toList.drop (key.toList.takeWhile isNameChar).length
        = (key.toList.takeWhile isNameChar ++ key.toList.dropWhile isNameChar).drop
            (key.toList.takeWhile isNameChar).length := by rw [hsplit]
      _ = key.toList.dropWhile isNameChar := List.drop_left
  rw [placeOf, readPath?, readName, hdrop]
  by_cases hname : (key.toList.takeWhile isNameChar).isEmpty = true
  · rw [if_pos hname]
    rfl
  rw [if_neg hname, Option.bind_eq_bind, Option.bind_some]
  dsimp only
  by_cases hrest : key.toList.dropWhile isNameChar = []
  · rw [hrest, List.append_nil] at hsplit
    rw [hrest, hsplit, String.ofList_toList]
    rfl
  · have hmem : ∀ c ∈ key.toList.dropWhile isNameChar, c ∈ key.toList :=
      (List.dropWhile_suffix isNameChar).subset
    rw [readSteps_of_plain hrest (mt (hmem '.') h.1) (mt (hmem '[') h.2)]
    rfl

/-- Every key speaks of some entry, or of something in it. -/
theorem placeOf_eq_cons (key : String) : ∃ name path, placeOf key = .key name :: path := by
  unfold placeOf
  cases hpath : readPath? key.toList with
  | none => exact ⟨key, [], rfl⟩
  | some steps =>
      obtain ⟨⟨name, rest⟩, -, hsteps⟩ := Option.bind_eq_some_iff.mp hpath
      obtain ⟨path, -, hcons⟩ := Option.bind_eq_some_iff.mp hsteps
      exact ⟨name, path, (Option.some.inj hcons).symm⟩

/-! ## Sources -/

/-- There is always room for a path without indices. -/
theorem hasRoom_of_keys {room : Nat} {path : List Step}
    (h : ∀ step ∈ path, ∃ name, step = .key name) (tree : Tree) :
    hasRoom room path tree = true := by
  induction path generalizing tree with
  | nil => rfl
  | cons step path ih =>
      rw [List.forall_mem_cons] at h
      obtain ⟨name, rfl⟩ := h.1
      exact ih h.2 _

/-- There is always room for an entry with a plain key. -/
theorem writeEntry_of_plainKey {key : String} (h : PlainKey key) (room : Nat)
    (tree value : Tree) :
    writeEntry room tree (key, value) =
      some (tree.put key (overlay ((tree.get? key).getD absent) value)) := by
  rw [writeEntry, placeOf_of_plainKey h, if_pos (hasRoom_of_keys (by simp) tree)]
  rfl

/-- What is written, if there is room for it. -/
theorem eq_writeAt_of_writeEntry {room : Nat} {tree result : Tree} {entry : String × Tree}
    (h : writeEntry room tree entry = some result) :
    result = writeAt entry.2 (placeOf entry.1) tree := by
  unfold writeEntry at h
  split at h
  · exact (Option.some.inj h).symm
  · contradiction

@[simp] theorem addSource_nil (machine : Machine) (tree : Tree) :
    tree.addSource machine [] = some tree := by
  rw [addSource, Order.arrange_nil]
  rfl

/-- A source can be laid over a tree if there is room for it. -/
theorem withSource_eq_ok_iff {machine : Machine} {tree result : Tree}
    {source : List (String × Tree)} :
    tree.withSource machine source = .ok result ↔ tree.addSource machine source = some result := by
  rw [withSource]
  cases tree.addSource machine source <;> simp

/-- Sources are written into tables. -/
theorem exists_table_of_addSource {machine : Machine} {entries source : List (String × Tree)}
    {tree : Tree} (h : (table entries).addSource machine source = some tree) :
    ∃ entries', tree = table entries' := by
  rw [addSource] at h
  generalize machine.sources.arrange source = arranged at h
  induction arranged generalizing entries with
  | nil => exact ⟨entries, (Option.some.inj h).symm⟩
  | cons entry arranged ih =>
      rw [List.foldlM_cons] at h
      obtain ⟨next, hnext, h⟩ := Option.bind_eq_some_iff.mp h
      obtain ⟨name, path, hplace⟩ := placeOf_eq_cons entry.1
      rw [eq_writeAt_of_writeEntry hnext, hplace] at h
      exact ih h

/-- Written one by one at plain keys, entries are laid over the tree at once. -/
theorem foldlM_writeEntry_of_plain {room : Nat} {entries : List (String × Tree)}
    (hplain : ∀ entry ∈ entries, PlainKey entry.1) (tree : Tree) :
    entries.foldlM (writeEntry room) tree = some (overlayEntries tree entries) := by
  induction entries generalizing tree with
  | nil => rfl
  | cons entry rest ih =>
      rw [List.forall_mem_cons] at hplain
      obtain ⟨key, value⟩ := entry
      rw [List.foldlM_cons, writeEntry_of_plainKey hplain.1]
      exact ih hplain.2 _

/-- A document with plain keys and distinct ones builds the tree that it shows,
but for the order of its entries. -/
theorem addSource_ofTomlEntries (machine : Machine) {entries : List (String × Toml.Value)}
    (hplain : ∀ entry ∈ entries, PlainKey entry.1) (h : (Toml.Value.table entries).Distinct) :
    (table []).addSource machine (ofTomlEntries entries) =
      some (table (machine.sources.arrange (ofTomlEntries entries))) := by
  cases h with
  | leaf hleaf => exact hleaf.elim
  | table hkeys hinner =>
      have hmem : ∀ entry ∈ machine.sources.arrange (ofTomlEntries entries),
          ∃ old ∈ entries, entry = (old.1, ofToml old.2) := by
        intro entry hentry
        have hsource := machine.sources.mem_of_mem_arrange _ hentry
        rw [ofTomlEntries_eq_map] at hsource
        obtain ⟨old, hold, heq⟩ := List.mem_map.mp hsource
        exact ⟨old, hold, heq.symm⟩
      rw [addSource, foldlM_writeEntry_of_plain, overlayEntries_of_nodup []]
      · rfl
      · exact machine.sources.nodup_arrange _
      · intro entry hentry
        obtain ⟨old, hold, rfl⟩ := hmem entry hentry
        exact overlay_absent_ofToml (hinner old hold)
      · intro entry hentry
        obtain ⟨old, hold, rfl⟩ := hmem entry hentry
        exact hplain old hold

/-! ## Entries of tables of a tree -/

/-- The value under a key of a table that stands under a key. -/
def nested? (tree : Tree) (tableKey key : String) : Option Tree :=
  (tree.get? tableKey).bind fun inner => inner.get? key

/-- A write changes the entry that its path begins with and no other. -/
theorem get?_writeAt_key (tree value : Tree) (key other : String) (path : List Step) :
    (writeAt value (.key key :: path) tree).get? other =
      if other = key then some (writeAt value path ((tree.get? key).getD absent))
      else tree.get? other :=
  get?_put _ _ _ _

/-- A write to an entry leaves every other entry, its siblings included. -/
theorem nested?_writeAt {tree value : Tree} (hvalue : ∀ earlier, overlay earlier value = value)
    (tableKey key otherTable other : String) :
    (writeAt value [.key tableKey, .key key] tree).nested? otherTable other =
      if otherTable = tableKey ∧ other = key then some value
      else tree.nested? otherTable other := by
  rw [nested?, get?_writeAt_key]
  by_cases htable : otherTable = tableKey
  · subst htable
    rw [if_pos rfl, Option.bind_some, get?_writeAt_key, writeAt, hvalue]
    by_cases hkey : other = key
    · simp [hkey]
    · cases hget : tree.get? otherTable with
      | none => simp [hkey, nested?, hget, get?_absent]
      | some inner => simp [hkey, nested?, hget]
  · simp [htable, nested?]

end RefPolicy.Tree
