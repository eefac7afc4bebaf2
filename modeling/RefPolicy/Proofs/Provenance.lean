import RefPolicy.Proofs.Overlay

/-!
# RefPolicy.Proofs.Provenance

Where the plain values of a tree come from.  Sources are merged table by table
and written along paths through tables and lists; whatever is replaced on the
way, a plain value never comes to stand under a key that no source gave it.

* `Tree.Holds`, `Toml.Says` — a value under a key, anywhere in a tree or a document;
* `Tree.holds_of_overlay`, `Tree.holds_of_writeAt`, `Tree.holds_of_addSource` — merging
  and writing bring no entries of their own;
* `Toml.exists_says_of_holds` — from the tree of a document back to its text.
-/

namespace RefPolicy

namespace Tree

/-- A value that is neither a table nor a list nor missing. -/
inductive IsPlain : Tree → Prop
  | flag (value : Bool) : IsPlain (flag value)
  | whole (value : Int) : IsPlain (whole value)
  | real (value : Binary64) : IsPlain (real value)
  | text (value : String) : IsPlain (text value)

/-- A value stands under a key, in a table anywhere in the tree. -/
inductive Holds (key : String) (value : Tree) : Tree → Prop
  | here {entries : List (String × Tree)} (hmem : (key, value) ∈ entries) :
      Holds key value (table entries)
  | entry {entries : List (String × Tree)} {other : String} {part : Tree}
      (hmem : (other, part) ∈ entries) (h : Holds key value part) : Holds key value (table entries)
  | item {items : List Tree} {part : Tree} (hmem : part ∈ items) (h : Holds key value part) :
      Holds key value (list items)

variable {key name : String} {leaf tree value part : Tree}

theorem not_holds_absent : ¬ Holds key leaf absent := by
  rintro ⟨⟩

theorem not_holds_table_nil : ¬ Holds key leaf (table []) := by
  intro h
  cases h with
  | here hmem => cases hmem
  | entry hmem _ => cases hmem

/-- A tree holds its own entries. -/
theorem Holds.of_mem_entries (hmem : (key, leaf) ∈ tree.entries) : Holds key leaf tree := by
  cases tree with
  | table entries => exact .here hmem
  | _ => cases hmem

/-- It holds what its entries hold. -/
theorem Holds.of_entry (hmem : (name, part) ∈ tree.entries) (h : Holds key leaf part) :
    Holds key leaf tree := by
  cases tree with
  | table entries => exact .entry hmem h
  | _ => cases hmem

/-- It holds what its items hold. -/
theorem Holds.of_item (hmem : part ∈ tree.items) (h : Holds key leaf part) :
    Holds key leaf tree := by
  cases tree with
  | list items => exact .item hmem h
  | _ => cases hmem

/-! ## Tables and lists under writes -/

/-- A write to a table adds its own entry and no other. -/
theorem mem_putEntry {entries : List (String × Tree)} {entry : String × Tree}
    (h : entry ∈ putEntry name value entries) : entry = (name, value) ∨ entry ∈ entries := by
  induction entries with
  | nil => exact .inl (List.mem_singleton.mp h)
  | cons first rest ih =>
      rw [putEntry] at h
      split at h
      · exact (List.mem_cons.mp h).imp_right fun hmem => List.mem_cons_of_mem _ hmem
      · rcases List.mem_cons.mp h with rfl | hmem
        · exact .inr List.mem_cons_self
        · exact (ih hmem).imp_right fun hmem => List.mem_cons_of_mem _ hmem

/-- What is found under a key is an entry. -/
theorem mem_entries_of_get? (h : tree.get? name = some value) : (name, value) ∈ tree.entries := by
  obtain ⟨⟨found, value⟩, hfind, rfl⟩ := Option.map_eq_some_iff.mp h
  have hname : found = name := by simpa using List.find?_some hfind
  exact hname ▸ List.mem_of_find?_eq_some hfind

/-- What is held by the part under a key is held by the whole. -/
theorem Holds.of_get? (h : Holds key leaf ((tree.get? name).getD absent)) :
    Holds key leaf tree := by
  cases hget : tree.get? name with
  | none =>
      rw [hget] at h
      exact absurd h not_holds_absent
  | some part =>
      rw [hget] at h
      exact .of_entry (mem_entries_of_get? hget) h

/-- A write under a key brings that entry and what the value holds. -/
theorem holds_of_put (h : Holds key leaf (tree.put name value)) :
    Holds key leaf tree ∨ (name = key ∧ value = leaf) ∨ Holds key leaf value := by
  cases h with
  | here hmem =>
      rcases mem_putEntry hmem with heq | hmem
      · cases heq
        exact .inr (.inl ⟨rfl, rfl⟩)
      · exact .inl (.of_mem_entries hmem)
  | entry hmem hpart =>
      rcases mem_putEntry hmem with heq | hmem
      · cases heq
        exact .inr (.inr hpart)
      · exact .inl (.of_entry hmem hpart)

/-- A changed list has its old items, and changed ones. -/
theorem mem_modify {α : Type} {change : α → α} {items : List α} {i : Nat} {item : α}
    (h : item ∈ items.modify i change) : item ∈ items ∨ ∃ old ∈ items, item = change old := by
  obtain ⟨j, hj⟩ := List.mem_iff_getElem?.mp h
  rw [List.getElem?_modify, Option.map_eq_map, Option.map_eq_some_iff] at hj
  obtain ⟨old, hold, rfl⟩ := hj
  have hmem : old ∈ items := List.mem_of_getElem? hold
  split
  · exact .inr ⟨old, hmem, rfl⟩
  · exact .inl hmem

/-- A change to an item brings what the changed item holds; the places that are
filled up hold nothing. -/
theorem holds_of_changeItem {index : Int} {change : Tree → Tree}
    (h : Holds key leaf (tree.changeItem index change)) :
    Holds key leaf tree ∨
      ∃ old, (old = absent ∨ old ∈ tree.items) ∧ Holds key leaf (change old) := by
  have hmodify {items : List Tree} {i : Nat}
      (hitems : ∀ old ∈ items, old = absent ∨ old ∈ tree.items)
      (h : Holds key leaf (list (items.modify i change))) : Holds key leaf tree ∨
        ∃ old, (old = absent ∨ old ∈ tree.items) ∧ Holds key leaf (change old) := by
    obtain _ | _ | ⟨hmem, hpart⟩ := h
    rcases mem_modify hmem with hmem | ⟨old, hold, rfl⟩
    · rcases hitems _ hmem with rfl | hmem
      · exact absurd hpart not_holds_absent
      · exact .inl (.of_item hmem hpart)
    · exact .inr ⟨old, hitems old hold, hpart⟩
  unfold changeItem at h
  dsimp only at h
  -- Filled up behind where the position is past the end, in front where it is
  -- before the beginning.
  split at h
  · refine hmodify (fun old hold => ?_) h
    exact (List.mem_append.mp hold).symm.imp_left List.eq_of_mem_replicate
  · refine hmodify (fun old hold => ?_) h
    exact (List.mem_append.mp hold).imp_left List.eq_of_mem_replicate

/-! ## Merging -/

/-- A table with entries laid over it is a table. -/
theorem exists_table_overlayEntries (earlier entries : List (String × Tree)) :
    ∃ merged, overlayEntries (table earlier) entries = table merged := by
  induction entries generalizing earlier with
  | nil => exact ⟨earlier, rfl⟩
  | cons entry rest ih =>
      obtain ⟨name, value⟩ := entry
      rw [overlayEntries]
      exact ih _

/-- What is plain after merging was the later value. -/
theorem eq_of_overlay_eq_plain {earlier : Tree} (hleaf : leaf.IsPlain)
    (h : overlay earlier value = leaf) : value = leaf := by
  cases value with
  | table entries =>
      rw [overlay] at h
      obtain ⟨merged, hmerged⟩ := exists_table_overlayEntries earlier.entries entries
      rw [hmerged] at h
      subst h
      cases hleaf
  | _ => exact h

mutual

/-- Merging brings no entries of its own. -/
theorem holds_of_overlay (hleaf : leaf.IsPlain) (earlier : Tree) :
    (value : Tree) → Holds key leaf (overlay earlier value) →
      Holds key leaf earlier ∨ Holds key leaf value
  | table entries, h => by
      rw [overlay] at h
      rcases holds_of_overlayEntries hleaf _ entries h with h | h
      · cases earlier with
        | table _ => exact .inl h
        | _ => exact absurd h not_holds_table_nil
      · exact .inr h
  | absent, h | flag _, h | whole _, h | real _, h | text _, h | list _, h => .inr h

/-- Entries laid over a tree bring only what they hold. -/
theorem holds_of_overlayEntries (hleaf : leaf.IsPlain) (target : Tree) :
    (entries : List (String × Tree)) → Holds key leaf (overlayEntries target entries) →
      Holds key leaf target ∨ Holds key leaf (table entries)
  | [], h => .inl h
  | (name, value) :: rest, h => by
      rw [overlayEntries] at h
      rcases holds_of_overlayEntries hleaf _ rest h with h | h
      · rcases holds_of_put h with h | ⟨rfl, heq⟩ | h
        · exact .inl h
        · -- Only a table changes when it is laid over something, and the value is none.
          cases eq_of_overlay_eq_plain hleaf heq
          exact .inr (.here List.mem_cons_self)
        · rcases holds_of_overlay hleaf _ value h with h | h
          · exact .inl (.of_get? h)
          · exact .inr (.entry List.mem_cons_self h)
      · cases h with
        | here hmem => exact .inr (.here (List.mem_cons_of_mem _ hmem))
        | entry hmem h => exact .inr (.entry (List.mem_cons_of_mem _ hmem) h)

end

/-! ## Writing along paths -/

/-- What is plain after a write was written there itself. -/
theorem eq_nil_of_writeAt_eq_plain {path : List Step} (hleaf : leaf.IsPlain)
    (h : writeAt value path tree = leaf) : path = [] ∧ value = leaf := by
  cases path with
  | nil => exact ⟨rfl, eq_of_overlay_eq_plain hleaf h⟩
  | cons step path =>
      subst h
      cases step with
      | key name => rw [writeAt, put] at hleaf; cases hleaf
      | index position =>
          rw [writeAt, changeItem] at hleaf
          dsimp only at hleaf
          split at hleaf <;> cases hleaf

/-- A write brings what the value holds, and the value itself under the last
key of the path. -/
theorem holds_of_writeAt (hleaf : leaf.IsPlain) {path : List Step}
    (h : Holds key leaf (writeAt value path tree)) :
    Holds key leaf tree ∨ Holds key leaf value ∨
      path.getLast? = some (.key key) ∧ value = leaf := by
  induction path generalizing tree with
  | nil =>
      rcases holds_of_overlay hleaf tree value h with h | h
      · exact .inl h
      · exact .inr (.inl h)
  | cons step path ih =>
      have hlast : path.getLast? = some (.key key) →
          (step :: path).getLast? = some (.key key) := by
        intro hlast
        rw [List.getLast?_cons, hlast]
        rfl
      cases step with
      | key name =>
          rcases holds_of_put h with h | ⟨rfl, heq⟩ | h
          · exact .inl h
          · -- The entry that is written here is plain, so the path ends at this key.
            obtain ⟨rfl, rfl⟩ := eq_nil_of_writeAt_eq_plain hleaf heq
            exact .inr (.inr ⟨rfl, rfl⟩)
          · rcases ih h with h | h | ⟨hpath, heq⟩
            · exact .inl (.of_get? h)
            · exact .inr (.inl h)
            · exact .inr (.inr ⟨hlast hpath, heq⟩)
      | index position =>
          rcases holds_of_changeItem h with h | ⟨old, hold, h⟩
          · exact .inl h
          · rcases ih h with h | h | ⟨hpath, heq⟩
            · rcases hold with rfl | hmem
              · exact absurd h not_holds_absent
              · exact .inl (.of_item hmem h)
            · exact .inr (.inl h)
            · exact .inr (.inr ⟨hlast hpath, heq⟩)

/-- An entry of a source gives a value for a key: the key is the last of the
path that the entry is written at, or the value stands somewhere in the entry. -/
def Gives (key : String) (leaf : Tree) (entry : String × Tree) : Prop :=
  Holds key leaf entry.2 ∨ (placeOf entry.1).getLast? = some (.key key) ∧ entry.2 = leaf

/-- Whatever the order of the writes, they bring only what the source gives. -/
theorem holds_of_addSource (hleaf : leaf.IsPlain) {machine : Machine}
    {source : List (String × Tree)} {result : Tree}
    (hresult : tree.addSource machine source = some result) (h : Holds key leaf result) :
    Holds key leaf tree ∨ ∃ entry ∈ source, Gives key leaf entry := by
  rw [addSource] at hresult
  suffices hwritten : Holds key leaf tree ∨
      ∃ entry ∈ machine.sources.arrange source, Gives key leaf entry by
    rcases hwritten with h | ⟨entry, hmem, hgives⟩
    · exact .inl h
    · exact .inr ⟨entry, machine.sources.mem_of_mem_arrange source hmem, hgives⟩
  generalize machine.sources.arrange source = arranged at hresult
  induction arranged generalizing tree with
  | nil =>
      rw [← Option.some.inj hresult] at h
      exact .inl h
  | cons entry arranged ih =>
      rw [List.foldlM_cons] at hresult
      obtain ⟨next, hnext, hresult⟩ := Option.bind_eq_some_iff.mp hresult
      rcases ih hresult with h | ⟨other, hmem, hgives⟩
      · rw [eq_writeAt_of_writeEntry hnext] at h
        exact (holds_of_writeAt hleaf h).imp_right fun hgives =>
          ⟨entry, List.mem_cons_self, hgives⟩
      · exact .inr ⟨other, List.mem_cons_of_mem _ hmem, hgives⟩

end Tree

/-! ## Documents -/

namespace Toml

/-- A value stands under a key, in a table anywhere in another value. -/
inductive Value.Holds (key : String) (who : Value) : Value → Prop
  | here {entries : List (String × Value)} (hmem : (key, who) ∈ entries) :
      Holds key who (.table entries)
  | entry {entries : List (String × Value)} {other : String} {part : Value}
      (hmem : (other, part) ∈ entries) (h : Holds key who part) : Holds key who (.table entries)
  | item {items : List Value} {part : Value} (hmem : part ∈ items) (h : Holds key who part) :
      Holds key who (.array items)

/-- A document says a value for a key: in a table anywhere, or as a top-level
entry whose key is the path to it. -/
def Says (document : List (String × Value)) (key : String) (who : Value) : Prop :=
  ∃ entry ∈ document, Value.Holds key who entry.2 ∨
    (Tree.placeOf entry.1).getLast? = some (.key key) ∧ entry.2 = who

/-- Each entry of the tree comes from one of the document. -/
theorem exists_mem_of_mem_ofTomlEntries {entries : List (String × Value)} {entry : String × Tree}
    (h : entry ∈ Tree.ofTomlEntries entries) :
    ∃ value, (entry.1, value) ∈ entries ∧ Tree.ofToml value = entry.2 := by
  rw [Tree.ofTomlEntries_eq_map] at h
  obtain ⟨⟨name, value⟩, hmem, rfl⟩ := List.mem_map.mp h
  exact ⟨value, hmem, rfl⟩

/-- So does each item. -/
theorem exists_mem_of_mem_ofTomlItems {items : List Value} {part : Tree}
    (h : part ∈ Tree.ofTomlItems items) : ∃ value ∈ items, Tree.ofToml value = part := by
  induction items with
  | nil => cases h
  | cons value items ih =>
      rcases List.mem_cons.mp h with rfl | hmem
      · exact ⟨value, List.mem_cons_self, rfl⟩
      · obtain ⟨other, hother, heq⟩ := ih hmem
        exact ⟨other, List.mem_cons_of_mem _ hother, heq⟩

/-- An entry of the tree of a value is an entry of the value. -/
theorem Value.exists_holds_of_holds_ofToml {key : String} {leaf : Tree} {value : Value}
    (h : Tree.Holds key leaf (Tree.ofToml value)) :
    ∃ who, Holds key who value ∧ Tree.ofToml who = leaf := by
  generalize htree : Tree.ofToml value = tree at h
  induction h generalizing value with
  | here hmem =>
      cases value with
      | table entries =>
          cases htree
          obtain ⟨who, hwho, heq⟩ := exists_mem_of_mem_ofTomlEntries hmem
          exact ⟨who, .here hwho, heq⟩
      | _ => cases htree
  | entry hmem _ ih =>
      cases value with
      | table entries =>
          cases htree
          obtain ⟨part, hpart, heq⟩ := exists_mem_of_mem_ofTomlEntries hmem
          obtain ⟨who, hwho, hleaf⟩ := ih heq
          exact ⟨who, .entry hpart hwho, hleaf⟩
      | _ => cases htree
  | item hmem _ ih =>
      cases value with
      | array items =>
          cases htree
          obtain ⟨part, hpart, heq⟩ := exists_mem_of_mem_ofTomlItems hmem
          obtain ⟨who, hwho, hleaf⟩ := ih heq
          exact ⟨who, .item hpart hwho, hleaf⟩
      | _ => cases htree

/-- A plain value of the tree of a document is one that the document says. -/
theorem exists_says_of_holds {machine : Machine} {document : List (String × Value)}
    {tree : Tree}
    (htree : (Tree.table []).addSource machine (Tree.ofTomlEntries document) = some tree)
    {key : String} {leaf : Tree} (hleaf : leaf.IsPlain) (h : Tree.Holds key leaf tree) :
    ∃ who, Says document key who ∧ Tree.ofToml who = leaf := by
  rcases Tree.holds_of_addSource hleaf htree h with h | ⟨entry, hmem, hgives⟩
  · exact absurd h Tree.not_holds_table_nil
  · obtain ⟨value, hvalue, heq⟩ := exists_mem_of_mem_ofTomlEntries hmem
    rcases hgives with h | ⟨hplace, hsame⟩
    · obtain ⟨who, hwho, hleaf⟩ := Value.exists_holds_of_holds_ofToml (heq ▸ h)
      exact ⟨who, ⟨_, hvalue, .inl hwho⟩, hleaf⟩
    · exact ⟨value, ⟨_, hvalue, .inr ⟨hplace, rfl⟩⟩, heq.trans hsame⟩

end Toml

end RefPolicy
